import Mathlib.Data.List.Induction
import MergeTrain.Proofs.Train.Expiry

/-!
# Stale merges

A merge is handed out by one operation and performed by another one. In between the queue is open to
everyone: another evaluation may find the pull request late, and its own rule may stop matching.
Either way it is evicted, and one would think that it is not merged then. But an operation that
performs a merge looks at no queue before it asks the platform.

What there is to say is where the pull request of such a merge stands. Only an evaluation that finds
its rule matching puts it into the queue of its target. Only operations on the pull request itself
take it out again, or evaluations of others on the same branch that find it late. So it is in the
queue exactly if it has been queued there and not been evicted since, and if not it is merged all
the same.

## Main definitions

* `TrainCall.Queues`, `TrainCall.Evicts` — the two ways in which a call changes where a pull request
  stands.
* `Queued`, `Evicted` — it was queued in a history, or evicted and not queued again.
* `handedOut`, `Honors` — the merges that a history hands out, and histories that perform no others.

## Main results

* `Performs.enters`, `Performs.leaves` — who enters a queue, and who leaves it.
* `TrainCall.holds_perform_iff` — who waits after a call.
* `holds_performAll_iff` — who waits after a history.
* `Honors.exists_queued` — a merge is handed out only for who has been queued.
* `Train.merges_whether_evicted_or_not` — both, for every merge that a history performs.
* `Train.late_is_merged` — a pull request that is evicted as late and merged.
-/

namespace MergeTrain

/-- Two references are to one pull request, whatever branch it targets in each. -/
def PullRef.IsSame (pull pull' : PullRef) : Prop :=
  pull.repository = pull'.repository ∧ pull.number = pull'.number

theorem PullRef.IsSame.trans {a b c : PullRef} (h : a.IsSame b) (h' : b.IsSame c) : a.IsSame c :=
  ⟨h.1.trans h'.1, h.2.trans h'.2⟩

theorem PullRef.IsSame.symm {a b : PullRef} (h : a.IsSame b) : b.IsSame a :=
  ⟨h.1.symm, h.2.symm⟩

namespace Registry

variable {r : Registry} {pull : PullRef}

theorem holds_iff :
    r.holds pull = true ↔ ∃ x ∈ (r.queue pull.queueKey).entries, x.number = pull.number := by
  rw [holds, Queue.contains_iff, Queue.mem_numbers]

/-- An entry that is not one of the others is the one of the pull request. -/
theorem mem_others_or_isSame {pull' : PullRef} {x : QueueEntry}
    (hx : x ∈ (r.queue pull.queueKey).entries) (hn : x.number = pull.number) :
    x ∈ r.others pull' pull.queueKey ∨ pull'.IsSame pull := by
  cases hother : pull'.isOther pull.queueKey x with
  | true => exact .inl (List.mem_filter.mpr ⟨hx, hother⟩)
  | false =>
    obtain ⟨hrepository, hnumber⟩ := Bool.or_eq_false_iff.mp hother
    exact .inr ⟨(bne_eq_false_iff_eq.mp hrepository).symm,
      (bne_eq_false_iff_eq.mp hnumber).symm.trans hn⟩

end Registry

variable {σ : Type}

/-! ### Being queued and being evicted -/

namespace TrainCall

/-- A call queues a pull request: its rule matches, and it waits for the branch afterwards. -/
structure Queues (call : TrainCall σ) (s : Session σ) (pull : PullRef) : Prop where
  operation : call.operation = .run
  target : call.evaluation.pull.queueKey = pull.queueKey
  number : call.evaluation.pull.number = pull.number
  held : (call.perform s).registry.holds pull = true

/-- A call evicts a pull request from the queue of its target. Either it is about that pull request
itself, or it is about another one on the branch and finds this one late. -/
structure Evicts (call : TrainCall σ) (s : Session σ) (pull : PullRef) : Prop where
  held : s.registry.holds pull = true
  left : (call.perform s).registry.holds pull = false
  reason : call.evaluation.pull.IsSame pull ∨ call.evaluation.pull.queueKey = pull.queueKey ∧
    ∃ x ∈ (s.registry.queue pull.queueKey).entries, x.number = pull.number ∧
      call.evaluation.isLate call.train.settings.queue x = true

/-- The merge that a call hands out. -/
def request? (call : TrainCall σ) (s : Session σ) : Option MergeRequest :=
  (call.result s).toOption.bind Outcome.merge

end TrainCall

/-- A call of a history queues a pull request. -/
def Queued : List (TrainCall σ) → Session σ → PullRef → Prop
  | [], _, _ => False
  | call :: calls, s, pull => call.Queues s pull ∨ Queued calls (call.perform s) pull

/-- A call of a history evicts a pull request, and none after it queues it again. -/
def Evicted : List (TrainCall σ) → Session σ → PullRef → Prop
  | [], _, _ => False
  | call :: calls, s, pull =>
    call.Evicts s pull ∧ ¬ Queued calls (call.perform s) pull ∨ Evicted calls (call.perform s) pull

/-- The merges that are handed out in a history. -/
def handedOut : List (TrainCall σ) → Session σ → List MergeRequest
  | [], _ => []
  | call :: calls, s => (call.request? s).toList ++ handedOut calls (call.perform s)

/-- Every merge that a history performs was handed out before, and for the pull request that it is
performed for. -/
def Honors (calls : List (TrainCall σ)) (s : Session σ) : Prop :=
  ∀ before call after request, calls = before ++ call :: after →
    call.operation = .completeMerge request →
      request ∈ handedOut before s ∧ call.evaluation.pull.IsSame request.pull

variable {t : Train σ} {e : Evaluation} {r r' : Registry} {op : Operation} {made : List Exchange}
  {result : Except Error Outcome} {outcome : Outcome} {pull : PullRef} {request : MergeRequest}

/-! ### One operation -/

/-- **Who enters a queue.** A pull request comes to wait for a branch by its own evaluation there,
when its rule matches. -/
theorem Performs.enters (h : Performs t e r op made result r') (hr : r.Distinct)
    (hnew : r.holds pull = false) (hheld : r'.holds pull = true) :
    op = .run ∧ e.pull.queueKey = pull.queueKey ∧ e.pull.number = pull.number := by
  have hnone : ∀ x ∈ (r.queue pull.queueKey).entries, x.number ≠ pull.number := fun x hx hn => by
    rw [Registry.holds_iff.mpr ⟨x, hx, hn⟩] at hnew
    cases hnew
  obtain ⟨x, hx, hn⟩ := Registry.holds_iff.mp hheld
  have hop : op = .run := by
    by_contra hop
    exact hnone x ((h.thinner hop pull.queueKey).subset hx) hn
  have hsame : e.pull.IsSame pull := by
    refine (Registry.mem_others_or_isSame hx hn).resolve_left fun hother => ?_
    -- the others are among those who were there before
    have hold : x ∈ r.others e.pull pull.queueKey := by
      rcases h.others_eq hr pull.queueKey with heq | ⟨-, heq⟩
      · exact heq ▸ hother
      · exact List.mem_of_mem_filter (heq ▸ hother)
    exact hnone x (List.mem_of_mem_filter hold) hn
  have hsettled := h.settled (by rw [hop]; rfl) hr.queue
  refine ⟨hop, (hsettled pull.queueKey hsame.1.symm ?_).symm, hsame.2⟩
  rw [hsame.2]
  exact Queue.mem_numbers.mpr ⟨x, hx, hn⟩

/-- **Who leaves a queue** does so by an operation on itself, or is late when another one is
planned for. -/
theorem Performs.leaves (h : Performs t e r op made result r') (hr : r.Distinct)
    (hheld : r.holds pull = true) (hleft : r'.holds pull = false) :
    e.pull.IsSame pull ∨ e.pull.queueKey = pull.queueKey ∧
      ∃ x ∈ (r.queue pull.queueKey).entries, x.number = pull.number ∧
        e.isLate t.settings.queue x = true := by
  obtain ⟨x, hx, hn⟩ := Registry.holds_iff.mp hheld
  have hgone : x ∉ r'.others e.pull pull.queueKey := fun hstays => by
    rw [Registry.holds_iff.mpr ⟨x, List.mem_of_mem_filter hstays, hn⟩] at hleft
    cases hleft
  refine (Registry.mem_others_or_isSame hx hn).symm.imp_right fun hother => ?_
  rcases h.others_eq hr pull.queueKey with heq | ⟨hkey, heq⟩
  · exact absurd (heq ▸ hother) hgone
  · refine ⟨hkey.symm, x, hx, hn, ?_⟩
    rw [heq, List.mem_filter, not_and, Bool.not_eq_true', Bool.not_eq_false] at hgone
    exact hgone hother

/-- A merge is handed out for the pull request under evaluation, and by an evaluation only if its
rule matches. -/
theorem Performs.merge_eq_some (h : Performs t e r op made (.ok outcome) r')
    (hmerge : outcome.merge = some request) :
    request.pull = e.pull ∧ op.allowsMerge = true ∧ outcome.state = .mergeable := by
  cases h with
  | ended _ _ _ h =>
    rw [h.merge_eq_none] at hmerge
    cases hmerge
  | planned before after snapshot isBehind _ r₀ r' hplan h =>
    obtain ⟨step, inner, hstep, hacts, rfl⟩ := h.of_ok
    generalize hd : step.decision = d at hacts
    cases hacts with
    | merges method =>
      rw [← hstep] at hd
      obtain ⟨-, -, hallow, -⟩ := Facts.decision_eq_merge_iff.mp hd
      refine ⟨?_, hallow, rfl⟩
      rw [← Option.some.inj hmerge]
      rfl
    | _ => cases hmerge

/-- Who is handed out for merging by an evaluation waits. -/
theorem Performs.holds_of_merge (h : Performs t e r .run made (.ok outcome) r') (hr : r.Distinct)
    (hmerge : outcome.merge = some request) : r'.holds e.pull = true := by
  obtain ⟨-, -, hstate⟩ := h.merge_eq_some hmerge
  obtain ⟨isBehind, -, htruthful⟩ := h.run_truthful (hr.queue _) (by rw [hstate]; rfl)
  obtain ⟨x, hx, -⟩ := htruthful.entry
  rw [Registry.holds, Queue.contains_iff_own, hx]
  exact List.cons_ne_nil x []

variable {call : TrainCall σ} {calls more : List (TrainCall σ)} {s : Session σ}

/-! ### Who waits after a history -/

namespace TrainCall

/-- **Who waits after a call** has waited before it or is queued by it, and is not evicted by it. -/
theorem holds_perform_iff (hs : s.registry.Sound) :
    (call.perform s).registry.holds pull = true ↔
      (s.registry.holds pull = true ∨ call.Queues s pull) ∧ ¬ call.Evicts s pull := by
  obtain ⟨made, -, h⟩ := call.performs s
  constructor
  · intro hheld
    refine ⟨?_, fun hevicts => Bool.false_ne_true (hevicts.left.symm.trans hheld)⟩
    cases hnew : s.registry.holds pull with
    | true => exact .inl rfl
    | false =>
      obtain ⟨hop, htarget, hnumber⟩ := h.enters hs.distinct hnew hheld
      exact .inr ⟨hop, htarget, hnumber, hheld⟩
  · rintro ⟨hold | hqueues, hkept⟩
    · by_contra hleft
      have hleft := Bool.eq_false_iff.mpr hleft
      exact hkept ⟨hold, hleft, h.leaves hs.distinct hold hleft⟩
    · exact hqueues.held

end TrainCall

/-- **Who waits after a history** has waited before it or was queued in it, and was not evicted
since. -/
theorem holds_performAll_iff (hs : s.registry.Sound) :
    (performAll calls s).registry.holds pull = true ↔
      (s.registry.holds pull = true ∨ Queued calls s pull) ∧ ¬ Evicted calls s pull := by
  induction calls generalizing s with
  | nil => simp [performAll, Queued, Evicted]
  | cons call calls ih =>
    change (performAll calls (call.perform s)).registry.holds pull = true ↔ _
    rw [ih (call.sound_perform hs), TrainCall.holds_perform_iff hs, Queued, Evicted]
    -- an eviction by the first call counts unless a later one queues the pull request again
    rw [and_or_right, or_assoc, and_assoc, not_or, not_and_not_right, imp_iff_not_or]

/-! ### Merges that were handed out -/

theorem queued_append :
    Queued (calls ++ more) s pull ↔
      Queued calls s pull ∨ Queued more (performAll calls s) pull := by
  induction calls generalizing s with
  | nil => simp [Queued, performAll]
  | cons call calls ih =>
    rw [List.cons_append, Queued, Queued, ih, or_assoc]
    rfl

theorem handedOut_append (calls more : List (TrainCall σ)) (s : Session σ) :
    handedOut (calls ++ more) s = handedOut calls s ++ handedOut more (performAll calls s) := by
  induction calls generalizing s with
  | nil => rfl
  | cons call calls ih =>
    rw [List.cons_append, handedOut, handedOut, ih, List.append_assoc]
    rfl

theorem honors_nil (s : Session σ) : Honors [] s :=
  fun before call after _ hsplit _ =>
    absurd hsplit.symm (List.append_ne_nil_of_right_ne_nil before (List.cons_ne_nil call after))

theorem Honors.concat (h : Honors calls s)
    (hcall : ∀ request, call.operation = .completeMerge request →
      request ∈ handedOut calls s ∧ call.evaluation.pull.IsSame request.pull) :
    Honors (calls ++ [call]) s := by
  intro before call' after request hsplit hop
  rcases List.eq_nil_or_concat' after with rfl | ⟨after, last, rfl⟩
  · obtain ⟨rfl, hlast⟩ := List.append_inj' hsplit rfl
    obtain rfl := List.singleton_inj.mp hlast
    exact hcall request hop
  · rw [← List.cons_append, ← List.append_assoc] at hsplit
    exact h before call' after request (List.append_inj_left' hsplit rfl) hop

theorem Honors.left (h : Honors (calls ++ more) s) : Honors calls s :=
  fun before call after request hcalls hop =>
    h before call (after ++ more) request (by rw [hcalls, List.append_assoc]; rfl) hop

theorem Honors.last (h : Honors (calls ++ [call]) s)
    (hop : call.operation = .completeMerge request) :
    request ∈ handedOut calls s ∧ call.evaluation.pull.IsSame request.pull :=
  h calls call [] request rfl hop

/-- A call that hands out a merge queues the pull request, or was to perform another merge of it. -/
theorem TrainCall.of_request? (hs : s.registry.Sound) (h : call.request? s = some request) :
    request.pull = call.evaluation.pull ∧
      (call.Queues s request.pull ∨ ∃ old, call.operation = .completeMerge old) := by
  obtain ⟨outcome, houtcome, hmerge⟩ := Option.bind_eq_some_iff.mp h
  obtain ⟨made, -, hperforms⟩ := call.performs s
  cases hresult : call.result s with
  | error error =>
    rw [hresult] at houtcome
    cases houtcome
  | ok outcome' =>
    rw [hresult] at houtcome hperforms
    obtain rfl : outcome' = outcome := Option.some.inj houtcome
    obtain ⟨hpull, hallow, -⟩ := hperforms.merge_eq_some hmerge
    refine ⟨hpull, ?_⟩
    rw [hpull]
    cases hop : call.operation with
    | run =>
      rw [hop] at hperforms
      exact .inl ⟨hop, rfl, rfl, hperforms.holds_of_merge hs.distinct hmerge⟩
    | cancelFlow =>
      rw [hop] at hallow
      cases hallow
    | completeMerge old => exact .inr ⟨old, rfl⟩

/-- **A merge is handed out only for who has been queued**, on the branch of the merge or on the one
that the pull request targeted before. -/
theorem Honors.exists_queued (h : Honors calls s) (hs : s.registry.Sound)
    (hrequest : request ∈ handedOut calls s) :
    ∃ pull, pull.IsSame request.pull ∧ Queued calls s pull := by
  -- from the last call back: a merge that was handed out in place of a refused one is traced to it
  induction calls using List.reverseRecOn generalizing request with
  | nil => cases hrequest
  | append_singleton calls call ih =>
    have hmono : ∀ {pull}, Queued calls s pull → Queued (calls ++ [call]) s pull :=
      fun hq => queued_append.mpr (.inl hq)
    rw [handedOut_append] at hrequest
    rcases List.mem_append.mp hrequest with hbefore | hlast
    · obtain ⟨pull, hsame, hq⟩ := ih h.left hbefore
      exact ⟨pull, hsame, hmono hq⟩
    · have hlast : call.request? (performAll calls s) = some request := by
        simpa [handedOut] using hlast
      obtain ⟨hpull, hq | ⟨old, hop⟩⟩ := TrainCall.of_request? (sound_performAll calls hs) hlast
      · exact ⟨request.pull, ⟨rfl, rfl⟩, queued_append.mpr (.inr (.inl hq))⟩
      · obtain ⟨hold, hsame⟩ := h.last hop
        obtain ⟨pull, hsame', hq⟩ := ih h.left hold
        exact ⟨pull, hpull ▸ hsame'.trans hsame.symm, hmono hq⟩

/-- **A merge is performed whether or not its pull request was evicted.** In a history that performs
only merges that were handed out for the same pull request before, the platform is asked for exactly
those, each once. The pull request of such a merge was queued by an evaluation before. But when the
platform is asked, it waits for the branch of the merge exactly if it was queued there and has not
been evicted since. -/
theorem Train.merges_whether_evicted_or_not (calls : List (TrainCall σ)) (platform : σ)
    (hcalls : Honors calls { platform }) (before after : List (TrainCall σ)) (call : TrainCall σ)
    (hsplit : calls = before ++ call :: after) :
    let s := performAll before { platform }
    (∃ made, (call.perform s).exchanges = s.exchanges ++ made ∧
      (made.map Exchange.call).filter Call.isMerge = call.operation.mergeCalls) ∧
    ∀ request, call.operation = .completeMerge request →
      (∃ pull, pull.IsSame request.pull ∧ Queued before { platform } pull) ∧
      (s.registry.holds request.pull = true ↔
        Queued before { platform } request.pull ∧ ¬ Evicted before { platform } request.pull) := by
  intro s
  constructor
  · obtain ⟨made, hmade, h⟩ := call.performs s
    exact ⟨made, hmade, h.filter_isMerge⟩
  · intro request hop
    have hbefore : Honors before { platform } := Honors.left (hsplit ▸ hcalls)
    obtain ⟨hrequest, -⟩ := hcalls before call after request hsplit hop
    refine ⟨hbefore.exists_queued Registry.sound_empty hrequest, ?_⟩
    rw [holds_performAll_iff Registry.sound_empty]
    exact and_congr_left fun _ => or_iff_right Bool.false_ne_true

/-- The merge that an evaluation of the first pull request hands out. -/
def Still.firstMerge : MergeRequest :=
  { pull := Still.pull 1, method := .merge }

/-- That merge is performed. -/
def Still.merging : TrainCall Unit :=
  ⟨train {}, evaluation {}, .completeMerge firstMerge⟩

/-- The second pull request comes between the merge that is handed out and the merge that is
performed. -/
def Still.handover (first : Instant) : List (TrainCall Unit) :=
  [calling 1 first, calling 2 .epoch]

theorem Still.honors_handover {first : Instant}
    (h : firstMerge ∈ handedOut (handover first) { platform := () }) :
    Honors (handover first ++ [merging]) { platform := () } := by
  have hfirst : Honors [calling 1 first] { platform := () } :=
    (honors_nil _).concat fun request hop => nomatch hop
  have hsecond : Honors (handover first) { platform := () } :=
    hfirst.concat fun request hop => nomatch hop
  refine hsecond.concat fun request hop => ?_
  cases hop
  exact ⟨h, rfl, rfl⟩

/-- Who is handed out for merging and is not late when the second pull request comes was queued and
was not evicted. -/
theorem Train.punctual_waits_for_merge :
    Honors (Still.handover .epoch ++ [Still.merging]) { platform := () } ∧
      Queued (Still.handover .epoch) { platform := () } (Still.pull 1) ∧
      ¬ Evicted (Still.handover .epoch) { platform := () } (Still.pull 1) := by
  have hcalls : Honors (Still.handover .epoch ++ [Still.merging]) { platform := () } :=
    Still.honors_handover (by decide +kernel)
  have hheld : (performAll (Still.handover .epoch) { platform := () }).registry.holds
      (Still.pull 1) = true := by
    decide +kernel
  obtain ⟨-, hmerge⟩ := Train.merges_whether_evicted_or_not _ () hcalls (Still.handover .epoch) []
    Still.merging rfl
  exact ⟨hcalls, (hmerge Still.firstMerge rfl).2.mp hheld⟩

/-- Who is late by then is evicted, and the platform is asked to merge it all the same. -/
theorem Train.late_is_merged :
    Honors (Still.handover Still.tooEarly ++ [Still.merging]) { platform := () } ∧
      let s := performAll (Still.handover Still.tooEarly) { platform := () }
      s.registry.holds (Still.pull 1) = false ∧
        ∃ made, (Still.merging.perform s).exchanges = s.exchanges ++ made ∧
          (made.map Exchange.call).filter Call.isMerge = [.mergePull Still.firstMerge] := by
  refine ⟨Still.honors_handover (by decide +kernel), by decide +kernel, ?_⟩
  obtain ⟨made, hmade, h⟩ :=
    Still.merging.performs (performAll (Still.handover Still.tooEarly) { platform := () })
  exact ⟨made, hmade, h.filter_isMerge⟩

end MergeTrain
