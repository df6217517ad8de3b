import MergeTrain.Proofs.Train.Answer
import MergeTrain.Proofs.Train.FirstCome
import MergeTrain.Proofs.Train.Verdict

/-!
# Draining an ordered train

If nothing goes wrong, an ordered train should be a plain queue: pull requests join it, and those who
are first are merged one after the other until nobody is left. What can go wrong is excluded by
`Train.Unhindered`, which is about the platform, the choices and the settings, and not about the
train.

The point of the proof is that a round evaluates the first in the queue once more. So it enters a
queue in which it already is, and has to come out of that as the first. It does because the entry it
has and the entry it would have agree in all that counts, which is one half of `Train.InLine`. The
other half says who waits. Both halves are kept by everything that a round does, and with each round
one of those who wait is gone.

The order in which pull requests leave is the order of the queue. That need not be the order in which
they were called: nothing is asked of the clock.

## Main definitions

* `Train.calling`, `Train.merging` — the calls that are made.
* `Train.Unhindered` — nothing stands in the way of some pull requests.
* `Train.InLine` — who waits, and that nothing else is the case.
* `Train.Round`, `Train.Rounds` — the first is evaluated and merged, again and again.

## Main results

* `Train.InLine.calling_of_not_mem`, `Train.InLine.calling_of_mem`, `Train.InLine.merging` — what
  each call does to the line.
* `Train.InLine.rounds` — any number of rounds.
* `Train.drains_in_order` — from an empty registry to an empty one.
-/

namespace MergeTrain

variable {σ : Type}

/-- When a pull request is evaluated, and for which rule. -/
structure Occasion where
  rule : Option Rule
  now : Instant

namespace Train

/-- A pull request is evaluated, and its rule matches. -/
def calling (t : Train σ) (config : MergeConfig) (pull : PullRef) (o : Occasion) : TrainCall σ where
  train := t
  evaluation := { pull, config, rule := o.rule, now := o.now }
  operation := .run

/-- A merge that was handed out is performed. -/
def merging (t : Train σ) (config : MergeConfig) (request : MergeRequest) (o : Occasion) :
    TrainCall σ where
  train := t
  evaluation := { pull := request.pull, config, rule := o.rule, now := o.now }
  operation := .completeMerge request

/-- Nothing stands in the way of some pull requests in an ordered train. They have one target and
may wait as long as they like. Until the platform shows one of them as merged, it shows it as
mergeable and up to date, and it merges it when it is asked to. Merging is all that counts. -/
structure Unhindered (t : Train σ) (config : MergeConfig) (key : QueueKey) (pulls : List PullRef)
    (merged : σ → PullRef → Bool) : Prop where
  ordered : config.strict = .ordered
  patient : t.settings.queue.maxWait key.branch = none
  numbers : (pulls.map PullRef.number).Nodup
  target : ∀ pull ∈ pulls, pull.queueKey = key
  paid : ∀ pull ∈ pulls, config.refusal t.entitlements pull.owner = none
  isOpen : ∀ pull ∈ pulls, ∀ p, merged p pull = false → ∃ seen : PullSnapshot,
    (t.platform.answer (.getPull pull) p).1 = .ok seen ∧
      seen.mergeReport t.settings.bots config.strict = none ∧
      (config.mergeMethod seen.rebaseable).isSome
  isMerged : ∀ pull ∈ pulls, ∀ p, merged p pull = true → ∃ seen : PullSnapshot,
    (t.platform.answer (.getPull pull) p).1 = .ok seen ∧ seen.isClosed = true ∧ seen.merged = true
  fresh : ∀ pull ∈ pulls, ∀ p, (t.platform.answer (.isBehind pull) p).1 = .ok false
  merges : ∀ request : MergeRequest, request.pull ∈ pulls → ∀ p, merged p request.pull = false →
    (t.platform.answer (.mergePull request) p).1 = .ok () ∧
      ∀ pull ∈ pulls, merged (t.platform.answer (.mergePull request) p).2 pull
        = (merged p pull || pull == request.pull)
  /-- Nobody is merged by being looked at. -/
  reads : ∀ pull ∈ pulls, ∀ p other,
    merged (t.platform.answer (.getPull pull) p).2 other = merged p other ∧
      merged (t.platform.answer (.isBehind pull) p).2 other = merged p other

end Train

/-! ### Planning -/

/-- In an ordered train in which nobody is late, the first one is merged if it is up to date and can
be, and the others wait. -/
theorem Evaluation.plan_of_ordered {e : Evaluation} {s : QueueSettings} {snapshot : PullSnapshot}
    {queue : Queue} {method : MergeMethod} (hpatient : s.maxWait e.pull.baseRef = none)
    (hordered : e.config.strict = .ordered)
    (hmethod : e.config.mergeMethod snapshot.rebaseable = some method) :
    e.plan s snapshot false true queue =
      { decision := if queue.isFirst e.pull.number then .merge method else .wait
        queue, expired := [] } := by
  rw [plan, sweep_of_onTime fun x _ => isLate_eq_false hpatient x]
  cases hfirst : queue.isFirst e.pull.number <;>
    simp [Facts.decision, Facts.standing, Standing.shouldMerge, Standing.shouldUpdate,
      Standing.isFirst, hordered, hfirst, hmethod]

/-- Whoever enters a queue waits in it. -/
theorem Train.contains_enqueued {entry : QueueEntry} {q q' : Queue} (h : q.numbers.Nodup)
    (he : enqueued entry q = .ok q') : q'.contains entry.number = true := by
  obtain ⟨x, hx, -⟩ := own_enqueued h he
  rw [Queue.contains_iff_own, hx]
  exact List.cons_ne_nil x []

/-- A queue in which somebody waits is there after it was set. -/
theorem Registry.queue_prune_update {r : Registry} {key : QueueKey} {queue : Queue} {n : UInt64}
    (hopen : (r.queue? key).isSome) (hwaits : queue.contains n = true) :
    ((r.update key fun _ => queue).prune key).queue key = queue := by
  have hset : (r.update key fun _ => queue).queue key = queue := queue_update_self hopen _
  rw [← hset] at hwaits
  rw [queue_prune_of_contains hwaits, hset]

/-- A pull request that is evaluated again with the same choices leaves its queue as it is. -/
theorem Train.enqueued_self {entry x : QueueEntry} {q : Queue} (h : q.Sound)
    (hx : q.get? entry.number = some x) (htarget : entry.pull.baseRef = q.branch)
    (hpriority : x.priority = entry.priority) (hconfig : x.config = entry.config) :
    enqueued entry q = .ok q := by
  refine enqueued_eq_ok_iff.mpr ⟨htarget, .inr ⟨x, hx, ?_⟩⟩
  rw [← hpriority, ← hconfig]
  exact (h.moving_self hx).symm

variable {t : Train σ} {e : Evaluation} {key : QueueKey} {pulls : List PullRef}
  {merged : σ → PullRef → Bool} {r r' : Registry} {made : List Exchange}
  {result : Except Error Outcome} {p p' : σ}

/-- So the first one is handed out for merging, the others are told to wait, and nobody is asked
anything. -/
theorem Advances.of_ordered {seen : PullSnapshot} {method : MergeMethod}
    (h : Advances t e seen false true r made result r')
    (hpatient : t.settings.queue.maxWait e.pull.baseRef = none)
    (hordered : e.config.strict = .ordered)
    (hmethod : e.config.mergeMethod seen.rebaseable = some method) :
    made = [] ∧ r' = (r.update e.pull.queueKey fun _ => r.queue e.pull.queueKey) ∧
      ∃ outcome, result = .ok outcome ∧
        if (r.queue e.pull.queueKey).isFirst e.pull.number then
          outcome.state = .mergeable ∧
            ∃ request : MergeRequest, outcome.merge = some request ∧ request.pull = e.pull
        else outcome.state = .queued ∧ outcome.merge = none := by
  obtain ⟨step, made, result, r', hstep, hacts⟩ := h
  obtain rfl := (Evaluation.plan_of_ordered hpatient hordered hmethod).symm.trans hstep
  cases hfirst : (r.queue e.pull.queueKey).isFirst e.pull.number with
  | true =>
    simp only [hfirst, if_true] at hacts
    cases hacts with
    | merges => exact ⟨rfl, rfl, _, rfl, rfl, _, rfl, rfl⟩
  | false =>
    simp only [hfirst] at hacts
    cases hacts with
    | waits => exact ⟨rfl, rfl, _, rfl, rfl, rfl⟩

namespace Train.Unhindered

/-! ### One operation -/

/-- An evaluation enters the queue. Whoever is first there is to be merged, and the others wait. -/
theorem performs_run (hu : t.Unhindered e.config key pulls merged) (hpull : e.pull ∈ pulls)
    (hopen : merged p e.pull = false) (hr : r.Sound) (h : Performs t e r .run made result r')
    (hgives : t.platform.Gives p made p') :
    (∀ other, merged p' other = merged p other) ∧ ∃ queue outcome,
      Train.enqueued (e.entry t.entitlements) (r.queue key) = .ok queue ∧
        r'.queue key = queue ∧ result = .ok outcome ∧
        if queue.isFirst e.pull.number then
          outcome.state = .mergeable ∧
            ∃ request : MergeRequest, outcome.merge = some request ∧ request.pull = e.pull
        else outcome.state = .queued ∧ outcome.merge = none := by
  obtain ⟨seen, hseen, hreport, hmethod⟩ := hu.isOpen e.pull hpull p hopen
  obtain ⟨method, hmethod⟩ := Option.isSome_iff_exists.mp hmethod
  obtain rfl := hu.target e.pull hpull
  have hfresh := hu.fresh e.pull hpull
  obtain ⟨queue, hqueue⟩ := hr.exists_enqueued e t.entitlements
  obtain ⟨after, r₁, rfl, hadvance, rfl⟩ :=
    h.exists_advances hgives (hu.paid e.pull hpull) hseen hreport (hfresh _) hqueue
  have hown : (((r.follow e.pull).open e.pull.queueKey).update e.pull.queueKey
      fun _ => queue).queue e.pull.queueKey = queue :=
    Registry.queue_update_self (by simp [Registry.queue?_open_self]) _
  obtain ⟨rfl, rfl, outcome, rfl, houtcome⟩ := hadvance.of_ordered hu.patient hu.ordered hmethod
  rw [hown] at houtcome ⊢
  refine ⟨fun other => ?_, queue, outcome, hqueue, ?_, rfl, houtcome⟩
  · obtain rfl : p' = _ := hgives.2.2
    rw [(hu.reads e.pull hpull _ other).2, (hu.reads e.pull hpull _ other).1]
  · -- the pull request waits in the queue, so that is not dropped
    exact Registry.queue_prune_update
      (by simp [Registry.queue?_update_self, Registry.queue?_open_self])
      (Train.contains_enqueued (hr.nodup_numbers _) hqueue)

/-- A merge is performed and shown, and the pull request leaves. -/
theorem performs_merge {request : MergeRequest} (hu : t.Unhindered e.config key pulls merged)
    (hpull : request.pull ∈ pulls) (hsame : e.pull = request.pull)
    (hopen : merged p request.pull = false)
    (h : Performs t e r (.completeMerge request) made result r')
    (hgives : t.platform.Gives p made p') :
    (∀ other ∈ pulls, merged p' other = (merged p other || other == request.pull)) ∧
      (∃ outcome, result = .ok outcome ∧ outcome.state = .merged) ∧
      (r'.queue key).entries = ((r.queue key).remove request.pull.number).entries := by
  obtain ⟨hdone, hshows⟩ := hu.merges request hpull p hopen
  obtain ⟨seen, hseen, -, hmerged⟩ := hu.isMerged request.pull hpull
    (t.platform.answer (.mergePull request) p).2 (by simp [hshows _ hpull])
  obtain rfl := hu.target request.pull hpull
  have hreads := hu.reads request.pull hpull
  rw [← hsame] at hseen hreads ⊢
  cases h with
  | ended _ _ r' h =>
    cases h with
    | mergedUnread _ _ error => cases hseen.symm.trans hgives.2.1
    | merged _ _ snapshot =>
      obtain rfl : seen = snapshot := Except.ok.inj (hseen.symm.trans hgives.2.1)
      refine ⟨fun other hother => ?_, ⟨_, rfl, Train.state_mergedOutcome hmerged⟩, ?_⟩
      · obtain rfl : p' = _ := hgives.2.2
        rw [(hreads _ other).1, hshows other hother, hsame]
      · rw [Registry.entries_queue_prune, Registry.queue_leave, Registry.queue_open]
    | mergeBreaks | rejectedUnread | rejectedButMerged | rejected | rejectedForNow
    | rejectedNotCompared => cases hdone.symm.trans hgives.1
  | planned _ after snapshot isBehind _ r₀ r' hplan h =>
    cases hplan with
    | completeMerge => cases hdone.symm.trans hgives.1

end Train.Unhindered

/-! ### Rounds -/

/-- The merges that the platform has been asked for. -/
def Session.mergesAsked (s : Session σ) : List Call :=
  (s.exchanges.map Exchange.call).filter Call.isMerge

theorem TrainCall.mergesAsked_perform (call : TrainCall σ) (s : Session σ) :
    (call.perform s).mergesAsked = s.mergesAsked ++ call.operation.mergeCalls := by
  obtain ⟨made, hmade, h⟩ := call.performs s
  rw [Session.mergesAsked, hmade, List.map_append, List.filter_append, h.filter_isMerge]
  rfl

theorem mergesAsked_performAll (calls : List (TrainCall σ)) (s : Session σ) :
    (performAll calls s).mergesAsked
      = s.mergesAsked ++ calls.flatMap fun call => call.operation.mergeCalls := by
  induction calls generalizing s with
  | nil => exact (List.append_nil _).symm
  | cons call calls ih =>
    change (performAll calls (call.perform s)).mergesAsked = _
    rw [ih, call.mergesAsked_perform, List.append_assoc, List.flatMap_cons]

namespace Train

/-- The first in the queue is evaluated and found mergeable, and the merge that this hands out is
performed. That pull request leaves and nobody else. -/
structure Round (t : Train σ) (config : MergeConfig) (key : QueueKey) (o : Occasion × Occasion)
    (s : Session σ) (request : MergeRequest) (s' : Session σ) : Prop where
  session : s' = (t.merging config request o.2).perform
    ((t.calling config request.pull o.1).perform s)
  first : (s.registry.queue key).entries.head?.map QueueEntry.pull = some request.pull
  handedOut : ∃ outcome, (t.calling config request.pull o.1).result s = .ok outcome ∧
    outcome.state = .mergeable ∧ outcome.merge = some request
  merged : ∃ outcome, (t.merging config request o.2).result
    ((t.calling config request.pull o.1).perform s) = .ok outcome ∧ outcome.state = .merged
  left : (s'.registry.queue key).entries = (s.registry.queue key).entries.tail
  asked : s'.mergesAsked = s.mergesAsked ++ [.mergePull request]

/-- Rounds on these occasions, and the merges that are performed in them. -/
inductive Rounds (t : Train σ) (config : MergeConfig) (key : QueueKey) :
    List (Occasion × Occasion) → Session σ → List MergeRequest → Session σ → Prop
  | nil (s : Session σ) : Rounds t config key [] s [] s
  | cons {o : Occasion × Occasion} {occasions : List (Occasion × Occasion)} {s s' s'' : Session σ}
      {request : MergeRequest} {requests : List MergeRequest}
      (h : t.Round config key o s request s')
      (hrest : Rounds t config key occasions s' requests s'') :
    Rounds t config key (o :: occasions) s (request :: requests) s''

theorem Rounds.mergesAsked_eq {config : MergeConfig} {occasions : List (Occasion × Occasion)}
    {s s' : Session σ} {requests : List MergeRequest}
    (h : t.Rounds config key occasions s requests s') :
    s'.mergesAsked = s.mergesAsked ++ requests.map Call.mergePull := by
  induction h with
  | nil s => exact (List.append_nil _).symm
  | cons h hrest ih => rw [ih, h.asked, List.append_assoc, List.map_cons, List.singleton_append]

/-- Whoever waits behind the first one is told so when it is evaluated, and the queue stays as it
is. -/
def OthersWait (t : Train σ) (config : MergeConfig) (key : QueueKey) (s : Session σ) : Prop :=
  ∀ x ∈ (s.registry.queue key).entries.tail, ∀ o, ∃ outcome,
    (t.calling config x.pull o).result s = .ok outcome ∧ outcome.state = .queued ∧
      outcome.merge = none ∧
      ((t.calling config x.pull o).perform s).registry.queue key = s.registry.queue key

end Train

/-! ### Waiting in line -/

/-- These pull requests wait in a queue, in this order, with the choices that they are evaluated
with. None of them is merged yet, and there is no queue if nobody waits. -/
structure Train.InLine (t : Train σ) (config : MergeConfig) (key : QueueKey)
    (merged : σ → PullRef → Bool) (s : Session σ) (waiting : List PullRef) : Prop where
  sound : s.registry.Sound
  free : s.registry.handles = []
  pulls : (s.registry.queue key).entries.map QueueEntry.pull = waiting
  choices : ∀ x ∈ (s.registry.queue key).entries, x.config = config ∧
    x.priority = config.effectivePriority t.entitlements x.pull.owner
  unmerged : ∀ pull ∈ waiting, merged s.platform pull = false
  closed : waiting = [] → s.registry.queue? key = none

namespace Train.InLine

variable {config : MergeConfig} {s : Session σ} {waiting rest : List PullRef} {pull : PullRef}

theorem empty (t : Train σ) (config : MergeConfig) (key : QueueKey) (merged : σ → PullRef → Bool)
    (platform : σ) : t.InLine config key merged { platform } [] :=
  ⟨Registry.sound_empty, rfl, rfl, by simp [Registry.queue, Registry.queue?, Registry.slot?],
    by simp, fun _ => rfl⟩

theorem nodup_numbers (h : t.InLine config key merged s waiting) :
    (waiting.map PullRef.number).Nodup := by
  have hnumbers := h.sound.nodup_numbers key
  rwa [Queue.numbers, ← h.pulls, List.map_map] at *

/-- Who is first in line is first in the queue. -/
theorem isFirst_eq (h : t.InLine config key merged s waiting) :
    (s.registry.queue key).isFirst pull.number
      = (waiting.head?.map PullRef.number == some pull.number) := by
  rw [Bool.eq_iff_iff, Queue.isFirst_iff, ← h.pulls, List.head?_map, Option.map_map, beq_iff_eq]
  rfl

/-- A pull request that is called for the first time joins the line. -/
theorem calling_of_not_mem (h : t.InLine config key merged s waiting)
    (hu : t.Unhindered config key pulls merged) (hpull : pull ∈ pulls)
    (hnew : pull.number ∉ waiting.map PullRef.number) (hopen : merged s.platform pull = false)
    (o : Occasion) :
    (∀ other, merged ((t.calling config pull o).perform s).platform other
        = merged s.platform other) ∧
      ∃ joined, joined.Perm (pull :: waiting) ∧
        t.InLine config key merged ((t.calling config pull o).perform s) joined := by
  obtain ⟨made, -, hgives, hperforms⟩ := (t.calling config pull o).performs_gives s
  obtain ⟨hsame, queue, -, hqueue, hkept, -⟩ :=
    hu.performs_run hpull hopen h.sound hperforms hgives
  have habsent : pull.number ∉ (s.registry.queue key).numbers := by
    rwa [← h.pulls, List.map_map] at hnew
  obtain ⟨-, ⟨-, rfl⟩ | ⟨x, hx, -⟩⟩ := Train.enqueued_eq_ok_iff.mp hqueue
  · have hperm := Queue.place_perm
      { (t.calling config pull o).entry with arrival := (s.registry.queue key).arrivals }
      (s.registry.queue key).entries
    have hjoined := hperm.map QueueEntry.pull
    rw [List.map_cons, h.pulls] at hjoined
    refine ⟨hsame, _, hjoined, ?_⟩
    refine ⟨(t.calling config pull o).sound_perform h.sound, hperforms.handles_eq.trans h.free,
      congrArg (fun q => q.entries.map QueueEntry.pull) hkept, fun x hx => ?_,
      fun other hother => ?_, fun hnil => ?_⟩
    · rw [hkept] at hx
      rcases List.mem_cons.mp (hperm.mem_iff.mp hx) with rfl | hold
      · exact ⟨rfl, rfl⟩
      · exact h.choices x hold
    · rw [hsame]
      rcases List.mem_cons.mp (hjoined.mem_iff.mp hother) with rfl | hold
      · exact hopen
      · exact h.unmerged other hold
    · rw [hnil] at hjoined
      exact absurd hjoined.symm (List.cons_ne_nil _ _ ∘ List.Perm.eq_nil)
  · exact absurd (Queue.mem_numbers.mpr ⟨x, Queue.mem_of_get? hx⟩) habsent

/-- A pull request that is called again keeps its place. If it is first it is to be merged, and
otherwise it is told to wait. -/
theorem calling_of_mem (h : t.InLine config key merged s waiting)
    (hu : t.Unhindered config key pulls merged) (hsub : waiting ⊆ pulls) (hpull : pull ∈ waiting)
    (o : Occasion) :
    t.InLine config key merged ((t.calling config pull o).perform s) waiting ∧
      ((t.calling config pull o).perform s).registry.queue key = s.registry.queue key ∧
      ∃ outcome, (t.calling config pull o).result s = .ok outcome ∧
        if waiting.head?.map PullRef.number = some pull.number then
          outcome.state = .mergeable ∧
            ∃ request : MergeRequest, outcome.merge = some request ∧ request.pull = pull
        else outcome.state = .queued ∧ outcome.merge = none := by
  obtain ⟨made, -, hgives, hperforms⟩ := (t.calling config pull o).performs_gives s
  obtain ⟨hsame, queue, outcome, hqueue, hkept, hok, houtcome⟩ :=
    hu.performs_run (hsub hpull) (h.unmerged pull hpull) h.sound hperforms hgives
  obtain ⟨x, hx, rfl⟩ := List.mem_map.mp (h.pulls ▸ hpull)
  have hself : Train.enqueued (t.calling config x.pull o).entry (s.registry.queue key)
      = .ok (s.registry.queue key) := by
    have hsound := h.sound.queues key
    refine Train.enqueued_self hsound.sound
      ((Queue.get?_eq_some_iff hsound.sound.numbers).mpr ⟨hx, rfl⟩) ?_ ?_ ?_
    · exact hsound.sound.targets x hx
    · exact (h.choices x hx).2
    · exact (h.choices x hx).1
  obtain rfl : queue = s.registry.queue key := Except.ok.inj (hqueue.symm.trans hself)
  refine ⟨⟨(t.calling config x.pull o).sound_perform h.sound, hperforms.handles_eq.trans h.free,
    ?_, ?_, fun other hother => ?_, fun hnil => ?_⟩, hkept, outcome, hok, ?_⟩
  · rw [hkept]
    exact h.pulls
  · rw [hkept]
    exact h.choices
  · rw [hsame]
    exact h.unmerged other hother
  · rw [hnil] at hpull
    cases hpull
  · simp only [h.isFirst_eq, beq_iff_eq] at houtcome
    exact houtcome

/-- When the merge of the first in line is performed, that one leaves. -/
theorem merging (h : t.InLine config key merged s (pull :: rest))
    (hu : t.Unhindered config key pulls merged) (hsub : pull :: rest ⊆ pulls)
    {request : MergeRequest} (hrequest : request.pull = pull) (o : Occasion) :
    t.InLine config key merged ((t.merging config request o).perform s) rest ∧
      (((t.merging config request o).perform s).registry.queue key).entries
        = (s.registry.queue key).entries.tail ∧
      ∃ outcome, (t.merging config request o).result s = .ok outcome ∧
        outcome.state = .merged := by
  subst hrequest
  obtain ⟨made, -, hgives, hperforms⟩ := (t.merging config request o).performs_gives s
  have hpull : request.pull ∈ pulls := hsub List.mem_cons_self
  obtain ⟨hmerged, hdone, hleft⟩ := hu.performs_merge hpull rfl
    (h.unmerged _ List.mem_cons_self) hperforms hgives
  obtain ⟨x, xs, hentries, hx, hrest⟩ := List.map_eq_cons_iff.mp h.pulls
  have htail : ((s.registry.queue key).remove request.pull.number).entries = xs := by
    rw [Queue.remove, hentries, List.eraseP_cons_of_pos]
    exact beq_iff_eq.mpr (congrArg PullRef.number hx)
  rw [htail] at hleft
  refine ⟨⟨(t.merging config request o).sound_perform h.sound, hperforms.handles_eq.trans h.free,
    ?_, fun y hy => ?_, fun other hother => ?_, ?_⟩, ?_, hdone⟩
  · rw [hleft]
    exact hrest
  · rw [hleft] at hy
    exact h.choices y (hentries ▸ List.mem_cons_of_mem x hy)
  · have hne : other ≠ request.pull := by
      rintro rfl
      exact (List.nodup_cons.mp h.nodup_numbers).1 (List.mem_map_of_mem hother)
    rw [hmerged other (hsub (List.mem_cons_of_mem _ hother)),
      h.unmerged other (List.mem_cons_of_mem _ hother)]
    simpa using hne
  · rintro rfl
    rw [List.map_eq_nil_iff.mp hrest] at hleft
    obtain rfl := hu.target request.pull hpull
    exact hperforms.queue?_eq_none h.free hleft
  · rw [hleft, hentries, List.tail_cons]

/-- Whoever is not first is told to wait, and the queue stays as it is. -/
theorem othersWait (h : t.InLine config key merged s waiting)
    (hu : t.Unhindered config key pulls merged) (hsub : waiting ⊆ pulls) :
    t.OthersWait config key s := by
  intro x hx o
  have hmem : x.pull ∈ waiting := h.pulls ▸ List.mem_map_of_mem (List.mem_of_mem_tail hx)
  obtain ⟨-, hkept, outcome, hok, houtcome⟩ := h.calling_of_mem hu hsub hmem o
  have hlater : waiting.head?.map PullRef.number ≠ some x.pull.number := by
    have hnodup := h.nodup_numbers
    rw [← h.pulls] at hnodup ⊢
    cases hentries : (s.registry.queue key).entries with
    | nil =>
      rw [hentries] at hx
      cases hx
    | cons first others =>
      rw [hentries] at hx hnodup
      intro hfirst
      refine (List.nodup_cons.mp hnodup).1 ?_
      rw [Option.some.inj hfirst]
      exact List.mem_map_of_mem (List.mem_map_of_mem hx)
  rw [if_neg hlater] at houtcome
  exact ⟨outcome, hok, houtcome.1, houtcome.2, hkept⟩

/-- Pull requests that are called one after the other join the line. -/
theorem performAll_calling (h : t.InLine config key merged s waiting)
    (hu : t.Unhindered config key pulls merged) (arrivals : List (PullRef × Occasion))
    (hsub : arrivals.map Prod.fst ⊆ pulls)
    (hnodup : ((arrivals.map Prod.fst ++ waiting).map PullRef.number).Nodup)
    (hopen : ∀ a ∈ arrivals, merged s.platform a.1 = false) :
    ∃ joined, joined.Perm (arrivals.map Prod.fst ++ waiting) ∧
      t.InLine config key merged
        (performAll (arrivals.map fun a => t.calling config a.1 a.2) s) joined := by
  induction arrivals generalizing s waiting with
  | nil => exact ⟨waiting, .refl _, h⟩
  | cons a arrivals ih =>
    have hnew : a.1.number ∉ waiting.map PullRef.number := fun hmem =>
      (List.nodup_cons.mp hnodup).1 (List.map_append ▸ List.mem_append_right _ hmem)
    obtain ⟨hsame, joined, hperm, hjoined⟩ := h.calling_of_not_mem hu (hsub List.mem_cons_self)
      hnew (hopen a List.mem_cons_self) a.2
    have hall : (arrivals.map Prod.fst ++ joined).Perm
        (a.1 :: (arrivals.map Prod.fst ++ waiting)) :=
      (hperm.append_left _).trans List.perm_middle
    obtain ⟨all, hall', hline⟩ := ih hjoined
      (fun pull hpull => hsub (List.mem_cons_of_mem _ hpull))
      ((hall.map PullRef.number).nodup_iff.mpr hnodup)
      fun b hb => (hsame b.1).trans (hopen b (List.mem_cons_of_mem _ hb))
    exact ⟨all, hall'.trans hall, hline⟩

/-- One round. -/
theorem round (h : t.InLine config key merged s (pull :: rest))
    (hu : t.Unhindered config key pulls merged) (hsub : pull :: rest ⊆ pulls)
    (o : Occasion × Occasion) :
    ∃ request s', request.pull = pull ∧ t.Round config key o s request s' ∧
      t.InLine config key merged s' rest := by
  obtain ⟨hline, hkept, outcome, hok, houtcome⟩ :=
    h.calling_of_mem hu hsub List.mem_cons_self o.1
  rw [List.head?_cons, Option.map_some, if_pos rfl] at houtcome
  obtain ⟨hstate, request, hmerge, rfl⟩ := houtcome
  obtain ⟨hline', hleft, hdone⟩ := hline.merging hu hsub rfl o.2
  refine ⟨request, _, rfl, ⟨rfl, ?_, ⟨outcome, hok, hstate, hmerge⟩, hdone, ?_, ?_⟩, hline'⟩
  · rw [← List.head?_map, h.pulls, List.head?_cons]
  · rw [hleft, hkept]
  · rw [TrainCall.mergesAsked_perform, TrainCall.mergesAsked_perform, List.append_assoc]
    rfl

/-- **Any number of rounds**, as long as somebody is left. -/
theorem rounds (h : t.InLine config key merged s waiting)
    (hu : t.Unhindered config key pulls merged) (hsub : waiting ⊆ pulls)
    (occasions : List (Occasion × Occasion)) (hlength : occasions.length ≤ waiting.length) :
    ∃ requests s', t.Rounds config key occasions s requests s' ∧
      requests.map MergeRequest.pull = waiting.take occasions.length ∧
      t.InLine config key merged s' (waiting.drop occasions.length) := by
  induction occasions generalizing s waiting with
  | nil => exact ⟨[], s, .nil s, rfl, h⟩
  | cons o occasions ih =>
    cases waiting with
    | nil => cases hlength
    | cons pull rest =>
      obtain ⟨request, s', rfl, hround, hline⟩ := h.round hu hsub o
      obtain ⟨requests, s'', hrounds, hpulls, hline'⟩ := ih hline
        (fun pull hpull => hsub (List.mem_cons_of_mem _ hpull)) (Nat.le_of_succ_le_succ hlength)
      refine ⟨request :: requests, s'', .cons hround hrounds, ?_, hline'⟩
      rw [List.map_cons, hpulls]
      rfl

end Train.InLine

/-- **An ordered train drains in order.** Pull requests are called one after the other, beginning
with an empty registry, and nothing stands in the way of any of them. Then they all wait, in some
order. In any number of rounds, in each of which the first one is evaluated and the merge handed out
for it is performed, each evaluation finds its pull request mergeable, each merge ends with a merged
one, and exactly the first in the queue leaves. The platform is asked for just these merges, once
each and in the order of the queue. Before, between and after the rounds everybody else who is
evaluated is told to wait, without a merge, and the queue stays as it is. After as many rounds as
there were pull requests, the registry has no queue for the branch. -/
theorem Train.drains_in_order (t : Train σ) (config : MergeConfig) (key : QueueKey)
    (merged : σ → PullRef → Bool) (arrivals : List (PullRef × Occasion)) (platform : σ)
    (hu : t.Unhindered config key (arrivals.map Prod.fst) merged)
    (hopen : ∀ a ∈ arrivals, merged platform a.1 = false) :
    let s := performAll (arrivals.map fun a => t.calling config a.1 a.2) { platform }
    let waiting := (s.registry.queue key).entries.map QueueEntry.pull
    waiting.Perm (arrivals.map Prod.fst) ∧
      ∀ occasions, occasions.length ≤ arrivals.length → ∃ requests s',
        t.Rounds config key occasions s requests s' ∧
        requests.map MergeRequest.pull = waiting.take occasions.length ∧
        s'.mergesAsked = requests.map Call.mergePull ∧
        (s'.registry.queue key).entries.map QueueEntry.pull = waiting.drop occasions.length ∧
        t.OthersWait config key s' ∧
        (occasions.length = arrivals.length → s'.registry.queue? key = none) := by
  intro s waiting
  obtain ⟨joined, hperm, hline⟩ := (InLine.empty t config key merged platform).performAll_calling hu
    arrivals (List.Subset.refl _) (by simpa using hu.numbers) hopen
  rw [List.append_nil] at hperm
  obtain rfl : waiting = joined := hline.pulls
  have hlength : waiting.length = arrivals.length := by
    rw [hperm.length_eq, List.length_map]
  have hnone : s.mergesAsked = [] := by
    rw [mergesAsked_performAll, List.flatMap_map]
    exact List.flatMap_eq_nil_iff.mpr fun a _ => rfl
  refine ⟨hperm, fun occasions hoccasions => ?_⟩
  obtain ⟨requests, s', hrounds, hpulls, hline'⟩ :=
    hline.rounds hu hperm.subset occasions (hoccasions.trans hlength.ge)
  refine ⟨requests, s', hrounds, hpulls, ?_, hline'.pulls, hline'.othersWait hu ?_, ?_⟩
  · rw [hrounds.mergesAsked_eq, hnone, List.nil_append]
  · exact fun pull hpull => hperm.subset (List.mem_of_mem_drop hpull)
  · intro hall
    exact hline'.closed (by rw [hall, ← hlength, List.drop_length])

/-- A pull request as it looks before and after it is merged. -/
def Still.shown (pull : PullRef) (merged : Bool) : PullSnapshot :=
  { (if merged then Still.merged else clean) with pull }

/-- A platform that merges whatever it is asked to merge, and keeps a list of it. -/
def Still.willing : Platform (List PullRef) where
  answer call merged :=
    match call with
    | .getPull pull => (.ok (shown pull (merged.contains pull)), merged)
    | .isBehind _ => (.ok false, merged)
    | .haveBeenSynchronized _ => (.ok false, merged)
    | .getChecks _ => (.ok .empty, merged)
    | .requiredChecks _ _ => (.ok [], merged)
    | .updateBranch _ => (.ok (), merged)
    | .rewriteBranch _ _ _ => (.ok (), merged)
    | .mergePull request => (.ok (), request.pull :: merged)

/-- A train on it in which everybody may wait as long as they like. -/
def Still.patientTrain : Train (List PullRef) :=
  { train {} with platform := willing, settings := { bots := [defaultBot], queue := {} } }

/-- Three pull requests that are called out of the order of the clock. -/
def Still.arrivals : List (PullRef × Occasion) :=
  [(pull 1, ⟨none, ⟨20, 0, by decide⟩⟩), (pull 2, ⟨none, .epoch⟩),
    (pull 3, ⟨none, ⟨10, 0, by decide⟩⟩)]

/-- They are merged in the order of the clock. -/
theorem Train.three_drain :
    Still.patientTrain.Unhindered { strict := .ordered } (Still.pull 1).queueKey
        (Still.arrivals.map Prod.fst) List.contains ∧
      (∀ a ∈ Still.arrivals, [].contains a.1 = false) ∧ ∃ requests s',
        Still.patientTrain.Rounds { strict := .ordered } (Still.pull 1).queueKey
          (List.replicate 3 (⟨none, .epoch⟩, ⟨none, .epoch⟩))
          (performAll (Still.arrivals.map fun a =>
            Still.patientTrain.calling { strict := .ordered } a.1 a.2) { platform := [] })
          requests s' ∧
        requests.map (fun request => request.pull.number) = [2, 3, 1] ∧
        s'.mergesAsked = requests.map Call.mergePull ∧
        s'.registry.queue? (Still.pull 1).queueKey = none := by
  have hu : Still.patientTrain.Unhindered { strict := .ordered } (Still.pull 1).queueKey
      (Still.arrivals.map Prod.fst) List.contains :=
    { ordered := rfl
      patient := rfl
      numbers := by decide
      target := by decide
      paid := by decide
      isOpen := fun pull _ merged hopen =>
        ⟨Still.shown pull false, congrArg (fun b => Except.ok (Still.shown pull b)) hopen, rfl, rfl⟩
      isMerged := fun pull _ merged hmerged =>
        ⟨Still.shown pull true, congrArg (fun b => Except.ok (Still.shown pull b)) hmerged, rfl, rfl⟩
      fresh := fun _ _ _ => rfl
      merges := fun request _ merged _ =>
        ⟨rfl, fun pull _ => List.contains_cons.trans (Bool.or_comm _ _)⟩
      reads := fun _ _ _ _ => ⟨rfl, rfl⟩ }
  have hopen : ∀ a ∈ Still.arrivals, [].contains a.1 = false := fun _ _ => rfl
  obtain ⟨-, hdrains⟩ := Train.drains_in_order Still.patientTrain { strict := .ordered }
    (Still.pull 1).queueKey List.contains Still.arrivals [] hu hopen
  obtain ⟨requests, s', hrounds, hpulls, hasked, -, -, hnone⟩ :=
    hdrains (List.replicate 3 (⟨none, .epoch⟩, ⟨none, .epoch⟩)) (by decide)
  refine ⟨hu, hopen, requests, s', hrounds, ?_, hasked, hnone (by decide)⟩
  have horder := congrArg (List.map PullRef.number) hpulls
  rw [List.map_map] at horder
  exact horder.trans (by decide +kernel)

end MergeTrain
