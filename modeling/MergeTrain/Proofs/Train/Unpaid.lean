import MergeTrain.Proofs.Registry.Unranked
import MergeTrain.Proofs.Train.Twin

/-!
# Priorities that are not paid for

A priority may be configured by everyone, and counts only for owners who have paid for it. Yet the
configured one goes a long way. It is written down with every entry, it is compared and printed when
the queue is listed in a report, and it stays in the registry until the pull request leaves.

That it counts for nothing is a property of two runs. They get the same calls, but for the
priorities that are configured, and everything that can be told apart in the end is what is said in
the summaries of reports.

## Main definitions

* `Link.unranked` — two runs are alike but for configured priorities.
* `trace` — what comes of each call in a list of calls.

## Main results

* `Train.twins_of_unpaid` — no operation lets such runs come apart.
* `Train.unpaid_priorities_are_ignored` — from empty registries, for any calls.
-/

namespace MergeTrain

variable {σ : Type}

/-! ### Planning -/

theorem Facts.decision_unranked (f : Facts) (q : Queue) : f.decision q.unranked = f.decision q := by
  have hfirst : (f.standing q.unranked).isFirst = (f.standing q).isFirst :=
    q.isFirst_unranked f.number
  have hmerge : (f.standing q.unranked).shouldMerge = (f.standing q).shouldMerge := by
    simp only [Standing.shouldMerge, hfirst]
    rfl
  have hupdate : (f.standing q.unranked).shouldUpdate = (f.standing q).shouldUpdate := by
    simp only [Standing.shouldUpdate, hfirst]
    rfl
  rw [decision, hmerge, hupdate, decision]

namespace Evaluation

variable {snapshot : PullSnapshot} {isBehind allowMerge : Bool}

theorem sweep_unranked (e : Evaluation) (s : QueueSettings) (q : Queue) :
    e.sweep s q.unranked = { e.sweep s q with queue := (e.sweep s q).queue.unranked } := by
  have hoverdue : s.overdue q.unranked e.pull.baseRef e.now
      = s.overdue q e.pull.baseRef e.now := by
    rw [QueueSettings.overdue, QueueSettings.overdue]
    cases s.maxWait e.pull.baseRef with
    | none => rfl
    | some minutes => exact q.expired_unranked e.now _
  simp only [sweep, hoverdue, Queue.foldl_remove_unranked]

/-- What is planned does not depend on the priority that is configured. -/
theorem plan_prioritized (e : Evaluation) (priority : Priority) (s : QueueSettings) (q : Queue) :
    (e.prioritized priority).plan s snapshot isBehind allowMerge q
      = e.plan s snapshot isBehind allowMerge q :=
  rfl

/-- Nor does it depend on the priorities that are configured for the others. -/
theorem plan_unranked (e : Evaluation) (s : QueueSettings) (q : Queue) :
    e.plan s snapshot isBehind allowMerge q.unranked =
      { e.plan s snapshot isBehind allowMerge q with
        queue := (e.plan s snapshot isBehind allowMerge q).queue.unranked } := by
  rw [plan, sweep_unranked, plan]
  simp only [Facts.decision_unranked]
  generalize Facts.decision _ _ = d
  cases d with
  | blocked | evict => simp only [Queue.remove_unranked]
  | merge | synchronize | wait => rfl

end Evaluation

/-! ### Reports -/

/-- The title names a place, and a place in the queue has nothing to do with configured
priorities. -/
theorem waitingTitle_unranked (q : Queue) (n : UInt64) (strict : StrictMode) (isBehind : Bool) :
    waitingTitle q.unranked n strict isBehind = waitingTitle q n strict isBehind := by
  rw [waitingTitle, Queue.position?_unranked, waitingTitle]

/-! ### Runs that are alike but for configured priorities -/

/-- Two runs are alike but for configured priorities. The platforms are in the same state, the
registries and queues differ in configured priorities only, and the reports in their summaries. -/
def Link.unranked : Link σ where
  platform := Eq
  registry r r' := r'.unranked = r.unranked
  queue q q' := q'.unranked = q.unranked
  report report report' := report'.conclusion = report.conclusion ∧ report'.title = report.title

variable {t : Train σ} {e : Evaluation}

/-- An owner who has not paid for priorities has the default one. -/
theorem Evaluation.entry_prioritized
    (hunpaid : t.entitlements.allows e.pull.owner.id .priorityQueues = false)
    (priority : Priority) :
    ((e.prioritized priority).entry t.entitlements).unranked
      = (e.entry t.entitlements).unranked := by
  have hpriority : ∀ config : MergeConfig,
      config.effectivePriority t.entitlements e.pull.owner = .medium := by
    intro config
    rw [MergeConfig.effectivePriority, if_neg (by simp [hunpaid])]
  rw [entry, entry]
  simp only [prioritized, hpriority]
  rfl

/-- **No operation lets such runs come apart**, if the owner has not paid for priorities. -/
theorem Train.twins_of_unpaid
    (hunpaid : t.entitlements.allows e.pull.owner.id .priorityQueues = false)
    (priority : Priority) : t.Twins Link.unranked e t.entitlements priority where
  answers := by
    rintro call p _ rfl
    exact ⟨rfl, rfl⟩
  queue := by
    intro r r' hr
    change (r'.queue _).unranked = (r.queue _).unranked
    rw [← Registry.queue_unranked, hr, Registry.queue_unranked]
  follow _ _ hr :=
    Registry.unranked_congr (·.follow e.pull) (·.follow_unranked e.pull) hr
  opened _ _ hr :=
    Registry.unranked_congr (·.open e.pull.queueKey) (·.open_unranked e.pull.queueKey) hr
  update := by
    intro q q' hq r r' hr
    change (r'.update _ _).unranked = (r.update _ _).unranked
    rw [← Registry.set_unranked, hr, hq, Registry.set_unranked]
  leave _ _ hr :=
    Registry.unranked_congr (·.leave e.pull) (·.leave_unranked e.pull) hr
  prune _ _ hr :=
    Registry.unranked_congr (·.prune e.pull.queueKey) (·.prune_unranked e.pull.queueKey) hr
  refusal := rfl
  enqueued := by
    intro q q' hq
    refine .of_map ?_
    rw [← Train.enqueued_unranked, Evaluation.entry_prioritized hunpaid, hq,
      Train.enqueued_unranked]
  plan := by
    intro q q' hq snapshot isBehind allowMerge
    rw [Train.step, Train.step, Evaluation.plan_prioritized]
    have hplan : ∀ q : Queue, t.step e snapshot isBehind allowMerge q.unranked =
        { t.step e snapshot isBehind allowMerge q with
          queue := (t.step e snapshot isBehind allowMerge q).queue.unranked } :=
      e.plan_unranked t.settings.queue
    have hsame := (hplan q').symm.trans
      ((congrArg (t.step e snapshot isBehind allowMerge) hq).trans (hplan q))
    obtain ⟨hdecision, hqueue, hexpired⟩ := Step.mk.inj hsame
    exact ⟨hdecision, hexpired, hqueue⟩
  same _ := ⟨rfl, rfl⟩
  strict _ _ _ := ⟨rfl, rfl⟩
  waiting := by
    intro q q' hq isBehind
    refine ⟨rfl, ?_⟩
    change waitingTitle q' _ _ _ = waitingTitle q _ _ _
    rw [← waitingTitle_unranked, hq, waitingTitle_unranked]

/-! ### Any calls -/

/-- What comes of each call in a list of calls, and what it leaves. -/
def trace : List (TrainCall σ) → Session σ → List (Except Error Outcome × Session σ)
  | [], _ => []
  | call :: calls, s => (call.result s, call.perform s) :: trace calls (call.perform s)

/-- A call with another priority configured. -/
def TrainCall.prioritized (call : TrainCall σ) (priority : Priority) : TrainCall σ :=
  { call with evaluation := call.evaluation.prioritized priority }

/-- Whether the owner of the pull request of a call has paid for priorities. -/
def TrainCall.paysForPriority (call : TrainCall σ) : Bool :=
  call.train.entitlements.allows call.evaluation.pull.owner.id .priorityQueues

/-- Two sessions are alike but for configured priorities: the platform has been asked and has
answered the same, and the registries differ in configured priorities only. -/
structure Session.AlikeUnranked (s s' : Session σ) : Prop where
  exchanges : s'.exchanges = s.exchanges
  platform : s'.platform = s.platform
  registry : s'.registry.unranked = s.registry.unranked

/-- What comes of two calls is alike but for configured priorities: the same failure, or outcomes
that differ in the summary of the report only. -/
structure AlikeUnranked (x x' : Except Error Outcome × Session σ) : Prop where
  result : Alike (Link.unranked : Link σ).Outcomes x.1 x'.1
  session : x.2.AlikeUnranked x'.2

/-- One call. -/
theorem TrainCall.alikeUnranked (call : TrainCall σ) (hunpaid : call.paysForPriority = false)
    (priority : Priority) {s s' : Session σ} (hs : s.AlikeUnranked s') :
    AlikeUnranked (call.result s, call.perform s)
      ((call.prioritized priority).result s', (call.prioritized priority).perform s') := by
  have htwin := (Train.twins_of_unpaid hunpaid priority).perform_twin call.operation
  obtain ⟨made, hmade, hmade', hjoins, hresult⟩ := htwin s s' ⟨hs.platform.symm, hs.registry⟩
  refine ⟨hresult, ⟨?_, hjoins.platform.symm, hjoins.registry⟩⟩
  exact hmade'.trans ((congrArg (· ++ made) hs.exchanges).trans hmade.symm)

/-- Call by call. -/
theorem trace_alikeUnranked {calls calls' : List (TrainCall σ)}
    (hcalls : List.Forall₂ (fun call call' => ∃ priority, call' = call.prioritized priority)
      calls calls')
    (hunpaid : ∀ call ∈ calls, call.paysForPriority = false) {s s' : Session σ}
    (hs : s.AlikeUnranked s') : List.Forall₂ AlikeUnranked (trace calls s) (trace calls' s') := by
  induction hcalls generalizing s s' with
  | nil => exact .nil
  | cons hcall hcalls ih =>
    obtain ⟨priority, rfl⟩ := hcall
    obtain ⟨hfirst, hrest⟩ := List.forall_mem_cons.mp hunpaid
    have halike := TrainCall.alikeUnranked _ hfirst priority hs
    exact .cons halike (ih hrest halike.session)

/-- **A priority that is not paid for counts for nothing.** Two lists of calls are the same but for
the priorities that are configured, and none of the owners has paid for priorities. Carried out from
empty registries and on the same platform, they agree call by call. The results are the same failure
or have the same conclusion, title, merge, state and list of those who were late, the platform is
asked the same and answers the same, and the registries differ in configured priorities only. -/
theorem Train.unpaid_priorities_are_ignored (calls calls' : List (TrainCall σ)) (platform : σ)
    (hcalls : List.Forall₂ (fun call call' => ∃ priority, call' = call.prioritized priority)
      calls calls')
    (hunpaid : ∀ call ∈ calls, call.paysForPriority = false) :
    List.Forall₂ AlikeUnranked (trace calls { platform }) (trace calls' { platform }) :=
  trace_alikeUnranked hcalls hunpaid ⟨rfl, rfl, rfl⟩

/-- Two evaluations in an ordered train, the second of them with a configured priority. -/
def Still.ranked (priority : Priority) : List (TrainCall Unit) :=
  [⟨train {}, evaluation { strict := .ordered }, .run⟩,
    ⟨train {}, { evaluation { strict := .ordered, priority } with pull := pull 2 }, .run⟩]

/-- The second pull request is configured as urgent, in vain. It is told that it was, and that is
the only difference. -/
theorem Train.second_is_not_urgent :
    List.Forall₂ (fun call call' => ∃ priority, call' = call.prioritized priority)
        (Still.ranked .medium) (Still.ranked .high) ∧
      (∀ call ∈ Still.ranked .medium, call.paysForPriority = false) ∧
      List.Forall₂ AlikeUnranked (trace (Still.ranked .medium) { platform := () })
        (trace (Still.ranked .high) { platform := () }) ∧
      (trace (Still.ranked .medium) { platform := () }).map Prod.fst
        ≠ (trace (Still.ranked .high) { platform := () }).map Prod.fst := by
  have hcalls : List.Forall₂ (fun call call' => ∃ priority, call' = call.prioritized priority)
      (Still.ranked .medium) (Still.ranked .high) :=
    .cons ⟨.medium, rfl⟩ (.cons ⟨.high, rfl⟩ .nil)
  have hunpaid : ∀ call ∈ Still.ranked .medium, call.paysForPriority = false := by
    simp only [Still.ranked, List.forall_mem_cons]
    exact ⟨by decide, by decide, by simp⟩
  exact ⟨hcalls, hunpaid,
    Train.unpaid_priorities_are_ignored (Still.ranked .medium) (Still.ranked .high) () hcalls
      hunpaid,
    by decide +kernel⟩

end MergeTrain
