import MergeTrain.Proofs.Train.Gate
import MergeTrain.Proofs.Train.History

/-!
# Live states

A pull request is reported as waiting, as being updated or as being merged: it is in the train, and
something comes next. Such a report is worth something if it agrees with the queue, and the queue
that counts is the one that the operation leaves behind, without those who were late.

The state that is reported is never computed from that queue. It is attached to what was decided,
before the head branch was updated and before the registry was cleaned up. That it is the same as
the one that `Standing.state` works out afterwards is what is proved here, with all that goes with
it: the pull request has one entry, with the present choices and the time at which it first came,
and the place in the title is its place in the queue.

## Main definitions

* `TrainState.isLive` — the pull request is in the train.
* `Decision.state?` — the state that goes with a decision.
* `Outcome.Planned` — a live state comes of a plan.
* `Outcome.Truthful` — an outcome agrees with the queue as it is left behind.

## Main results

* `Acts.live`, `Performs.live` — where an operation reports a live state, its plan has left the
  queue behind and decided so.
* `Facts.state_of_decision` — what is decided is what the standing calls for.
* `Train.run_reports_truly` — an evaluation of a pull request whose rule matches reports the truth.
-/

namespace MergeTrain

/-- Whether a pull request in this state is in the train. -/
def TrainState.isLive : TrainState → Bool
  | .queued | .synchronizing | .mergeable => true
  | _ => false

/-- The state that goes with a decision that keeps the pull request in its queue. -/
def Decision.state? : Decision → Option TrainState
  | .wait => some .queued
  | .synchronize _ => some .synchronizing
  | .merge _ => some .mergeable
  | _ => none

/-! ### Places in a queue -/

namespace Queue

variable {q : Queue} {n : UInt64}

theorem isSome_position? : (q.position? n).isSome = q.contains n := by
  rw [position?, contains, List.findIdx?_isSome]

/-- Who is not first has a place behind the first one. -/
theorem one_le_of_position? {p : Nat} (hfirst : q.isFirst n = false)
    (hp : q.position? n = some p) : 1 ≤ p := by
  rw [isFirst] at hfirst
  rw [position?] at hp
  cases hq : q.entries with
  | nil =>
    rw [hq] at hp
    cases hp
  | cons head rest =>
    rw [hq] at hfirst hp
    rw [List.findIdx?_cons, if_neg (by simpa using hfirst)] at hp
    obtain ⟨i, -, rfl⟩ := Option.map_eq_some_iff.mp hp
    exact Nat.le_add_left 1 i

end Queue

/-- A queue in which somebody waits is not dropped. -/
theorem Registry.queue_prune_of_contains {r : Registry} {key : QueueKey} {n : UInt64}
    (h : (r.queue key).contains n = true) (k : QueueKey) : (r.prune key).queue k = r.queue k := by
  rw [prune_of_contains h]

/-! ### What is decided -/

/-- The sweep leaves the pull request alone. -/
theorem Evaluation.own_queue_sweep (e : Evaluation) (s : QueueSettings) (q : Queue) :
    (e.sweep s q).queue.own e.pull.number = q.own e.pull.number :=
  Queue.own_foldl_remove fun _ hm => (mem_others_sweep.mp hm).1

/-- A plan that keeps the pull request in the queue leaves its entry alone. -/
theorem Evaluation.own_queue_plan {e : Evaluation} {s : QueueSettings} {q : Queue}
    {snapshot : PullSnapshot} {isBehind allowMerge : Bool}
    (h : (e.plan s snapshot isBehind allowMerge q).decision.state?.isSome) :
    (e.plan s snapshot isBehind allowMerge q).queue = (e.sweep s q).queue ∧
      (e.plan s snapshot isBehind allowMerge q).queue.own e.pull.number = q.own e.pull.number := by
  have hqueue : (e.plan s snapshot isBehind allowMerge q).queue = (e.sweep s q).queue := by
    rw [queue_plan]
    cases hd : (e.plan s snapshot isBehind allowMerge q).decision with
    | wait | synchronize | merge => rfl
    | blocked | evict =>
      rw [hd] at h
      cases h
  exact ⟨hqueue, hqueue ▸ own_queue_sweep e s q⟩

/-- **What is decided is what the standing calls for**, where a merge may be decided. -/
theorem Facts.state_of_decision {f : Facts} {q : Queue} {state : TrainState}
    (hallow : f.allowMerge = true) (h : (f.decision q).state? = some state) :
    (f.standing q).state true = state := by
  rw [decision, hallow] at h
  rw [Standing.state]
  cases hexpired : f.expired with
  | true => simp [hexpired, Decision.state?] at h
  | false =>
    cases hmerge : (f.standing q).shouldMerge with
    | true =>
      simp only [hexpired, hmerge, Bool.false_eq_true, if_false, if_true] at h
      cases hmethod : f.config.mergeMethod f.rebaseable with
      | none => simp [hmethod, Decision.state?] at h
      | some method => simpa [hmethod, Decision.state?] using h
    | false =>
      cases hupdate : (f.standing q).shouldUpdate <;>
        simpa [hexpired, hmerge, hupdate, Decision.state?] using h

/-- Who waits in an ordered train is not first. -/
theorem Standing.isFirst_of_queued {s : Standing} (hstate : s.state true = .queued)
    (hordered : s.strict = .ordered) : s.isFirst = false := by
  rw [Standing.state, shouldMerge, shouldUpdate, hordered] at hstate
  cases hfirst : s.isFirst with
  | false => rfl
  | true => cases hbehind : s.isBehind <;> simp [hfirst, hbehind] at hstate

/-! ### What is reported -/

variable {σ : Type} {t : Train σ} {e : Evaluation} {r r₀ r' : Registry} {op : Operation}
  {snapshot : PullSnapshot} {isBehind allowMerge : Bool} {queue : Queue} {d : Decision}
  {made before : List Exchange} {outcome : Outcome}

theorem Outcome.isLive_stateOf (snapshot : PullSnapshot) (report : StatusReport) :
    (stateOf snapshot report).isLive = false := by
  rw [stateOf]
  split
  · rfl
  · split <;> rfl

theorem Outcome.isLive_stateAfterUpdate (report : StatusReport) :
    (stateAfterUpdate report).isLive = false := by
  rw [stateAfterUpdate]
  split <;> rfl

/-- An evaluation that ends before a plan reports no live state. -/
theorem Ends.isLive_eq_false (h : Ends t e r op made (.ok outcome) r')
    (hop : op.followsTarget = true) : outcome.state.isLive = false := by
  cases h with
  | refused | unmatchedLoose | cancelled => rfl
  | reported => exact Outcome.isLive_stateOf _ _
  | unmatchedReported =>
    split
    · exact Outcome.isLive_stateOf _ _
    · rfl
  | merged | rejectedButMerged | rejected | rejectedForNow => cases hop

/-- A live state is the one that goes with the decision, and the queue is left as planned. -/
theorem Acts.live (h : Acts t e snapshot isBehind queue r d made (.ok outcome) r')
    (hlive : outcome.state.isLive = true) :
    r' = r ∧ d.state? = some outcome.state ∧
      (outcome.merge.isSome = true ↔ outcome.state = .mergeable) ∧
      (outcome.state = .queued →
        outcome.report.title = waitingTitle queue e.pull.number e.config.strict isBehind) := by
  cases h with
  | waits | merges | updates => simp [Decision.state?, waitingStatus, StatusReport.pending]
  | blocks | evicts => cases hlive
  | updateFails =>
    rw [Outcome.isLive_stateAfterUpdate] at hlive
    cases hlive

/-! ### Asking for the freshness -/

@[simp] theorem Call.isComparison_getPull (pull : PullRef) : (getPull pull).isComparison = false :=
  rfl

@[simp] theorem UpdateTask.isComparison_call (task : UpdateTask) :
    task.call.isComparison = false := by
  rw [call]
  cases task.method <;> rfl

/-- The freshness of the head branch is asked for once before a plan. -/
theorem Plans.filter_isComparison (h : Plans t e r op before snapshot isBehind r₀) :
    before.filter (fun x => x.call.isComparison) = [⟨.isBehind e.pull, .ok isBehind⟩] := by
  cases h <;> rfl

theorem Acts.filter_isComparison {result : Except Error Outcome}
    (h : Acts t e snapshot isBehind queue r d made result r') :
    made.filter (fun x => x.call.isComparison) = [] := by
  cases h <;> simp

/-! ### Whole operations -/

/-- What stands behind an outcome with a live state: a plan that keeps the pull request in its
queue. It was made on the freshness that the platform told. The queue was `old` before, and
`planning` when it was planned on. -/
structure Outcome.Planned (outcome : Outcome) (t : Train σ) (e : Evaluation) (op : Operation)
    (snapshot : PullSnapshot) (isBehind : Bool) (old planning : Queue) (made : List Exchange) :
    Prop where
  queue : op.planningQueue t e old = .ok planning
  state : (t.step e snapshot isBehind op.allowsMerge planning).decision.state? = some outcome.state
  compared : made.filter (fun x => x.call.isComparison) = [⟨.isBehind e.pull, .ok isBehind⟩]
  merge : outcome.merge.isSome = true ↔ outcome.state = .mergeable
  title : outcome.state = .queued → outcome.report.title = waitingTitle
    (t.step e snapshot isBehind op.allowsMerge planning).queue e.pull.number e.config.strict isBehind

/-- **Behind a live state stands a plan**, and the queue is left as it was planned, but for being
dropped if nobody is in it. -/
theorem Performs.live (h : Performs t e r op made (.ok outcome) r')
    (hop : op.followsTarget = true) (hlive : outcome.state.isLive = true) :
    ∃ snapshot isBehind planning,
      outcome.Planned t e op snapshot isBehind (r.queue e.pull.queueKey) planning made ∧
      ∃ planned : Registry, r' = planned.prune e.pull.queueKey ∧
        planned.queue e.pull.queueKey
          = (t.step e snapshot isBehind op.allowsMerge planning).queue := by
  cases h with
  | ended _ _ _ h =>
    rw [h.isLive_eq_false hop] at hlive
    cases hlive
  | planned before after snapshot isBehind _ r₀ r' hplan h =>
    obtain ⟨step, inner, rfl, hacts, rfl⟩ := h.of_ok
    obtain ⟨rfl, hstate, hmerge, htitle⟩ := hacts.live hlive
    have hcompared : (before ++ after).filter (fun x => x.call.isComparison)
        = [⟨.isBehind e.pull, .ok isBehind⟩] := by
      rw [List.filter_append, hplan.filter_isComparison, hacts.filter_isComparison,
        List.append_nil]
    exact ⟨snapshot, isBehind, r₀.queue e.pull.queueKey,
      ⟨hplan.planningQueue_eq, hstate, hcompared, hmerge, htitle⟩, _, rfl,
      Registry.queue_update_self hplan.isSome_queue? _⟩

/-! ### Evaluating a rule that matches -/

/-- An outcome agrees with the queue that is left behind. The freshness is the one that the platform
told, and `old` is the queue before. -/
structure Outcome.Truthful (outcome : Outcome) (t : Train σ) (e : Evaluation) (isBehind : Bool)
    (old new : Queue) : Prop where
  /-- The pull request waits once, with the present choices. If it had been waiting, it has kept the
  time at which it came and its arrival. -/
  entry : ∃ x, new.own e.pull.number = [x] ∧ x.config = e.config ∧
    x.priority = e.config.effectivePriority t.entitlements e.pull.owner ∧
    match old.get? e.pull.number with
    | some y => x.enqueuedAt = y.enqueuedAt ∧ x.arrival = y.arrival
    | none => x.enqueuedAt = e.now
  state : outcome.state = Standing.state
    { number := e.pull.number, isBehind, strict := e.config.strict, queue := new } true
  merge : outcome.merge.isSome = true ↔ outcome.state = .mergeable
  /-- Who waits in an ordered train is told its place, which is not the first one. -/
  place : outcome.state = .queued → e.config.strict = .ordered →
    ∃ p, new.position? e.pull.number = some p ∧ 1 ≤ p ∧
      outcome.report.title
        = "The pull request is the " ++ ordinal (p + 1) ++ " in the queue to be merged"

/-- What a pull request has in the queue that it has entered, or in which it has moved. -/
theorem Train.own_enqueued {entry : QueueEntry} {q q' : Queue} (h : q.numbers.Nodup)
    (he : enqueued entry q = .ok q') :
    ∃ x, q'.own entry.number = [x] ∧ x.config = entry.config ∧ x.priority = entry.priority ∧
      match q.get? entry.number with
      | some y => x.enqueuedAt = y.enqueuedAt ∧ x.arrival = y.arrival
      | none => x.enqueuedAt = entry.enqueuedAt := by
  obtain ⟨-, ⟨hn, rfl⟩ | ⟨y, hy, rfl⟩⟩ := enqueued_eq_ok_iff.mp he
  · refine ⟨_, Queue.own_taking hn, rfl, rfl, ?_⟩
    rw [Queue.get?_eq_none_iff.mpr hn]
  · have hown := Queue.own_moving h y entry.priority entry.config
    rw [(Queue.mem_of_get? hy).2] at hown
    refine ⟨_, hown, rfl, rfl, ?_⟩
    rw [hy]
    exact ⟨rfl, rfl⟩

/-- The title of who waits in an ordered train. -/
theorem waitingTitle_ordered {q : Queue} {n : UInt64} {p : Nat} (hp : q.position? n = some p)
    (isBehind : Bool) :
    waitingTitle q n .ordered isBehind
      = "The pull request is the " ++ ordinal (p + 1) ++ " in the queue to be merged" := by
  rw [waitingTitle, hp]
  rfl

theorem Performs.run_truthful (h : Performs t e r .run made (.ok outcome) r')
    (hr : (r.queue e.pull.queueKey).numbers.Nodup) (hlive : outcome.state.isLive = true) :
    ∃ isBehind, made.filter (fun x => x.call.isComparison) = [⟨.isBehind e.pull, .ok isBehind⟩] ∧
      outcome.Truthful t e isBehind (r.queue e.pull.queueKey) (r'.queue e.pull.queueKey) := by
  obtain ⟨snapshot, isBehind, planning, hplan, planned, rfl, hplanned⟩ := h.live rfl hlive
  obtain ⟨hswept, hown⟩ := Evaluation.own_queue_plan (e := e) (Option.isSome_of_mem hplan.state)
  obtain ⟨x, hx, hconfig, hpriority, hkept⟩ := Train.own_enqueued hr hplan.queue
  have hcontains : (planned.queue e.pull.queueKey).contains e.pull.number = true := by
    rw [Queue.contains_iff_own, hplanned, Train.step, hown]
    exact hx ▸ List.cons_ne_nil x []
  -- the pull request waits there, so the queue is not dropped
  have hqueue := Registry.queue_prune_of_contains hcontains e.pull.queueKey
  rw [hplanned] at hqueue hcontains
  have hderived := Facts.state_of_decision rfl hplan.state
  rw [← hswept] at hderived
  refine ⟨isBehind, hplan.compared, ?_⟩
  rw [hqueue]
  refine ⟨⟨x, hown.trans hx, hconfig, hpriority, hkept⟩, hderived.symm, hplan.merge, ?_⟩
  intro hqueued hordered
  obtain ⟨p, hp⟩ := Option.isSome_iff_exists.mp (Queue.isSome_position?.trans hcontains)
  rw [hqueued] at hderived
  refine ⟨p, hp, Queue.one_le_of_position? (Standing.isFirst_of_queued hderived hordered) hp, ?_⟩
  rw [hplan.title hqueued, hordered]
  exact waitingTitle_ordered hp isBehind

/-- **Live states are true.** When the evaluation of a pull request whose rule matches reports that
it waits, is being updated or is to be merged, then it waits in the queue of its target, once, with
the present choices, and has kept its time and its arrival if it was there before. The state is the
one that follows from the queue as it is now and from what the platform told about the head branch.
A merge is handed out exactly with the state that says so, and who waits in an ordered train is told
its place. -/
theorem Train.run_reports_truly (t : Train σ) (e : Evaluation) (s : Session σ)
    (hs : s.registry.Distinct) (outcome : Outcome)
    (hok : ((t.perform e .run).runOn s).1 = .ok outcome) (hlive : outcome.state.isLive = true) :
    ∃ made isBehind, ((t.perform e .run).runOn s).2.exchanges = s.exchanges ++ made ∧
      made.filter (fun x => x.call.isComparison) = [⟨.isBehind e.pull, .ok isBehind⟩] ∧
      outcome.Truthful t e isBehind (s.registry.queue e.pull.queueKey)
        (((t.perform e .run).runOn s).2.registry.queue e.pull.queueKey) := by
  obtain ⟨made, hmade, h⟩ := t.perform_does e s.registry .run s rfl
  rw [hok] at h
  obtain ⟨isBehind, hbehind, htruthful⟩ := h.run_truthful (hs.queue _) hlive
  exact ⟨made, isBehind, hmade, hbehind, htruthful⟩

/-- An ordered train in which the first pull request stands behind one that is late and one that is
not. -/
def Still.third : Session Unit :=
  waiting [lateEntry 2 { strict := .ordered } 0, newEntry 3 { strict := .ordered } 1,
    newEntry 1 { strict := .ordered } 2]

/-- From the third place it has come to the second one, and that is where it is told to wait. -/
theorem Train.third_moves_up :
    Still.third.registry.Distinct ∧ ∃ outcome isBehind,
      (((Still.train {}).perform (Still.evaluation { strict := .ordered }) .run).runOn
        Still.third).1 = .ok outcome ∧ outcome.state = .queued ∧
      outcome.Truthful (Still.train {}) (Still.evaluation { strict := .ordered }) isBehind
        (Still.third.registry.queue (Still.pull 1).queueKey)
        ((((Still.train {}).perform (Still.evaluation { strict := .ordered }) .run).runOn
          Still.third).2.registry.queue (Still.pull 1).queueKey) := by
  have hs : Still.third.registry.Distinct := by decide
  have hqueued : ((((Still.train {}).perform (Still.evaluation { strict := .ordered }) .run).runOn
      Still.third).1.toOption.any fun outcome => outcome.state = .queued) = true := by
    decide +kernel
  obtain ⟨outcome, hok, hqueued⟩ := Still.exists_outcome hqueued
  have hstate : outcome.state = .queued := of_decide_eq_true hqueued
  obtain ⟨made, isBehind, -, -, htruthful⟩ := Train.run_reports_truly (Still.train {})
    (Still.evaluation { strict := .ordered }) Still.third hs outcome hok (by rw [hstate]; rfl)
  exact ⟨hs, outcome, isBehind, hok, hstate, htruthful⟩

end MergeTrain
