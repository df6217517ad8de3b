import MergeTrain.Proofs.Train.Drain
import MergeTrain.Proofs.Train.Expiry

/-!
# Evaluating again

A pull request that is evaluated a second time, with nothing changed meanwhile, is told what it was
told before, and the registry stays as it is. The program does not look whether anything has
changed. It takes the entry out and puts it back, sweeps the queue and plans again, and all of this
comes to nothing for three reasons. The entry agrees with the one that would be made, so it goes
back to its place. The plan was made on the queue that is there now, but for those who were late.
And a pull request that keeps its place keeps its queue open, so that nothing is opened or dropped.

What can change is the time. It makes no difference as long as it makes nobody late.

## Main definitions

* `Evaluation.redated` — the same evaluation at another time.
* `Train.Stays` — what lies behind an evaluation that keeps its pull request.

## Main results

* `Evaluation.plan_again` — a plan is made again.
* `Train.Stays.enqueued_again` — to enter the queue again changes nothing.
* `Train.run_again` — an evaluation that keeps its pull request can be repeated.
-/

namespace MergeTrain

attribute [ext] Step

namespace Evaluation

variable {e : Evaluation} {s : QueueSettings} {q : Queue} {snapshot : PullSnapshot}
  {isBehind allowMerge : Bool} {now : Instant}

/-- The same evaluation at another time. -/
def redated (e : Evaluation) (now : Instant) : Evaluation :=
  { e with now }

@[simp] theorem pull_redated (e : Evaluation) (now : Instant) : (e.redated now).pull = e.pull :=
  rfl

/-- A plan that keeps the pull request in its queue comes out the same when it is made again on
the queue that it has left, at a time at which nobody is late. -/
theorem plan_again (hkept : (e.plan s snapshot isBehind allowMerge q).decision.state?.isSome)
    (honTime : ∀ x ∈ (e.plan s snapshot isBehind allowMerge q).queue.entries,
      (e.redated now).isLate s x = false) :
    (e.redated now).plan s snapshot isBehind allowMerge
        (e.plan s snapshot isBehind allowMerge q).queue =
      { e.plan s snapshot isBehind allowMerge q with expired := [] } := by
  have hown : (e.sweep s q).own = false := Facts.expired_eq_false hkept
  have hqueue := (own_queue_plan hkept).1
  have hswept : (e.redated now).sweep s (e.sweep s q).queue
      = { queue := (e.sweep s q).queue, own := false, others := [] } :=
    sweep_of_onTime (hqueue ▸ honTime)
  rw [hqueue]
  have hdecision : ((e.redated now).plan s snapshot isBehind allowMerge
      (e.sweep s q).queue).decision = (e.plan s snapshot isBehind allowMerge q).decision := by
    simp only [plan, hswept, hown]
    rfl
  refine Step.ext hdecision ?_ (congrArg Sweep.others hswept)
  rw [queue_plan, hdecision, hswept, queue_plan]
  rfl

end Evaluation

variable {σ : Type} {t : Train σ} {e : Evaluation} {r r' r'' : Registry}
  {made made' : List Exchange} {outcome : Outcome} {result : Except Error Outcome}
  {p p₁ p' p₁' : σ} {now : Instant} {snapshot : PullSnapshot} {isBehind : Bool} {queue : Queue}
  {d : Decision}

/-- What is decided again is done again, if the platform answers as it did. -/
theorem Acts.again (hsteady : t.platform.Steady)
    (h : Acts t e snapshot isBehind queue r d made (.ok outcome) r')
    (hlive : outcome.state.isLive = true) (hgives : t.platform.Gives p made p₁)
    (hagain : Acts t (e.redated now) snapshot isBehind queue r d made' result r'')
    (hgives' : t.platform.Gives p' made' p₁') :
    result = .ok outcome ∧ r'' = r := by
  cases h with
  | waits | merges =>
    cases hagain
    exact ⟨rfl, rfl⟩
  | blocks | evicts => cases hlive
  | updateFails =>
    rw [Outcome.isLive_stateAfterUpdate] at hlive
    cases hlive
  | updates method answer =>
    have hanswer := (hsteady _ p' p).trans hgives.1
    cases hagain with
    | updates => exact ⟨rfl, rfl⟩
    | updateFails | rereadFails | updateBreaks => cases hanswer.symm.trans hgives'.1

/-- What an evaluation has found and done when it keeps its pull request. Nothing stands in the way
of the pull request, which enters the queue. The plan that is made there is carried out, and the
registry is as it leaves it. -/
structure Train.Stays (t : Train σ) (e : Evaluation) (r : Registry) (snapshot : PullSnapshot)
    (isBehind : Bool) (planning : Queue) (after : List Exchange) (inner : Outcome)
    (r' : Registry) : Prop where
  paid : t.refusal? e = none
  unreported : t.report? e snapshot = none
  entered : Train.enqueued (e.entry t.entitlements) (r.queue e.pull.queueKey) = .ok planning
  kept : (t.step e snapshot isBehind true planning).decision.state?.isSome
  left : r'.queue e.pull.queueKey = (t.step e snapshot isBehind true planning).queue
  acts : Acts t e snapshot isBehind (t.step e snapshot isBehind true planning).queue r'
    (t.step e snapshot isBehind true planning).decision after (.ok inner) r'

/-- An evaluation that keeps its pull request has planned so. -/
theorem Performs.exists_stays (h : Performs t e r .run made (.ok outcome) r') (hr : r.Sound)
    (hlive : outcome.state.isLive = true) :
    ∃ snapshot isBehind planning after inner,
      made = ⟨.getPull e.pull, .ok snapshot⟩ :: ⟨.isBehind e.pull, .ok isBehind⟩ :: after ∧
      outcome = { inner with expired := (t.step e snapshot isBehind true planning).expired } ∧
      t.Stays e r snapshot isBehind planning after inner r' := by
  cases h with
  | ended _ _ _ h =>
    rw [h.isLive_eq_false rfl] at hlive
    cases hlive
  | planned _ after snapshot isBehind _ r₀ r' hplan h =>
    have hqueue? := hplan.isSome_queue?
    have hplanning := hplan.planningQueue_eq
    obtain ⟨step, inner, rfl, hacts, rfl⟩ := h.of_ok
    obtain ⟨rfl, hstate, -, -⟩ := hacts.live hlive
    obtain ⟨-, hown⟩ := Evaluation.own_queue_plan (e := e) (Option.isSome_of_mem hstate)
    have hleft := Registry.queue_update_self hqueue? fun _ =>
      (t.step e snapshot isBehind Operation.run.allowsMerge (r₀.queue e.pull.queueKey)).queue
    replace hown := (congrArg (fun q => q.own e.pull.number) hleft).trans hown
    -- the pull request waits in the queue that the plan leaves behind, so that is not dropped
    have hwaits : (r₀.queue e.pull.queueKey).contains e.pull.number = true :=
      Train.contains_enqueued (hr.nodup_numbers _) hplanning
    rw [Queue.contains_iff_own, ← hown, ← Queue.contains_iff_own] at hwaits
    rw [Registry.prune_of_contains hwaits]
    cases hplan with
    | run _ _ _ hpaid hreport =>
      exact ⟨snapshot, isBehind, _, after, inner, rfl, rfl, hpaid, hreport, hplanning,
        Option.isSome_of_mem hstate, hleft, hacts⟩

namespace Train.Stays

variable {planning : Queue} {after : List Exchange} {inner : Outcome}

/-- The pull request has an entry in the queue that it has left, with the present choices. -/
theorem exists_get? (h : t.Stays e r snapshot isBehind planning after inner r') (hr : r.Sound)
    (hr' : r'.Sound) : ∃ x, (r'.queue e.pull.queueKey).get? e.pull.number = some x ∧
      x.config = e.config ∧
      x.priority = e.config.effectivePriority t.entitlements e.pull.owner := by
  obtain ⟨x, hx, hconfig, hpriority, -⟩ := Train.own_enqueued (hr.nodup_numbers _) h.entered
  refine ⟨x, ?_, hconfig, hpriority⟩
  have hown : x ∈ (r'.queue e.pull.queueKey).own e.pull.number := by
    rw [h.left, Train.step, (Evaluation.own_queue_plan h.kept).2]
    exact hx ▸ List.mem_singleton_self x
  obtain ⟨hmem, hnumber⟩ := List.mem_filter.mp hown
  exact (Queue.get?_eq_some_iff (hr'.nodup_numbers _)).mpr ⟨hmem, eq_of_beq hnumber⟩

theorem contains (h : t.Stays e r snapshot isBehind planning after inner r') (hr : r.Sound)
    (hr' : r'.Sound) : (r'.queue e.pull.queueKey).contains e.pull.number = true := by
  obtain ⟨x, hx, -⟩ := h.exists_get? hr hr'
  exact Queue.contains_iff.mpr (Queue.mem_numbers.mpr ⟨x, Queue.mem_of_get? hx⟩)

/-- To enter that queue again changes nothing there. -/
theorem enqueued_again (h : t.Stays e r snapshot isBehind planning after inner r') (hr : r.Sound)
    (hr' : r'.Sound) (now : Instant) :
    Train.enqueued ((e.redated now).entry t.entitlements) (r'.queue e.pull.queueKey)
      = .ok (r'.queue e.pull.queueKey) := by
  obtain ⟨x, hx, hconfig, hpriority⟩ := h.exists_get? hr hr'
  exact Train.enqueued_self (hr'.queues e.pull.queueKey).sound hx
    (hr'.queues e.pull.queueKey).branch.symm hpriority hconfig

end Train.Stays

/-- A second evaluation enters the queue where the first has left it, makes the plan that was made
there and carries it out. -/
theorem Performs.again (hsteady : t.platform.Steady) (hr : r.Sound)
    (h : Performs t e r .run made (.ok outcome) r') (hlive : outcome.state.isLive = true)
    (hgives : t.platform.Gives p made p₁)
    (honTime : ∀ x ∈ (r'.queue e.pull.queueKey).entries,
      (e.redated now).isLate t.settings.queue x = false)
    (hagain : Performs t (e.redated now) r' .run made' result r'')
    (hgives' : t.platform.Gives p' made' p₁') :
    result = .ok { outcome with expired := [] } ∧ r'' = r' := by
  have hsound : r'.Sound := h.sound hr
  have hsettled : r'.Settled e.pull := h.settled rfl hr.nodup_numbers
  obtain ⟨snapshot, isBehind, planning, after, inner, rfl, rfl, hstays⟩ := h.exists_stays hr hlive
  have hwaits := hstays.contains hr hsound
  have hsame : ((r'.follow e.pull).open e.pull.queueKey).update e.pull.queueKey
      (fun _ => r'.queue e.pull.queueKey) = r' := by
    rw [hsettled.follow_eq hsound, Registry.open_of_contains hwaits, hsound.update_queue]
  obtain ⟨after', r₁, rfl, hadvance, rfl⟩ := hagain.exists_advances hgives' hstays.paid
    ((hsteady _ _ _).trans hgives.1) hstays.unreported ((hsteady _ _ _).trans hgives.2.1)
    (hstays.enqueued_again hr hsound now)
  rw [Evaluation.pull_redated, hsame] at hadvance
  obtain ⟨step, after', result', r₁, hstep, hacts'⟩ := hadvance
  rw [Evaluation.pull_redated, hstays.left] at hstep
  obtain rfl : { t.step e snapshot isBehind true planning with expired := [] } = step :=
    (Evaluation.plan_again hstays.kept (hstays.left ▸ honTime)).symm.trans hstep
  rw [Evaluation.pull_redated, ← hstays.left, hsound.update_queue] at hacts'
  have hacts := hstays.acts
  rw [← hstays.left] at hacts
  obtain ⟨rfl, rfl⟩ := hacts.again hsteady hlive hgives.2.2 hacts' hgives'.2.2
  exact ⟨rfl, Registry.prune_of_contains hwaits⟩

/-- **To evaluate again changes nothing.** The answers of a platform depend on the calls alone, and
an evaluation there, from any sound registry, keeps its pull request. The same pull request is then
evaluated with the same choices and the same rule, at any time at which nobody in its queue is late.
It is told the same, but for those who had been late the first time, and the registry stays as it
is. -/
theorem Train.run_again (t : Train σ) (e : Evaluation) (now : Instant) (s s' : Session σ)
    (hsteady : t.platform.Steady) (hs : s.registry.Sound) (outcome : Outcome)
    (hok : ((t.perform e .run).runOn s).1 = .ok outcome) (hlive : outcome.state.isLive = true)
    (hleft : s'.registry = ((t.perform e .run).runOn s).2.registry)
    (honTime : ∀ x ∈ (s'.registry.queue e.pull.queueKey).entries,
      (e.redated now).isLate t.settings.queue x = false) :
    ((t.perform (e.redated now) .run).runOn s').1 = .ok { outcome with expired := [] } ∧
      ((t.perform (e.redated now) .run).runOn s').2.registry = s'.registry := by
  obtain ⟨made, -, hgives, h⟩ := (TrainCall.mk t e .run).performs_gives s
  obtain ⟨made', -, hgives', hagain⟩ := (TrainCall.mk t (e.redated now) .run).performs_gives s'
  have hresult : (TrainCall.mk t e .run).result s = .ok outcome := hok
  have hregistry : s'.registry = ((TrainCall.mk t e .run).perform s).registry := hleft
  rw [hresult, ← hregistry] at h
  exact h.again hsteady hs hlive hgives honTime hagain hgives'

/-- The first pull request ten minutes before its second evaluation. -/
def Still.earlier : Evaluation :=
  evaluationOf 1 ⟨-600, 0, by decide⟩

/-- The first time the second pull request has to leave. Ten minutes later the third one has waited
for just an hour, and the first one is told to wait for it once more. -/
theorem Train.first_runs_again :
    (Still.train {}).platform.Steady ∧ Still.busy.registry.Sound ∧ ∃ outcome,
      (((Still.train {}).perform Still.earlier .run).runOn Still.busy).1 = .ok outcome ∧
      outcome.state = .queued ∧ outcome.expired = [2] ∧
      (((Still.train {}).perform (Still.earlier.redated .epoch) .run).runOn
        (((Still.train {}).perform Still.earlier .run).runOn Still.busy).2).1
          = .ok { outcome with expired := [] } ∧
      (((Still.train {}).perform (Still.earlier.redated .epoch) .run).runOn
        (((Still.train {}).perform Still.earlier .run).runOn Still.busy).2).2.registry
          = (((Still.train {}).perform Still.earlier .run).runOn Still.busy).2.registry := by
  have hs : Still.busy.registry.Sound := sound_performAll _ Registry.sound_empty
  have htest : ((((Still.train {}).perform Still.earlier .run).runOn Still.busy).1.toOption.any
      fun outcome => outcome.state == .queued && outcome.expired == [2]) = true := by
    decide +kernel
  obtain ⟨outcome, hok, htest⟩ := Still.exists_outcome htest
  obtain ⟨hstate, hexpired⟩ := Bool.and_eq_true_iff.mp htest
  have hlive : outcome.state.isLive = true := by
    rw [eq_of_beq hstate]
    rfl
  have honTime : ∀ x ∈ ((((Still.train {}).perform Still.earlier .run).runOn
      Still.busy).2.registry.queue Still.earlier.pull.queueKey).entries,
      (Still.earlier.redated .epoch).isLate (Still.train {}).settings.queue x = false := by
    decide +kernel
  exact ⟨Still.steady {}, hs, outcome, hok, eq_of_beq hstate, eq_of_beq hexpired,
    Train.run_again (Still.train {}) Still.earlier .epoch Still.busy _ (Still.steady {}) hs outcome
      hok hlive rfl honTime⟩

end MergeTrain
