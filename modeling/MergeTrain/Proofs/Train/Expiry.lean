import MergeTrain.Proofs.Keyed
import MergeTrain.Proofs.Train.Frame

/-!
# Waiting too long

How long a pull request may wait is limited for all branches or for some. What a branch says itself
overrides what is said in general, be it stricter or not. The limit is looked at when a plan is
made, and then for everyone in the queue at once: the others who are late leave and are named in the
outcome, and the pull request itself, if it is late, is turned away.

Nobody keeps a list of those who have left. That the outcome names them, all of them and no one
else, is told by comparing the queue before the operation with the queue after it: whoever was in
the one and is not in the other. This is where it matters that an evaluation lets its own pull
request enter or move before the sweep, and that the others keep their order while it does.

## Main definitions

* `QueueSettings.Limits` — the limit of a branch, its own or the general one.
* `Evaluation.Late` — an entry has waited for longer than that.
* `Registry.lost` — the others who have left a queue.
* `Outcome.Accounts` — an outcome names them, and with reason.
* `Outcome.TurnedAway` — a pull request has left because it was late itself.

## Main results

* `QueueSettings.maxWait_eq_iff`, `Evaluation.isLate_iff` — the limit is what it should be, and so
  is who is late.
* `Performs.accounts` — every outcome accounts for those who have left.
* `Performs.onTime_of_isLive` — an evaluation that keeps its pull request leaves no late one behind.
* `Performs.turnedAway` — a late pull request is turned away when it is planned for.
* `Train.expired_are_lost` — all of this, from any sound registry.
-/

namespace MergeTrain

/-! ### Limits -/

/-- How many minutes a pull request may wait on a branch. What the branch says itself counts. If it
says nothing, it is as many as on any branch, or there is no limit. -/
inductive QueueSettings.Limits (s : QueueSettings) (branch : String) : Option UInt32 → Prop where
  | own {b : BranchSettings} {minutes : UInt32} (hbranch : (branch, b) ∈ s.branches.entries)
    (hown : b.maxWaitMinutes = some minutes) : Limits s branch (some minutes)
  | general (hnone : ∀ b, (branch, b) ∈ s.branches.entries → b.maxWaitMinutes = none) :
    Limits s branch s.maxWaitMinutes

/-- A branch has one limit, and it is the one that is looked at. -/
theorem QueueSettings.maxWait_eq_iff {s : QueueSettings} {branch : String}
    {limit : Option UInt32} : s.maxWait branch = limit ↔ s.Limits branch limit := by
  constructor
  · rintro rfl
    rw [maxWait]
    cases hown : (s.branches.get? branch).bind BranchSettings.maxWaitMinutes with
    | none =>
      refine .general fun b hmem => ?_
      exact Option.bind_eq_none_iff.mp hown b (NameMap.get?_eq_some_iff.mpr hmem)
    | some minutes =>
      obtain ⟨b, hbranch, hown⟩ := Option.bind_eq_some_iff.mp hown
      exact .own (NameMap.get?_eq_some_iff.mp hbranch) hown
  · rintro (⟨hbranch, hown⟩ | hnone)
    · rw [maxWait, NameMap.get?_eq_some_iff.mpr hbranch, Option.bind_some, hown, Option.some_or]
    · have hown : (s.branches.get? branch).bind BranchSettings.maxWaitMinutes = none :=
        Option.bind_eq_none_iff.mpr fun b hbranch => hnone b (NameMap.get?_eq_some_iff.mp hbranch)
      rw [maxWait, hown, Option.none_or]

/-- An entry has waited for more minutes than the target branch allows. -/
def Evaluation.Late (e : Evaluation) (s : QueueSettings) (x : QueueEntry) : Prop :=
  ∃ minutes, s.Limits e.pull.baseRef (some minutes) ∧
    (minutes.toNat : Int) * 60 * 1000000000 < e.now.since x.enqueuedAt

namespace Evaluation

variable {e : Evaluation} {s : QueueSettings} {x : QueueEntry}

theorem isLate_iff : e.isLate s x = true ↔ e.Late s x := by
  have hlimit : e.Late s x ↔ ∃ minutes, s.maxWait e.pull.baseRef = some minutes ∧
      nanosOfMinutes minutes.toNat < e.now.since x.enqueuedAt := by
    refine exists_congr fun minutes => and_congr QueueSettings.maxWait_eq_iff.symm ?_
    rw [nanosOfMinutes, nanosOfSeconds, nanosPerSecond]
    omega
  rw [hlimit, isLate]
  cases s.maxWait e.pull.baseRef with
  | none => simp
  | some minutes => simp

theorem not_late_iff : ¬e.Late s x ↔ e.isLate s x = false := by
  rw [← isLate_iff, Bool.not_eq_true]

end Evaluation

/-! ### Who has left -/

namespace Registry

variable {r r' : Registry} {pull : PullRef} {key : QueueKey} {gone : QueueEntry → Bool}

/-- The others whose numbers are not in the queue of a key any more. -/
def lost (r r' : Registry) (pull : PullRef) (key : QueueKey) : List QueueEntry :=
  (r.others pull key).filter fun x => !(r'.queue key).contains x.number

/-- Where no pull request waits twice, those who have left are those who were taken out. -/
theorem lost_eq_filter (hnodup : (r.queue key).numbers.Nodup)
    (hkey : key.repository = pull.repository)
    (h : r'.others pull key = (r.others pull key).filter fun x => !gone x) :
    r.lost r' pull key = (r.others pull key).filter gone := by
  refine List.filter_congr fun x hx => ?_
  obtain ⟨hmem, hother⟩ := List.mem_filter.mp hx
  have hstays : (r'.queue key).contains x.number = true ↔ x ∈ r'.others pull key := by
    rw [Queue.contains_iff, Queue.mem_numbers]
    constructor
    · rintro ⟨y, hy, hn⟩
      -- an entry of that number is one of the others, and so it was there before
      have hy' : y ∈ r'.others pull key := by
        refine List.mem_filter.mpr ⟨hy, ?_⟩
        rwa [PullRef.isOther_eq hkey, hn, ← PullRef.isOther_eq hkey]
      have hold := List.mem_of_mem_filter (h ▸ hy')
      rwa [← Queue.eq_of_number_eq hnodup (List.mem_of_mem_filter hold) hmem hn]
    · exact fun hx' => ⟨x, List.mem_of_mem_filter hx', rfl⟩
  rw [h, List.mem_filter, and_iff_right hx] at hstays
  cases hg : gone x <;> simp_all

end Registry

/-! ### The sweep -/

namespace Evaluation

variable {e : Evaluation} {s : QueueSettings} {q : Queue} {x y : QueueEntry}

/-- Whether an entry is late depends on when it came. -/
theorem isLate_congr (h : x.enqueuedAt = y.enqueuedAt) : e.isLate s x = e.isLate s y := by
  rw [isLate, isLate, h]

/-- The sweep names the late ones among the others, in the order in which they stand. -/
theorem others_sweep (e : Evaluation) (s : QueueSettings) (q : Queue) :
    (e.sweep s q).others = ((q.entries.filter (e.pull.isOther e.pull.queueKey)).filter
      (e.isLate s)).map QueueEntry.number := by
  change (s.overdue q _ _).filter _ = _
  rw [overdue_eq, List.filter_map, List.filter_filter, List.filter_filter]
  refine congrArg _ (List.filter_congr fun x _ => ?_)
  rw [PullRef.isOther_eq rfl, Bool.and_comm]
  rfl

/-- Whoever is in a swept queue is on time, if the pull request under evaluation is. -/
theorem onTime_of_mem_sweep (h : q.numbers.Nodup) (hown : (e.sweep s q).own = false)
    (hx : x ∈ (e.sweep s q).queue.entries) : e.isLate s x = false := by
  rw [entries_sweep h] at hx
  obtain ⟨hx, hkept⟩ := List.mem_filter.mp hx
  cases hlate : e.isLate s x with
  | false => rfl
  | true =>
    have hn : x.number = e.pull.number := by simpa [hlate] using hkept
    rw [own_sweep.mpr ⟨x, hx, hn, hlate⟩] at hown
    exact hown

end Evaluation

namespace Facts

variable {f : Facts} {q : Queue}

theorem decision_of_expired (h : f.expired = true) : f.decision q = .evict .expired := by
  rw [decision, if_pos h]

theorem expired_eq_false (h : (f.decision q).state?.isSome) : f.expired = false := by
  cases hexpired : f.expired with
  | false => rfl
  | true =>
    rw [decision_of_expired hexpired] at h
    cases h

end Facts

variable {σ : Type} {t : Train σ} {e : Evaluation} {r r₀ r' : Registry} {op : Operation}
  {snapshot : PullSnapshot} {isBehind allowMerge : Bool} {queue : Queue} {d : Decision}
  {made before : List Exchange} {result : Except Error Outcome} {outcome : Outcome}
  {x : QueueEntry}

/-! ### Naming those who have left -/

/-- An outcome accounts for the others who have left the queue of the target. -/
structure Outcome.Accounts (outcome : Outcome) (t : Train σ) (e : Evaluation)
    (old new : Registry) : Prop where
  /-- It names them, in the order in which they stood. -/
  expired : outcome.expired = (old.lost new e.pull e.pull.queueKey).map QueueEntry.number
  nodup : outcome.expired.Nodup
  late : ∀ x ∈ old.lost new e.pull e.pull.queueKey, e.Late t.settings.queue x
  unlimited : t.settings.queue.Limits e.pull.baseRef none → outcome.expired = []

theorem Train.expired_mergedOutcome (t : Train σ) (e : Evaluation) (snapshot : PullSnapshot) :
    (t.mergedOutcome e snapshot).expired = [] := by
  rw [mergedOutcome]
  split <;> rfl

/-- Nobody is named before a plan. -/
theorem Ends.expired_eq_nil (h : Ends t e r op made (.ok outcome) r') : outcome.expired = [] := by
  cases h with
  | unmatchedReported => split <;> rfl
  | merged | rejectedButMerged => exact t.expired_mergedOutcome e _
  | _ => rfl

/-- The late ones among the others are named after a plan. -/
theorem Advances.expired_eq (hplan : Plans t e r op before snapshot isBehind r₀)
    (h : Advances t e snapshot isBehind allowMerge r₀ made (.ok outcome) r') :
    outcome.expired = ((r.others e.pull e.pull.queueKey).filter
      (e.isLate t.settings.queue)).map QueueEntry.number := by
  obtain ⟨step, inner, rfl, -, rfl⟩ := h.of_ok
  rw [← hplan.others_eq]
  exact Evaluation.others_sweep _ _ _

/-- Whoever is taken out is late, and is named. -/
theorem Performs.exists_gone (h : Performs t e r op made (.ok outcome) r') (hr : r.Distinct) :
    ∃ gone : QueueEntry → Bool, (∀ x, gone x = true → e.isLate t.settings.queue x = true) ∧
      r'.others e.pull e.pull.queueKey
        = ((r.others e.pull e.pull.queueKey).filter fun x => !gone x) ∧
      outcome.expired
        = ((r.others e.pull e.pull.queueKey).filter gone).map QueueEntry.number := by
  cases h with
  | ended _ _ _ h =>
    refine ⟨fun _ => false, by simp, ?_, ?_⟩
    · rw [Registry.others_prune, h.others_eq]
      exact (List.filter_eq_self.mpr fun _ _ => rfl).symm
    · rw [h.expired_eq_nil, List.filter_false]
      rfl
  | planned _ _ _ _ _ _ _ hplan h =>
    refine ⟨e.isLate t.settings.queue, fun _ hlate => hlate, ?_, h.expired_eq hplan⟩
    rw [Registry.others_prune, h.others_eq_filter hplan hr]

/-- **Every outcome accounts for those who have left.** -/
theorem Performs.accounts (h : Performs t e r op made (.ok outcome) r') (hr : r.Distinct) :
    outcome.Accounts t e r r' := by
  obtain ⟨gone, hlate, hstay, hnamed⟩ := h.exists_gone hr
  have hlost := Registry.lost_eq_filter (hr.queue _) rfl hstay
  refine ⟨?_, ?_, fun x hx => ?_, fun hnone => ?_⟩
  · rw [hnamed, hlost]
  · have hsub : ((r.others e.pull e.pull.queueKey).filter gone).Sublist
        (r.queue e.pull.queueKey).entries :=
      List.filter_sublist.trans List.filter_sublist
    rw [hnamed]
    exact (hr.queue e.pull.queueKey).sublist (hsub.map _)
  · rw [hlost] at hx
    exact Evaluation.isLate_iff.mp (hlate x (List.mem_filter.mp hx).2)
  · have hnobody : (r.others e.pull e.pull.queueKey).filter gone = [] := by
      refine List.filter_eq_nil_iff.mpr fun x _ hgone => ?_
      have honTime := Evaluation.isLate_eq_false (QueueSettings.maxWait_eq_iff.mpr hnone) x
      rw [hlate x hgone] at honTime
      cases honTime
    rw [hnamed, hnobody, List.map_nil]

/-! ### Nobody late is left behind -/

/-- **An evaluation that keeps its pull request leaves no late one behind.** -/
theorem Performs.onTime_of_isLive (h : Performs t e r op made (.ok outcome) r') (hr : r.Distinct)
    (hop : op.followsTarget = true) (hlive : outcome.state.isLive = true)
    (hx : x ∈ (r'.queue e.pull.queueKey).entries) : e.isLate t.settings.queue x = false := by
  obtain ⟨snapshot, isBehind, planning, hplan, planned, rfl, hplanned⟩ := h.live hop hlive
  have hstate := Option.isSome_of_mem hplan.state
  rw [Registry.entries_queue_prune, hplanned, Train.step,
    (Evaluation.own_queue_plan (e := e) hstate).1] at hx
  exact Evaluation.onTime_of_mem_sweep (Operation.nodup_planningQueue (hr.queue _) hplan.queue)
    (Facts.expired_eq_false hstate) hx

/-! ### Being late oneself -/

/-- A pull request has left because it was late itself: it is told so, and is neither merged nor
updated. -/
structure Outcome.TurnedAway (outcome : Outcome) (e : Evaluation) (made : List Exchange)
    (new : Registry) : Prop where
  report : outcome.report = EvictionReason.expired.report
  state : outcome.state = .cancelled
  left : new.holds e.pull = false
  unnamed : e.pull.number ∉ outcome.expired
  merge : outcome.merge = none
  updates : (made.map Exchange.call).filter Call.isUpdate = []

/-- Who was late when the operation began is late when it is planned for. An evaluation may give it
another priority and other choices by then, but not another time. -/
theorem Operation.late_planningQueue {planning : Queue} (hnodup : queue.numbers.Nodup)
    (hp : op.planningQueue t e queue = .ok planning) (hx : x ∈ queue.entries)
    (hn : x.number = e.pull.number) (hlate : e.isLate t.settings.queue x = true) :
    (e.sweep t.settings.queue planning).own = true := by
  refine Evaluation.own_sweep.mpr ?_
  cases op with
  | run =>
    obtain ⟨y, hy, -, -, hkept⟩ := Train.own_enqueued hnodup hp
    have hy' : y ∈ planning.own (e.entry t.entitlements).number := hy ▸ List.mem_singleton_self y
    obtain ⟨hmem, hnumber⟩ := List.mem_filter.mp hy'
    have hold : queue.get? (e.entry t.entitlements).number = some x :=
      (Queue.get?_eq_some_iff hnodup).mpr ⟨hx, hn⟩
    rw [hold] at hkept
    exact ⟨y, hmem, eq_of_beq hnumber, (Evaluation.isLate_congr hkept.1).trans hlate⟩
  | cancelFlow | completeMerge =>
    cases hp
    exact ⟨x, hx, hn, hlate⟩

/-- The plan for a pull request that is late is to turn it away. -/
theorem Advances.turnedAway (hplan : Plans t e r op before snapshot isBehind r₀)
    (h : Advances t e snapshot isBehind allowMerge r₀ made result r') (hr : r.Distinct)
    (hown : (e.sweep t.settings.queue (r₀.queue e.pull.queueKey)).own = true) :
    ∃ outcome, result = .ok outcome ∧ outcome.TurnedAway e made r' := by
  obtain ⟨step, made, result, r', rfl, hacts⟩ := h
  have hd : (t.step e snapshot isBehind allowMerge (r₀.queue e.pull.queueKey)).decision
      = .evict .expired :=
    Facts.decision_of_expired hown
  have hleft : e.pull.number ∉
      (t.step e snapshot isBehind allowMerge (r₀.queue e.pull.queueKey)).queue.numbers :=
    Evaluation.not_mem_numbers_plan (hplan.nodup_numbers hr) (by rw [← Train.step, hd]; rfl)
  rw [hd] at hacts
  cases hacts with
  | evicts =>
    refine ⟨_, rfl, rfl, rfl, ?_, ?_, rfl, rfl⟩
    · rw [Registry.holds, Registry.queue_update_self hplan.isSome_queue?, Bool.eq_false_iff, Ne,
        Queue.contains_iff]
      exact hleft
    · exact fun hmem => (Evaluation.mem_others_sweep.mp hmem).1 rfl

/-- **A late pull request is turned away when it is planned for.** -/
theorem Performs.turnedAway (h : Performs t e r op made result r') (hr : r.Sound)
    (hx : x ∈ (r.queue e.pull.queueKey).entries) (hn : x.number = e.pull.number)
    (hlate : e.isLate t.settings.queue x = true) (hcompared : (comparison? made).isSome) :
    ∃ outcome, result = .ok outcome ∧ outcome.TurnedAway e made r' := by
  cases h with
  | ended _ _ _ h =>
    obtain ⟨planning, hp⟩ := op.exists_planningQueue t e (hr.queues e.pull.queueKey).branch.symm
    rw [h.comparison?_eq_none hp] at hcompared
    cases hcompared
  | planned before after _ _ _ r₀ r' hplan h =>
    have hown :=
      Operation.late_planningQueue (hr.nodup_numbers _) hplan.planningQueue_eq hx hn hlate
    obtain ⟨outcome, hok, haway⟩ := h.turnedAway hplan hr.distinct hown
    refine ⟨outcome, hok, { haway with left := ?_, updates := ?_ }⟩
    · rw [Registry.holds_prune]
      exact haway.left
    · rw [List.map_append, List.filter_append, hplan.filter_isUpdate, haway.updates,
        List.append_nil]

/-! ### Whole operations -/

/-- **Those who are named have left, and those who are late do not stay.** Whatever the platform
answers, an outcome names the others who were in the queue of the target before the operation and
are not any more, once each and in the order in which they stood. All of them had waited longer than
the branch allows, by its own limit or else by the general one, and nobody is named where there is
neither. When an evaluation keeps its pull request in the train, nobody who is late is in the queue
with it. A pull request that is late itself is turned away as soon as a plan is made for it. -/
theorem Train.expired_are_lost (t : Train σ) (e : Evaluation) (op : Operation) (s : Session σ)
    (hs : s.registry.Sound) :
    ∃ made, ((t.perform e op).runOn s).2.exchanges = s.exchanges ++ made ∧
      (∀ outcome, ((t.perform e op).runOn s).1 = .ok outcome →
        outcome.Accounts t e s.registry ((t.perform e op).runOn s).2.registry ∧
          (op.followsTarget = true → outcome.state.isLive = true →
            ∀ x ∈ (((t.perform e op).runOn s).2.registry.queue e.pull.queueKey).entries,
              ¬e.Late t.settings.queue x)) ∧
      ∀ x ∈ (s.registry.queue e.pull.queueKey).entries, x.number = e.pull.number →
        e.Late t.settings.queue x → (comparison? made).isSome →
          ∃ outcome, ((t.perform e op).runOn s).1 = .ok outcome ∧
            outcome.TurnedAway e made ((t.perform e op).runOn s).2.registry := by
  obtain ⟨made, hmade, h⟩ := t.perform_does e s.registry op s rfl
  refine ⟨made, hmade, fun outcome hok => ?_, fun x hx hn hlate hcompared => ?_⟩
  · rw [hok] at h
    exact ⟨h.accounts hs.distinct,
      fun hop hlive x hx =>
        Evaluation.not_late_iff.mpr (h.onTime_of_isLive hs.distinct hop hlive hx)⟩
  · exact h.turnedAway hs hx hn (Evaluation.isLate_iff.mpr hlate) hcompared

/-- An evaluation of any pull request in an ordered train. -/
def Still.evaluationOf (number : UInt64) (now : Instant) : Evaluation :=
  { evaluation { strict := .ordered } with pull := pull number, now }

/-- A session in which the second pull request has waited for two hours, and the third one for one,
which is the limit. -/
def Still.busy : Session Unit where
  registry :=
    (performAll
      [⟨train {}, evaluationOf 2 tooEarly, .run⟩,
        ⟨train {}, evaluationOf 3 ⟨-3600, 0, by decide⟩, .run⟩] { platform := () }).registry
  platform := ()

/-- A train that allows an hour on the branch, and half an hour on others. -/
def Still.patient : Train Unit :=
  { train {} with
    settings.queue :=
      { maxWaitMinutes := some 30, branches := .ofList [("main", { maxWaitMinutes := some 60 })] } }

/-- An evaluation of a pull request in that session, on that train. -/
def Still.runningBusy (number : UInt64) : Except Error Outcome × Session Unit :=
  (patient.perform (evaluationOf number .epoch) .run).runOn busy

/-- When the first pull request enters, the second one leaves and is named. The third one stays,
since the branch allows as much as it has waited. When the second one is evaluated itself, it is
turned away. -/
theorem Train.second_is_lost :
    Still.busy.registry.Sound ∧
      (∃ outcome, (Still.runningBusy 1).1 = .ok outcome ∧ outcome.state.isLive = true ∧
        outcome.Accounts Still.patient (Still.evaluationOf 1 .epoch) Still.busy.registry
          (Still.runningBusy 1).2.registry ∧
        outcome.expired = [2] ∧
        ((Still.runningBusy 1).2.registry.queue (Still.pull 1).queueKey).numbers = [3, 1] ∧
        ∀ x ∈ ((Still.runningBusy 1).2.registry.queue (Still.pull 1).queueKey).entries,
          ¬(Still.evaluationOf 1 .epoch).Late Still.patient.settings.queue x) ∧
      ∃ outcome made, (Still.runningBusy 2).1 = .ok outcome ∧
        outcome.TurnedAway (Still.evaluationOf 2 .epoch) made (Still.runningBusy 2).2.registry := by
  have hs : Still.busy.registry.Sound := sound_performAll _ Registry.sound_empty
  refine ⟨hs, ?_, ?_⟩
  · have hlive : ((Still.runningBusy 1).1.toOption.any
        fun outcome => outcome.state.isLive && outcome.expired == [2]) = true := by
      decide +kernel
    have hnumbers : ((Still.runningBusy 1).2.registry.queue (Still.pull 1).queueKey).numbers
        = [3, 1] := by
      decide +kernel
    obtain ⟨outcome, hok, htest⟩ := Still.exists_outcome hlive
    obtain ⟨hlive, hnamed⟩ := Bool.and_eq_true_iff.mp htest
    obtain ⟨made, -, hall, -⟩ :=
      Train.expired_are_lost Still.patient (Still.evaluationOf 1 .epoch) .run Still.busy hs
    obtain ⟨haccounts, honTime⟩ := hall outcome hok
    exact ⟨outcome, hok, hlive, haccounts, eq_of_beq hnamed, hnumbers, honTime rfl hlive⟩
  · obtain ⟨made, hmade, -, hlate⟩ :=
      Train.expired_are_lost Still.patient (Still.evaluationOf 2 .epoch) .run Still.busy hs
    have hcompared : (comparison? (Still.runningBusy 2).2.exchanges).isSome = true := by
      decide +kernel
    have hwaits : ((Still.busy.registry.queue (Still.pull 2).queueKey).entries.any fun x =>
        x.number == 2 && (Still.evaluationOf 2 .epoch).isLate Still.patient.settings.queue x)
          = true := by
      decide +kernel
    obtain ⟨x, hx, htest⟩ := List.any_eq_true.mp hwaits
    obtain ⟨hn, hxlate⟩ := Bool.and_eq_true_iff.mp htest
    rw [Still.runningBusy, hmade] at hcompared
    obtain ⟨outcome, hok, haway⟩ :=
      hlate x hx (eq_of_beq hn) (Evaluation.isLate_iff.mp hxlate) hcompared
    exact ⟨outcome, made, hok, haway⟩

end MergeTrain
