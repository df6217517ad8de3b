import MergeTrain.Proofs.Train.Escape
import MergeTrain.Proofs.Train.Expiry

/-!
# Failing without losing the place

An evaluation can fail at every call to the platform: before its pull request enters or moves in the
queue, after it, and after those who were late have left. A failure is no reason to lose one's
place, and what gives a place is the time at which the pull request first came and its arrival.

The failures are of two kinds. Before the plan there are only questions, and if one of them is not
answered nothing has happened to the queue of the target. After the plan it is the update of the
head branch that can fail. Such a plan keeps its pull request in the queue, and to enter a queue in
which it waits already does not date it anew.

## Main definitions

* `Queue.KeepsPlace` — a pull request has kept its place.
* `Call.isQuestion` — the calls that an evaluation cannot do without before it plans.

## Main results

* `Ends.queue_eq_of_error`, `Acts.of_error` — the two kinds of failures.
* `Performs.keepsPlace` — a failing operation keeps the place of its pull request.
* `Train.failure_keeps_place` — both, for any evaluation from any sound registry.
-/

namespace MergeTrain

/-- Whether an evaluation needs the answer to a call before it can plan. -/
def Call.isQuestion : Call → Bool
  | .getPull _ | .isBehind _ | .haveBeenSynchronized _ | .requiredChecks _ _ => true
  | _ => false

theorem Call.isUpdate_of_isQuestion {call : Call} (h : call.isQuestion = true) :
    call.isUpdate = false := by
  cases call with
  | updateBranch | rewriteBranch => cases h
  | _ => rfl

/-! ### Places -/

namespace Queue

variable {old new newer : Queue} {n : UInt64}

/-- A pull request that waited in a queue waits in it still, and came when it came. -/
def KeepsPlace (old new : Queue) (n : UInt64) : Prop :=
  ∀ x, old.get? n = some x →
    ∃ y, new.get? n = some y ∧ y.enqueuedAt = x.enqueuedAt ∧ y.arrival = x.arrival

/-- The entry that is found is the first one of its pull request. -/
theorem get?_eq_head?_own (q : Queue) (n : UInt64) : q.get? n = (q.own n).head? :=
  (List.head?_filter ..).symm

theorem KeepsPlace.of_own (h : new.own n = old.own n) : old.KeepsPlace new n := by
  intro x hx
  rw [get?_eq_head?_own, ← h, ← get?_eq_head?_own] at hx
  exact ⟨x, hx, rfl, rfl⟩

theorem KeepsPlace.trans (h : old.KeepsPlace new n) (h' : new.KeepsPlace newer n) :
    old.KeepsPlace newer n := by
  intro x hx
  obtain ⟨y, hy, htime, harrival⟩ := h x hx
  obtain ⟨z, hz, htime', harrival'⟩ := h' y hy
  exact ⟨z, hz, htime'.trans htime, harrival'.trans harrival⟩

/-- To enter a queue again does not cost the place. -/
theorem KeepsPlace.enqueued {entry : QueueEntry} (h : old.numbers.Nodup)
    (he : Train.enqueued entry old = .ok new) : old.KeepsPlace new entry.number := by
  intro x hx
  obtain ⟨y, hy, -, -, hkept⟩ := Train.own_enqueued h he
  rw [hx] at hkept
  refine ⟨y, ?_, hkept⟩
  rw [get?_eq_head?_own, hy, List.head?_singleton]

end Queue

namespace Registry

variable {r : Registry} {key : QueueKey}

/-- A queue in which somebody waits is open, and is not dropped. -/
theorem queue?_prune_of_ne_nil (h : (r.queue key).entries ≠ []) :
    (r.prune key).queue? key = some (r.queue key) := by
  obtain ⟨x, hx⟩ := List.exists_mem_of_ne_nil _ h
  have hwaits : (r.queue key).contains x.number = true :=
    Queue.contains_iff.mpr (Queue.mem_numbers.mpr ⟨x, hx, rfl⟩)
  rw [prune_of_contains hwaits, ← queue?_open_self, open_of_contains hwaits]

/-- Dropping an idle queue costs nobody the place. -/
theorem keepsPlace_prune (r : Registry) (key : QueueKey) (n : UInt64) :
    (r.queue key).KeepsPlace ((r.prune key).queue key) n :=
  .of_own (by rw [Queue.own, entries_queue_prune, Queue.own])

end Registry

variable {σ : Type} {t : Train σ} {e : Evaluation} {r r₀ r' : Registry} {op : Operation}
  {snapshot : PullSnapshot} {isBehind allowMerge : Bool} {queue : Queue} {d : Decision}
  {made before : List Exchange} {error : Error}

/-! ### The two kinds of failures -/

/-- An evaluation that fails before a plan has not touched the queue of the target. -/
theorem Ends.queue_eq_of_error (h : Ends t e r op made (.error error) r')
    (hop : op.followsTarget = true) :
    r'.queue e.pull.queueKey = r.queue e.pull.queueKey := by
  have hfollow : (r.follow e.pull).queue e.pull.queueKey = r.queue e.pull.queueKey :=
    r.queue_follow e.pull
  have hopen : ((r.follow e.pull).open e.pull.queueKey).queue e.pull.queueKey
      = r.queue e.pull.queueKey :=
    (Registry.queue_open ..).trans hfollow
  cases h with
  | unread | unmatchedUnread => exact hfollow
  | notCompared | notEnqueued | resynchronizedUnknown | requiredUnknown | unmatchedNotCompared =>
    exact hopen
  | mergeBreaks | mergedUnread | rejectedUnread | rejectedNotCompared => cases hop

/-- After a plan an operation fails because the head branch was to be updated, and the queue is left
as it was planned. -/
theorem Acts.of_error (h : Acts t e snapshot isBehind queue r d made (.error error) r') :
    d.state?.isSome ∧ r' = r := by
  cases h with
  | rereadFails | updateBreaks => exact ⟨rfl, rfl⟩

/-- Up to a plan a pull request keeps its place. -/
theorem Plans.keepsPlace (h : Plans t e r op before snapshot isBehind r₀)
    (hr : (r.queue e.pull.queueKey).numbers.Nodup) :
    (r.queue e.pull.queueKey).KeepsPlace (r₀.queue e.pull.queueKey) e.pull.number := by
  have hplanning := h.planningQueue_eq
  cases op with
  | run => exact .enqueued hr hplanning
  | cancelFlow | completeMerge => exact .of_own (by rw [Except.ok.inj hplanning])

/-- What fails after a plan leaves the pull request where it was planned on. -/
theorem Advances.keepsPlace (hplan : Plans t e r op before snapshot isBehind r₀)
    (h : Advances t e snapshot isBehind allowMerge r₀ made (.error error) r') :
    (r₀.queue e.pull.queueKey).KeepsPlace (r'.queue e.pull.queueKey) e.pull.number := by
  obtain ⟨step, rfl, hacts⟩ := h.of_error
  obtain ⟨hkept, rfl⟩ := hacts.of_error
  refine .of_own ?_
  rw [Registry.queue_update_self hplan.isSome_queue?]
  exact (Evaluation.own_queue_plan hkept).2

/-! ### Whole operations -/

/-- **A failing evaluation keeps the place of its pull request.** -/
theorem Performs.keepsPlace (h : Performs t e r op made (.error error) r')
    (hop : op.followsTarget = true) (hr : r.Sound) :
    (r.queue e.pull.queueKey).KeepsPlace (r'.queue e.pull.queueKey) e.pull.number := by
  cases h with
  | ended _ _ r₁ h =>
    have hsame : r₁.queue e.pull.queueKey = r.queue e.pull.queueKey := h.queue_eq_of_error hop
    exact hsame ▸ r₁.keepsPlace_prune e.pull.queueKey e.pull.number
  | planned _ _ _ _ _ _ r₁ hplan h =>
    exact ((hplan.keepsPlace (hr.nodup_numbers _)).trans (h.keepsPlace hplan)).trans
      (r₁.keepsPlace_prune _ _)

/-- Where no update of the head branch was tried, the queue of the target is as it was. If nobody
waits there it may have been dropped. -/
theorem Performs.queue_eq_of_unasked (h : Performs t e r op made (.error error) r')
    (hop : op.followsTarget = true)
    (hunasked : ∀ x ∈ made, x.call.isUpdate = false) :
    (r'.queue e.pull.queueKey).entries = (r.queue e.pull.queueKey).entries ∧
      ((r.queue e.pull.queueKey).entries ≠ [] →
        r'.queue? e.pull.queueKey = some (r.queue e.pull.queueKey)) := by
  cases h with
  | ended _ _ r₁ h =>
    have hsame : r₁.queue e.pull.queueKey = r.queue e.pull.queueKey := h.queue_eq_of_error hop
    rw [Registry.entries_queue_prune, ← hsame]
    exact ⟨rfl, Registry.queue?_prune_of_ne_nil⟩
  | planned _ _ _ _ _ _ r₁ hplan h =>
    obtain ⟨step, -, hacts⟩ := h.of_error
    obtain ⟨x, hx, hupdate⟩ := hacts.exists_isUpdate
    cases (hunasked x (List.mem_append_right _ hx)).symm.trans hupdate

/-- **A failure does not cost the place.** Whatever the platform answers, and from any sound
registry, an evaluation fails only because its last call has failed. If its pull request waited in
the queue of its target, it waits there still, with the time and the arrival that it had. If the
call was a question, asked before the plan, so that no update of the head branch came before it,
then everyone waits there as before, and a queue in which somebody waits is the same as before in
all respects. -/
theorem Train.failure_keeps_place (t : Train σ) (e : Evaluation) (op : Operation) (s : Session σ)
    (hop : op.followsTarget = true) (hs : s.registry.Sound) (error : Error)
    (herror : ((t.perform e op).runOn s).1 = .error error) :
    (s.registry.queue e.pull.queueKey).KeepsPlace
        (((t.perform e op).runOn s).2.registry.queue e.pull.queueKey) e.pull.number ∧
      ∃ before call, ((t.perform e op).runOn s).2.exchanges
          = s.exchanges ++ (before ++ [⟨call, .error error⟩]) ∧
        (call.isQuestion = true → (∀ x ∈ before, x.call.isUpdate = false) →
          (((t.perform e op).runOn s).2.registry.queue e.pull.queueKey).entries
              = (s.registry.queue e.pull.queueKey).entries ∧
            ((s.registry.queue e.pull.queueKey).entries ≠ [] →
              ((t.perform e op).runOn s).2.registry.queue? e.pull.queueKey
                = some (s.registry.queue e.pull.queueKey))) := by
  obtain ⟨made, hmade, h⟩ := t.perform_does e s.registry op s rfl
  rw [herror] at h
  obtain ⟨before, call, rfl, -⟩ := h.letsOut hs
  refine ⟨h.keepsPlace hop hs, before, call, hmade, fun hquestion hunasked => ?_⟩
  refine h.queue_eq_of_unasked hop fun x hx => ?_
  rcases List.mem_append.mp hx with hx | hx
  · exact hunasked x hx
  · obtain rfl := List.mem_singleton.mp hx
    exact Call.isUpdate_of_isQuestion hquestion

/-- The third pull request is to be kept up to date. -/
def Still.updating : Evaluation :=
  { evaluationOf 3 .epoch with config := { strict := .continuous } }

/-- A platform that answers nothing. -/
def Still.silent : Platform Unit where
  answer _ _ := (.error (.platform "silent"), ())

/-- What comes of its evaluation, on a platform where head branches are behind and cannot be
updated. -/
def Still.stranded : Except Error Outcome × Session Unit :=
  ((train unreachable).perform updating .run).runOn busy

/-- What comes of it on a platform that is silent, when the rule does not match any more. -/
def Still.unheard : Except Error Outcome × Session Unit :=
  (({ train {} with platform := silent } : Train Unit).perform updating .cancelFlow).runOn busy

/-- The update fails when the second pull request has had to leave, and the third one has its place
all the same. Where the platform is silent the second one is there as well. -/
theorem Train.third_keeps_place :
    Still.busy.registry.Sound ∧
      (Still.stranded.1 = .error (.platform "unreachable") ∧
        (Still.stranded.2.registry.queue (Still.pull 3).queueKey).numbers = [3] ∧
        ∃ y, (Still.stranded.2.registry.queue (Still.pull 3).queueKey).get? 3 = some y ∧
          y.enqueuedAt = ⟨-3600, 0, by decide⟩ ∧ y.arrival = 1) ∧
      Still.unheard.1 = .error (.platform "silent") ∧
        (Still.busy.registry.queue (Still.pull 3).queueKey).numbers = [2, 3] ∧
        Still.unheard.2.registry.queue? (Still.pull 3).queueKey
          = some (Still.busy.registry.queue (Still.pull 3).queueKey) := by
  have hs : Still.busy.registry.Sound := sound_performAll _ Registry.sound_empty
  have hnumbers : (Still.busy.registry.queue (Still.pull 3).queueKey).numbers = [2, 3] := by
    decide +kernel
  refine ⟨hs, ?_, ?_⟩
  · have herror : Still.stranded.1 = .error (.platform "unreachable") := by decide +kernel
    obtain ⟨hplace, -⟩ := Train.failure_keeps_place (Still.train .unreachable) Still.updating .run
      Still.busy rfl hs _ herror
    have hwaits : ((Still.busy.registry.queue (Still.pull 3).queueKey).get? 3).any (fun x =>
        x.enqueuedAt == ⟨-3600, 0, by decide⟩ && x.arrival == 1) = true := by
      decide +kernel
    obtain ⟨x, hx, hwhen⟩ := Option.any_eq_true _ _ |>.mp hwaits
    obtain ⟨htime, harrival⟩ := Bool.and_eq_true_iff.mp hwhen
    obtain ⟨y, hy, htime', harrival'⟩ := hplace x hx
    exact ⟨herror, by decide +kernel, y, hy, htime'.trans (eq_of_beq htime),
      harrival'.trans (eq_of_beq harrival)⟩
  · have herror : Still.unheard.1 = .error (.platform "silent") := by decide +kernel
    obtain ⟨-, before, call, hmade, hsame⟩ := Train.failure_keeps_place
      { Still.train {} with platform := Still.silent } Still.updating .cancelFlow Still.busy rfl hs
      _ herror
    have hcalls : Still.unheard.2.exchanges.map Exchange.call = [.getPull (Still.pull 3)] := by
      decide +kernel
    have hasked : Still.unheard.2.exchanges
        = before ++ [⟨call, .error (.platform "silent")⟩] := hmade
    -- there is one call, and so it is the one that has failed
    have hone : before.map Exchange.call ++ [call] = [.getPull (Still.pull 3)] := by
      rw [← hcalls, hasked, List.map_append, List.map_singleton]
    obtain ⟨hbefore, rfl⟩ : before.map Exchange.call = [] ∧ call = .getPull (Still.pull 3) := by
      simpa [List.append_eq_singleton_iff] using hone
    obtain rfl : before = [] := List.map_eq_nil_iff.mp hbefore
    have hwaits : (Still.busy.registry.queue (Still.pull 3).queueKey).entries ≠ [] := by
      intro hnil
      cases hnumbers.symm.trans (congrArg (List.map QueueEntry.number) hnil)
    exact ⟨herror, hnumbers, (hsame rfl (by simp)).2 hwaits⟩

end MergeTrain
