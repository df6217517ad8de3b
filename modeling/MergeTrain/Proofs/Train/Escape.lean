import MergeTrain.Proofs.Train.Bystander
import MergeTrain.Proofs.Train.Unmatched

/-!
# Failures that escape

An operation can meet many failures. A queue may refuse an entry for three reasons, and the platform
may fail at any call. Who performs an operation sees few of them: an operation that fails passes on
the failure of its last call, and nothing else.

The queues are no source of failures because of what the registry is like when a pull request enters
one. The queue bears the branch that the pull request targets, and an entry that is there already is
brought up to date where it is found. Of the failures of the platform, those of three kinds are
dealt with on the spot. An update that fails is followed by a look at the pull request, a refused
merge as well, and check states that are not known are no check states.

## Main definitions

* `Call.LetsOut` — a failure of a call that is not dealt with on the spot.

## Main results

* `Ends.letsOut`, `Acts.letsOut` — before a plan, and after it.
* `Performs.letsOut` — the failure of an operation is the one of its last call.
* `Train.only_last_failure_escapes` — over any history.
-/

namespace MergeTrain

/-- No operation deals with such a failure of a call by itself. -/
structure Call.LetsOut (call : Call) (error : Error) : Prop where
  checks : ∀ pull, call ≠ .getChecks pull
  update : call.isUpdate = true → ∀ title message, error ≠ .branchUpdate title message
  merge : call.isMerge = true → ∀ status message, error ≠ .mergeRejected status message

/-- A call that neither changes a branch nor reads check states lets every failure out. -/
theorem Call.letsOut_of_read {call : Call} (hchecks : ∀ pull, call ≠ .getChecks pull)
    (hupdate : call.isUpdate = false) (hmerge : call.isMerge = false) (error : Error) :
    call.LetsOut error := by
  refine ⟨hchecks, fun h => ?_, fun h => ?_⟩
  · cases hupdate.symm.trans h
  · cases hmerge.symm.trans h

theorem UpdateTask.call_ne_getChecks (task : UpdateTask) (pull : PullRef) :
    task.call ≠ .getChecks pull := by
  rw [call]
  cases task.method <;> simp

/-- An update lets all failures out that are not about the branch. -/
theorem UpdateTask.letsOut {task : UpdateTask} {error : Error}
    (h : ∀ title message, error ≠ .branchUpdate title message) : task.call.LetsOut error where
  checks := task.call_ne_getChecks
  update := fun _ => h
  merge := fun hmerge => by
    rw [UpdateTask.isMerge_call] at hmerge
    cases hmerge

/-- A merge lets all failures out that are no refusals. -/
theorem Call.letsOut_mergePull {request : MergeRequest} {error : Error}
    (h : ∀ status message, error ≠ .mergeRejected status message) :
    (mergePull request).LetsOut error where
  checks := by simp
  update := fun hupdate => by cases hupdate
  merge := fun _ => h

variable {σ : Type} {t : Train σ} {e : Evaluation} {r r₀ r' : Registry} {op : Operation}
  {snapshot : PullSnapshot} {isBehind : Bool} {queue : Queue} {d : Decision}
  {made : List Exchange} {error : Error}

/-- Before a plan an operation fails because a call has failed, and not because a queue has refused
its pull request. -/
theorem Ends.letsOut (h : Ends t e r op made (.error error) r') (hr : r.Sound) :
    ∃ before call, made = before ++ [⟨call, .error error⟩] ∧ call.LetsOut error := by
  have hpull : (Call.getPull e.pull).LetsOut error := Call.letsOut_of_read (by simp) rfl rfl error
  have hbehind : (Call.isBehind e.pull).LetsOut error :=
    Call.letsOut_of_read (by simp) rfl rfl error
  cases h with
  | unread | unmatchedUnread => exact ⟨[], _, rfl, hpull⟩
  | mergedUnread | rejectedUnread => exact ⟨[_], _, rfl, hpull⟩
  | notCompared => exact ⟨[_], _, rfl, hbehind⟩
  | rejectedNotCompared => exact ⟨[_, _], _, rfl, hbehind⟩
  | unmatchedNotCompared => exact ⟨[_, _, _, _], _, rfl, hbehind⟩
  | resynchronizedUnknown =>
    exact ⟨[_], _, rfl, Call.letsOut_of_read (by simp) rfl rfl error⟩
  | requiredUnknown => exact ⟨[_, _], _, rfl, Call.letsOut_of_read (by simp) rfl rfl error⟩
  | mergeBreaks _ _ h => exact ⟨[], _, rfl, Call.letsOut_mergePull h⟩
  | notEnqueued _ _ error _ _ hqueue =>
    -- the queue of the target takes the pull request in a sound registry
    obtain ⟨queue, hqueue'⟩ := hr.exists_enqueued e t.entitlements
    cases hqueue'.symm.trans hqueue

/-- After a plan an operation fails because the head branch was not updated, for a reason that is
not about the branch, or because the pull request was not read again. -/
theorem Acts.letsOut (h : Acts t e snapshot isBehind queue r d made (.error error) r') :
    ∃ before call, made = before ++ [⟨call, .error error⟩] ∧ call.LetsOut error := by
  cases h with
  | rereadFails =>
    exact ⟨[_], .getPull e.pull, rfl, Call.letsOut_of_read (by simp) rfl rfl error⟩
  | updateBreaks method error h => exact ⟨[], _, rfl, UpdateTask.letsOut h⟩

/-- **The failure of an operation is the one of its last call**, and none that the operation deals
with. -/
theorem Performs.letsOut (h : Performs t e r op made (.error error) r') (hr : r.Sound) :
    ∃ before call, made = before ++ [⟨call, .error error⟩] ∧ call.LetsOut error := by
  cases h with
  | ended _ _ _ h => exact h.letsOut hr
  | planned before _ _ _ _ _ _ _ h =>
    obtain ⟨step, -, hacts⟩ := h.of_error
    obtain ⟨more, call, rfl, hout⟩ := hacts.letsOut
    exact ⟨before ++ more, call, (List.append_assoc ..).symm, hout⟩

/-- **Only failures of the platform escape.** After any operations from an empty registry, failed
ones among them, no queue refuses the pull request of an evaluation. So when an operation fails, on
whatever platform and with whatever settings, its last call to the platform has failed, and it
passes on what that call was answered. The call is not one for check states, a failed update of a
head branch is not passed on as such, and neither is a refused merge. -/
theorem Train.only_last_failure_escapes (calls : List (TrainCall σ)) (platform : σ) :
    let s := performAll calls { platform }
    (∀ (e : Evaluation) (entitlements : Entitlements), ∃ queue,
      Train.enqueued (e.entry entitlements) (s.registry.queue e.pull.queueKey) = .ok queue) ∧
    ∀ (call : TrainCall σ) (error : Error), call.result s = .error error →
      ∃ before last,
        (call.perform s).exchanges = s.exchanges ++ (before ++ [⟨last, .error error⟩]) ∧
          (∀ pull, last ≠ .getChecks pull) ∧
          (last.isUpdate = true → ∀ title message, error ≠ .branchUpdate title message) ∧
          (last.isMerge = true → ∀ status message, error ≠ .mergeRejected status message) := by
  intro s
  have hs : s.registry.Sound := sound_performAll calls Registry.sound_empty
  refine ⟨hs.exists_enqueued, fun call error herror => ?_⟩
  obtain ⟨made, hmade, h⟩ := call.performs s
  rw [herror] at h
  obtain ⟨before, last, rfl, hout⟩ := h.letsOut hs
  exact ⟨before, last, hmade, hout.checks, hout.update, hout.merge⟩

/-- A platform that reads no check states and compares no branches. -/
def Still.blind : Platform Unit where
  answer call s :=
    match call with
    | .getChecks _ => (.error (.platform "no checks"), s)
    | .isBehind _ => (.error (.branchUpdate "no comparison" ""), s)
    | call => (train {}).platform.answer call s

/-- The first pull request is queued, and its rule stops matching on a platform that is blind. -/
def Still.losingSight : TrainCall Unit :=
  ⟨{ train {} with platform := blind }, unmatched, .cancelFlow⟩

/-- The check states cannot be read, and the operation goes on; it fails when the branches are not
compared, with the error that was answered then. -/
theorem Train.comparison_escapes :
    let s := performAll [⟨Still.train {}, Still.evaluation { strict := .ordered }, .run⟩]
      { platform := () }
    let error : Error := .branchUpdate "no comparison" ""
    Still.losingSight.result s = .error error ∧
      ∃ before last, (Still.losingSight.perform s).exchanges
          = s.exchanges ++ (before ++ [⟨last, .error error⟩]) ∧
        (∀ pull, last ≠ .getChecks pull) ∧
        (last.isUpdate = true → ∀ title message, error ≠ .branchUpdate title message) ∧
        (last.isMerge = true → ∀ status message, error ≠ .mergeRejected status message) := by
  intro s error
  have herror : Still.losingSight.result s = .error error := by decide +kernel
  exact ⟨herror, (Train.only_last_failure_escapes [⟨Still.train {},
    Still.evaluation { strict := .ordered }, .run⟩] ()).2 Still.losingSight error herror⟩

end MergeTrain
