import MergeTrain.Proofs.Train.Live

/-!
# Rules that have stopped matching

A pull request whose rule no longer matches may stay in its queue while its checks are running. It
is then planned for like any other, with the one difference that it is not merged, and reported on
as waiting or as being updated.

Nothing on that way lets it in, though, and nothing asks whether it is there. What has been in the
queue of the target is kept as it was. What has not been is reported on all the same: a pull request
that has just changed its target, and has lost its old place by being evaluated, is told that it is
queued.

## Main results

* `Performs.own_cancelFlow` — the entry of a pull request, or the lack of one, outlasts a live
  report.
* `Train.waits_iff_waited` — who is reported on as waiting waits exactly if it did before.
* `Train.stray_waits_nowhere` — a pull request that is told that it is queued, and is not.
-/

namespace MergeTrain

variable {σ : Type} {t : Train σ} {e : Evaluation} {r r' : Registry} {made : List Exchange}
  {outcome : Outcome}

/-- What a pull request has in the queue of its target is what it had before, if its rule does not
match and a live state is reported. -/
theorem Performs.own_cancelFlow (h : Performs t e r .cancelFlow made (.ok outcome) r')
    (hlive : outcome.state.isLive = true) :
    (r'.queue e.pull.queueKey).own e.pull.number
      = (r.queue e.pull.queueKey).own e.pull.number := by
  obtain ⟨snapshot, isBehind, planning, hplan, planned, rfl, hplanned⟩ := h.live rfl hlive
  -- nothing is put into the queue before the plan
  have hplanning : r.queue e.pull.queueKey = planning := Except.ok.inj hplan.queue
  have hkept := (Evaluation.own_queue_plan (e := e) (Option.isSome_of_mem hplan.state)).2
  calc ((planned.prune e.pull.queueKey).queue e.pull.queueKey).own e.pull.number
      = (planned.queue e.pull.queueKey).own e.pull.number := by
        rw [Queue.own, Registry.entries_queue_prune, ← Queue.own]
    _ = planning.own e.pull.number := by rw [hplanned]; exact hkept
    _ = (r.queue e.pull.queueKey).own e.pull.number := by rw [hplanning]

/-- **Who waits has waited.** When a pull request whose rule does not match is reported on as
waiting or as being updated, it has in the queue of its target what it had there before. So it is
in that queue exactly if it had been. -/
theorem Train.waits_iff_waited (t : Train σ) (e : Evaluation) (s : Session σ) (outcome : Outcome)
    (hok : ((t.perform e .cancelFlow).runOn s).1 = .ok outcome)
    (hstate : outcome.state = .queued ∨ outcome.state = .synchronizing) :
    (((t.perform e .cancelFlow).runOn s).2.registry.queue e.pull.queueKey).own e.pull.number
        = (s.registry.queue e.pull.queueKey).own e.pull.number ∧
      (((t.perform e .cancelFlow).runOn s).2.registry.holds e.pull = true ↔
        s.registry.holds e.pull = true) := by
  obtain ⟨made, -, h⟩ := t.perform_does e s.registry .cancelFlow s rfl
  rw [hok] at h
  have hlive : outcome.state.isLive = true := by
    rcases hstate with hstate | hstate <;> rw [hstate, TrainState.isLive]
  have hown := h.own_cancelFlow hlive
  refine ⟨hown, ?_⟩
  rw [Registry.holds, Queue.contains_iff_own, hown, ← Queue.contains_iff_own, ← Registry.holds]

/-- An evaluation of the pull request in an ordered train when its rule does not match, because of a
check that is not known. -/
def Still.unmatched : Evaluation :=
  { evaluation { strict := .ordered } with
    rule := some { name := "checked", conditions := [.checkSuccess "ci"],
                   missing := [.checkSuccess "ci"] } }

/-- That evaluation, of sessions of any kind. -/
def Still.runningUnmatched (s : Session Unit) : Except Error Outcome × Session Unit :=
  ((train {}).perform unmatched .cancelFlow).runOn s

/-- A session in which the pull request waits behind another one. -/
def Still.second : Session Unit :=
  waiting [newEntry 2 { strict := .ordered } 0, newEntry 1 { strict := .ordered } 1]

/-- Who waits behind another one goes on waiting. -/
theorem Train.second_waits_on :
    ∃ outcome, (Still.runningUnmatched Still.second).1 = .ok outcome ∧
      (outcome.state = .queued ∨ outcome.state = .synchronizing) ∧
      (Still.runningUnmatched Still.second).2.registry.holds (Still.pull 1) = true := by
  have hqueued : ((Still.runningUnmatched Still.second).1.toOption.any
      fun outcome => outcome.state = .queued) = true := by
    decide +kernel
  obtain ⟨outcome, hok, hqueued⟩ := Still.exists_outcome hqueued
  have hstate : outcome.state = .queued := of_decide_eq_true hqueued
  have hheld : Still.second.registry.holds (Still.pull 1) = true := by decide
  have hwaits := Train.waits_iff_waited _ Still.unmatched Still.second outcome hok (.inl hstate)
  exact ⟨outcome, hok, .inl hstate, hwaits.2.mpr hheld⟩

/-- A session in which the pull request waits for the branch that it used to target. -/
def Still.retargeted : Session Unit where
  registry :=
    { slots :=
        [{ key := ⟨"acme/widgets", "release"⟩, serial := 0,
           queue := { repository := "acme/widgets", branch := "release",
                      entries := [strayEntry 1 { strict := .ordered } 0], arrivals := 1 } }]
      opened := 1 }
  platform := ()

/-- Who has changed its target is told that it is queued, and is not. -/
theorem Train.stray_waits_nowhere :
    ∃ outcome, (Still.runningUnmatched Still.retargeted).1 = .ok outcome ∧
      outcome.state = .queued ∧
      (Still.runningUnmatched Still.retargeted).2.registry.holds (Still.pull 1) = false := by
  have hqueued : ((Still.runningUnmatched Still.retargeted).1.toOption.any
      fun outcome => outcome.state = .queued) = true := by
    decide +kernel
  obtain ⟨outcome, hok, hqueued⟩ := Still.exists_outcome hqueued
  exact ⟨outcome, hok, of_decide_eq_true hqueued, by decide +kernel⟩

end MergeTrain
