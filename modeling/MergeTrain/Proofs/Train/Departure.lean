import MergeTrain.Proofs.Train.Move
import MergeTrain.Proofs.Train.Still

/-!
# Leaving for good

A report with a conclusion ends the stay of a pull request in its train, so none should wait any
longer that was reported on so. Wherever an operation comes to such a report it lets the pull
request out of its queue, but for one place: an owner whose choices are refused is told so before
the queue is looked at, and a pull request that had entered it earlier stays.

## Main results

* `Train.holds_iff_of_isTerminal` — the one way to stay behind a report that ends the stay.
* `Train.refused_stays` — a pull request that has taken it.
-/

namespace MergeTrain

variable {σ : Type} {t : Train σ} {e : Evaluation} {r r₀ r' : Registry} {op : Operation}
  {snapshot : PullSnapshot} {isBehind allowMerge : Bool} {queue : Queue} {d : Decision}
  {made before : List Exchange} {outcome : Outcome}

/-- Of the routes that end before a plan, only a refusal leaves the pull request where it is. -/
theorem Ends.holds_iff (h : Ends t e r op made (.ok outcome) r') (hr : r.Distinct)
    (hterminal : outcome.report.isTerminal = true) :
    r'.holds e.pull = true ↔
      op = .run ∧ (t.refusal? e).isSome ∧ r.holds e.pull = true := by
  have hqueue : (r.queue e.pull.queueKey).numbers.Nodup := hr.queue _
  have hopen : ((r.open e.pull.queueKey).leave e.pull).holds e.pull = false :=
    Registry.holds_leave (by rwa [Registry.queue_open])
  have hfollow : (((r.follow e.pull).open e.pull.queueKey).leave e.pull).holds e.pull = false :=
    Registry.holds_leave (by rwa [Registry.queue_open, Registry.queue_follow])
  cases h with
  | refused report h => simp [Registry.holds_follow, h]
  | reported _ _ h => simp [hfollow, h]
  | unmatchedReported | unmatchedLoose | cancelled => simp [hfollow]
  | merged | rejectedButMerged | rejected => simp [hopen]
  | rejectedForNow _ _ _ _ _ _ _ h =>
    rw [h] at hterminal
    cases hterminal

/-- From a plan on, whoever is reported on with a conclusion leaves, by the plan or after an update
that failed. -/
theorem Acts.holds_eq_false (h : Acts t e snapshot isBehind queue r d made (.ok outcome) r')
    (hterminal : outcome.report.isTerminal = true)
    (hr : (r.queue e.pull.queueKey).numbers.Nodup)
    (hd : d.report?.isSome → r.holds e.pull = false) : r'.holds e.pull = false := by
  cases h with
  | waits | merges => cases hterminal
  | updates => cases hterminal
  | blocks | evicts => exact hd rfl
  | updateFails => exact Registry.holds_leave hr

theorem Advances.holds_eq_false (hplan : Plans t e r op before snapshot isBehind r₀)
    (h : Advances t e snapshot isBehind allowMerge r₀ made (.ok outcome) r')
    (hterminal : outcome.report.isTerminal = true) (hr : r.Distinct) :
    r'.holds e.pull = false := by
  obtain ⟨step, inner, rfl, hacts, rfl⟩ := h.of_ok
  have hqueue := Registry.queue_update_self hplan.isSome_queue? fun _ =>
    (t.step e snapshot isBehind allowMerge (r₀.queue e.pull.queueKey)).queue
  refine hacts.holds_eq_false hterminal ?_ fun hd => ?_
  · rw [hqueue]
    exact Evaluation.nodup_numbers_plan (hplan.nodup_numbers hr)
  · rw [Registry.holds, hqueue, Bool.eq_false_iff, Ne, Queue.contains_iff]
    exact Evaluation.not_mem_numbers_plan (hplan.nodup_numbers hr) hd

theorem Performs.holds_iff (h : Performs t e r op made (.ok outcome) r') (hr : r.Distinct)
    (hterminal : outcome.report.isTerminal = true) :
    r'.holds e.pull = true ↔
      op = .run ∧ (t.refusal? e).isSome ∧ r.holds e.pull = true := by
  cases h with
  | ended _ _ _ h =>
    rw [Registry.holds_prune]
    exact h.holds_iff hr hterminal
  | planned before after snapshot isBehind _ r₀ r' hplan h =>
    rw [Registry.holds_prune, h.holds_eq_false hplan hterminal hr]
    refine iff_of_false (by simp) ?_
    rintro ⟨rfl, hrefusal, -⟩
    cases hplan with
    | run _ _ _ hnone =>
      rw [hnone] at hrefusal
      cases hrefusal

/-- **Leaving for good.** When an operation has reported with a conclusion on a pull request, it
waits no longer for the branch that it targets, unless its rule matched, the choices of its owner
were refused, and it had been waiting before. -/
theorem Train.holds_iff_of_isTerminal (t : Train σ) (e : Evaluation) (op : Operation)
    (s : Session σ) (hs : s.registry.Distinct) (outcome : Outcome)
    (hok : ((t.perform e op).runOn s).1 = .ok outcome)
    (hterminal : outcome.report.isTerminal = true) :
    ((t.perform e op).runOn s).2.registry.holds e.pull = true ↔
      op = .run ∧ (t.refusal? e).isSome ∧ s.registry.holds e.pull = true := by
  obtain ⟨made, -, h⟩ := t.perform_does e s.registry op s rfl
  rw [hok] at h
  exact h.holds_iff hs hterminal

/-- An evaluation of the pull request where it has been closed. -/
def Still.runningClosed : Except Error Outcome × Session Unit :=
  ((train { snapshot := { clean with state := .closed } }).perform (evaluation {}) .run).runOn
    (waiting [newEntry 1 {} 0])

/-- A pull request that was closed leaves. -/
theorem Train.closed_leaves :
    (Still.waiting [Still.newEntry 1 {} 0]).registry.Distinct ∧
      (∃ outcome, Still.runningClosed.1 = .ok outcome ∧ outcome.report.isTerminal = true) ∧
      Still.runningClosed.2.registry.holds (Still.pull 1) = false := by
  have hs : (Still.waiting [Still.newEntry 1 {} 0]).registry.Distinct := by decide
  have hterminal : (Still.runningClosed.1.toOption.any fun outcome => outcome.report.isTerminal)
      = true := by
    decide +kernel
  obtain ⟨outcome, hok, hterminal⟩ := Still.exists_outcome hterminal
  have hiff := Train.holds_iff_of_isTerminal _ (Still.evaluation {}) .run _ hs outcome hok hterminal
  refine ⟨hs, ⟨outcome, hok, hterminal⟩, Bool.eq_false_iff.mpr fun hholds => ?_⟩
  exact absurd (hiff.mp hholds).2.1 (by decide)

/-- An evaluation of the pull request when an option is configured that its owner has not paid
for. -/
def Still.runningRefused : Except Error Outcome × Session Unit :=
  ((train {}).perform (evaluation { updateBotAccount := some "bot" }) .run).runOn
    (waiting [newEntry 1 {} 0])

/-- A pull request that was refused stays. -/
theorem Train.refused_stays :
    ∃ outcome, Still.runningRefused.1 = .ok outcome ∧ outcome.report.isTerminal = true ∧
      Still.runningRefused.2.registry.holds (Still.pull 1) = true := by
  have hterminal : (Still.runningRefused.1.toOption.any fun outcome => outcome.report.isTerminal)
      = true := by
    decide +kernel
  obtain ⟨outcome, hok, hterminal⟩ := Still.exists_outcome hterminal
  exact ⟨outcome, hok, hterminal, by decide +kernel⟩

end MergeTrain
