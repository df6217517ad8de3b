import MergeTrain.Proofs.Train.Move
import MergeTrain.Proofs.Train.Still

/-!
# Fresh and first

What has to be true of a pull request that is moved on, whichever operation does it and whatever
the platform answers. Where the policy is strict, the platform has just told how fresh the head
branch is: a merge needs one that is up to date, and an update one that is behind. The pull request
is not late, and in an ordered train it comes first.

Both are read off from the queue that the plan was made on, which is the queue that the operation
found, with the pull request entered if its rule matches.

## Main definitions

* `Operation.MayMove` — the queue does not hold the pull request up.

## Main results

* `Train.fresh_and_first` — no operation moves a pull request on that is not fresh and first.
-/

namespace MergeTrain

variable {σ : Type} {t : Train σ} {e : Evaluation} {r r' : Registry} {op : Operation}
  {made : List Exchange} {result : Except Error Outcome}

/-- The queue that an operation plans on does not hold the pull request up. -/
def Operation.MayMove (op : Operation) (t : Train σ) (e : Evaluation) (queue : Queue) : Prop :=
  ∃ planning, op.planningQueue t e queue = .ok planning ∧ e.Ready t.settings.queue planning

/-- What is true when a merge is handed out. -/
theorem Performs.merge_fresh {outcome : Outcome} (h : Performs t e r op made (.ok outcome) r')
    (hr : r.Distinct) (hmerge : outcome.merge.isSome) :
    op ≠ .cancelFlow ∧ (made.map Exchange.call).filter Call.isUpdate = [] ∧
      (e.config.strict ≠ .disabled → ⟨.isBehind e.pull, .ok false⟩ ∈ made) ∧
      op.MayMove t e (r.queue e.pull.queueKey) := by
  obtain ⟨before, snapshot, isBehind, r₀, method, hplan, hprefix, hupdates, hd⟩ :=
    h.merge_planned hmerge
  have hqueue := hplan.planningQueue_eq
  obtain ⟨hallow, hfresh, hready⟩ :=
    Evaluation.ready_of_plan_merge (hplan.nodup_numbers hr) hd
  refine ⟨?_, hupdates, fun hstrict => ?_, _, hqueue, hready⟩
  · rintro rfl
    cases hallow
  · rw [← hfresh hstrict]
    exact hprefix.subset hplan.mem_isBehind

/-- What is true when a head branch is to be updated. -/
theorem Performs.update_fresh (h : Performs t e r op made result r') (hr : r.Distinct)
    {x : Exchange} (hx : x ∈ made) (hupdate : x.call.isUpdate) :
    (made.map Exchange.call).filter Call.isUpdate = [x.call] ∧
      e.config.strict ≠ .disabled ∧ ⟨.isBehind e.pull, .ok true⟩ ∈ made ∧
      op.MayMove t e (r.queue e.pull.queueKey) := by
  obtain ⟨before, snapshot, isBehind, r₀, method, hplan, hprefix, hupdates, hd⟩ :=
    h.update_planned hx hupdate
  have hqueue := hplan.planningQueue_eq
  obtain ⟨hstrict, hbehind, hready⟩ :=
    Evaluation.ready_of_plan_synchronize (hplan.nodup_numbers hr) hd
  refine ⟨hupdates, hstrict, ?_, _, hqueue, hready⟩
  rw [← hbehind]
  exact hprefix.subset hplan.mem_isBehind

/-- **Fresh and first.** Whatever the platform answers and whatever waits: a merge is handed out
only by an operation that may do so, after no update, of a head branch that was found up to date,
where that matters. A head branch is updated once at most, and only if that matters and it was found
behind. Both happen only if the queue does not hold the pull request up. The platform is asked to
merge once to perform a merge, and otherwise never. -/
theorem Train.fresh_and_first (t : Train σ) (e : Evaluation) (op : Operation) (s : Session σ)
    (hs : s.registry.Distinct) :
    ∃ made, ((t.perform e op).runOn s).2.exchanges = s.exchanges ++ made ∧
      (∀ outcome, ((t.perform e op).runOn s).1 = .ok outcome → outcome.merge.isSome →
        op ≠ .cancelFlow ∧ (made.map Exchange.call).filter Call.isUpdate = [] ∧
          (e.config.strict ≠ .disabled → ⟨.isBehind e.pull, .ok false⟩ ∈ made) ∧
          op.MayMove t e (s.registry.queue e.pull.queueKey)) ∧
      (∀ x ∈ made, x.call.isUpdate →
        (made.map Exchange.call).filter Call.isUpdate = [x.call] ∧
          e.config.strict ≠ .disabled ∧ ⟨.isBehind e.pull, .ok true⟩ ∈ made ∧
          op.MayMove t e (s.registry.queue e.pull.queueKey)) ∧
      (made.map Exchange.call).filter Call.isMerge = op.mergeCalls := by
  obtain ⟨made, hmade, h⟩ := t.perform_does e s.registry op s rfl
  refine ⟨made, hmade, fun outcome hok hmerge => ?_, fun x hx hupdate => ?_, h.filter_isMerge⟩
  · rw [hok] at h
    exact h.merge_fresh hs hmerge
  · exact h.update_fresh hs hx hupdate

/-- An ordered train in which the first pull request stands behind one that is late. -/
def Still.behindLate : Session Unit :=
  waiting [lateEntry 2 { strict := .ordered } 0, newEntry 1 { strict := .ordered } 1]

/-- Those who are late do not count: the first pull request is merged from behind one of them. -/
theorem Train.fresh_and_first_behind_late :
    Still.behindLate.registry.Distinct ∧
      (∃ outcome, (((Still.train {}).perform (Still.evaluation { strict := .ordered }) .run).runOn
        Still.behindLate).1 = .ok outcome ∧ outcome.merge.isSome) ∧
      Operation.run.MayMove (Still.train {}) (Still.evaluation { strict := .ordered })
        (Still.behindLate.registry.queue (Still.pull 1).queueKey) := by
  have hs : Still.behindLate.registry.Distinct := by decide
  have hmerge : ((((Still.train {}).perform (Still.evaluation { strict := .ordered }) .run).runOn
      Still.behindLate).1.toOption.any fun outcome => outcome.merge.isSome) = true := by
    decide +kernel
  obtain ⟨outcome, hok, hmerge⟩ := Still.exists_outcome hmerge
  obtain ⟨made, -, hmay, -⟩ :=
    Train.fresh_and_first (Still.train {}) (Still.evaluation { strict := .ordered }) .run
      Still.behindLate hs
  exact ⟨hs, ⟨outcome, hok, hmerge⟩, (hmay outcome hok hmerge).2.2.2⟩

end MergeTrain
