import MergeTrain.Proofs.MergeFailure
import MergeTrain.Proofs.Train.Move
import MergeTrain.Proofs.Train.Still

/-!
# The gate before a plan

A snapshot on which there is a report (a draft, a closed pull request, a conflict and so on) stands
in the way: a pull request that looks like that is not to be moved on. Evaluations keep to this,
whether the rule matches or not. What does not is the way back to a plan after a refused merge: the
pull request is read again there, and nobody looks for a report.

So the gate holds for all operations but one, and for that one it fails under a condition that is
given in full. Nothing is assumed about the platform or the queues.

## Main definitions

* `plannedOn?`, `comparison?` — the snapshot and the freshness that a plan was made on.
* `Proceeds` — a pull request is moved on.
* `Train.Gated` — it is so only from a snapshot without a report.
* `Train.Bypasses` — a refused merge is planned again on a snapshot with a report.

## Main results

* `Train.gated_iff_not_bypasses` — the gate holds but for this.
* `Train.conflict_bypasses_gate` — and this happens.
-/

namespace MergeTrain

/-- The snapshot of a pull request that an exchange brought. -/
def Exchange.snapshot? : Exchange → Option PullSnapshot
  | ⟨.getPull _, .ok snapshot⟩ => some snapshot
  | _ => none

/-- Whether a call asks how fresh a head branch is. -/
def Call.isComparison : Call → Bool
  | .isBehind _ => true
  | _ => false

/-- The last snapshot that was read before the head branch was compared. The plan comes right after
that. -/
def plannedOn? (made : List Exchange) : Option PullSnapshot :=
  ((made.takeWhile fun x => !x.call.isComparison).filterMap Exchange.snapshot?).getLast?

/-- How fresh the head branch is, if an exchange tells it. -/
def Exchange.isBehind? : Exchange → Option Bool
  | ⟨.isBehind _, .ok isBehind⟩ => some isBehind
  | _ => none

/-- What the platform told about the freshness of the head branch. -/
def comparison? (made : List Exchange) : Option Bool :=
  made.findSome? Exchange.isBehind?

/-- A pull request was moved on: a merge was handed out, or its head branch was to be updated. -/
def Proceeds (made : List Exchange) (result : Except Error Outcome) : Prop :=
  (∃ outcome, result = .ok outcome ∧ outcome.merge.isSome) ∨ ∃ x ∈ made, x.call.isUpdate

/-- Whether a decision moves a pull request on. -/
def Decision.isMove : Decision → Bool
  | .merge _ | .synchronize _ => true
  | _ => false

namespace Train

variable {σ : Type}

/-- A pull request was moved on only if nothing was reported about how it looked. -/
def Gated (t : Train σ) (e : Evaluation) (made : List Exchange) (result : Except Error Outcome) :
    Prop :=
  Proceeds made result → ∃ snapshot, plannedOn? made = some snapshot ∧ t.report? e snapshot = none

/-- A merge was refused because the base branch had moved, something is reported about how the pull
request looks since, and the plan that is made in spite of that moves it on. -/
def Bypasses (t : Train σ) (e : Evaluation) (op : Operation) (queue : Queue)
    (made : List Exchange) : Prop :=
  ∃ request status message snapshot isBehind rest, op = .completeMerge request ∧
    made = ⟨.mergePull request, .error (.mergeRejected status message)⟩ ::
      ⟨.getPull e.pull, .ok snapshot⟩ :: ⟨.isBehind e.pull, .ok isBehind⟩ :: rest ∧
    MergeFailure.classify status message = .baseModified ∧ snapshot.merged = false ∧
    (t.report? e snapshot).isSome ∧ (t.step e snapshot isBehind true queue).decision.isMove

end Train

variable {σ : Type} {t : Train σ} {e : Evaluation} {r r₀ r' : Registry} {op : Operation}
  {snapshot : PullSnapshot} {isBehind allowMerge : Bool} {d : Decision}
  {made before after : List Exchange} {result : Except Error Outcome}

theorem Ends.not_proceeds (h : Ends t e r op made result r') : ¬ Proceeds made result := by
  rintro (⟨outcome, rfl, hmerge⟩ | hupdate)
  · rw [h.merge_eq_none] at hmerge
    cases hmerge
  · exact exists_isUpdate_iff.mp hupdate h.filter_isUpdate

/-- An operation that reaches its plan moves the pull request on if that was decided. -/
theorem Advances.proceeds_iff (hplan : Plans t e r op before snapshot isBehind r₀)
    (h : Advances t e snapshot isBehind allowMerge r₀ after result r') :
    Proceeds (before ++ after) result ↔
      (t.step e snapshot isBehind allowMerge (r₀.queue e.pull.queueKey)).decision.isMove := by
  rw [Proceeds, h.merge_iff, exists_isUpdate_iff, List.map_append, List.filter_append,
    hplan.filter_isUpdate, h.filter_isUpdate, List.nil_append]
  generalize (t.step e snapshot isBehind allowMerge _).decision = d
  cases d <;> simp [Evaluation.updateCalls, Decision.isMove]

/-- The snapshot that a plan is made on is the last one that came before it. -/
theorem Plans.plannedOn?_eq (h : Plans t e r op before snapshot isBehind r₀)
    (after : List Exchange) : plannedOn? (before ++ after) = some snapshot := by
  cases h <;> rfl

/-- The freshness that a plan is made on is the one that the platform told. -/
theorem Plans.comparison?_eq (h : Plans t e r op before snapshot isBehind r₀)
    (after : List Exchange) : comparison? (before ++ after) = some isBehind := by
  cases h <;> rfl

/-- An operation that is told how fresh the head branch is, and has a queue to plan on, goes on to
its plan. -/
theorem Ends.comparison?_eq_none (h : Ends t e r op made result r') {queue : Queue}
    (hqueue : op.planningQueue t e (r.queue e.pull.queueKey) = .ok queue) :
    comparison? made = none := by
  cases h with
  | notEnqueued _ _ error _ _ herror =>
    rw [Operation.planningQueue, herror] at hqueue
    cases hqueue
  | _ => rfl

/-- A route that ends before a plan does not bypass the gate. -/
theorem Ends.not_bypasses (h : Ends t e r op made result r') (queue : Queue) :
    ¬ t.Bypasses e op queue made := by
  rintro ⟨request, status, message, snapshot, isBehind, rest, rfl, hmade, -⟩
  cases h <;> simp at hmade

/-- A refused merge that is planned again bypasses the gate if there was a report to look for and
the plan moves the pull request on. -/
theorem Plans.bypasses_iff {request : MergeRequest}
    (h : Plans t e r (.completeMerge request) before snapshot isBehind r₀)
    (after : List Exchange) (queue : Queue) :
    t.Bypasses e (.completeMerge request) queue (before ++ after) ↔
      (t.report? e snapshot).isSome ∧ (t.step e snapshot isBehind true queue).decision.isMove := by
  cases h with
  | completeMerge _ status message _ _ hmerged hfailure =>
    constructor
    · rintro ⟨_, _, _, _, _, _, -, hmade, -, -, hreport, hmove⟩
      cases hmade
      exact ⟨hreport, hmove⟩
    · exact fun ⟨hreport, hmove⟩ => ⟨request, status, message, snapshot, isBehind, after, rfl, rfl,
        MergeFailure.report_eq_none_iff.mp hfailure, hmerged, hreport, hmove⟩

/-- Of an operation that reaches its plan, the gate speaks where the plan moves the pull request
on. -/
theorem Advances.gated_iff (hplan : Plans t e r op before snapshot isBehind r₀)
    (h : Advances t e snapshot isBehind allowMerge r₀ after result r') :
    t.Gated e (before ++ after) result ↔
      ((t.step e snapshot isBehind allowMerge (r₀.queue e.pull.queueKey)).decision.isMove →
        t.report? e snapshot = none) := by
  simp [Train.Gated, h.proceeds_iff hplan, hplan.plannedOn?_eq]

theorem Train.not_bypasses {queue : Queue} (hop : ∀ request, op ≠ .completeMerge request) :
    ¬ t.Bypasses e op queue made := fun ⟨request, _, _, _, _, _, h, _⟩ => hop request h

theorem Performs.gated_iff (h : Performs t e r op made result r') :
    t.Gated e made result ↔ ¬ t.Bypasses e op (r.queue e.pull.queueKey) made := by
  cases h with
  | ended _ _ _ h => exact iff_of_true (fun hp => absurd hp h.not_proceeds) (h.not_bypasses _)
  | planned before after snapshot isBehind _ r₀ r' hplan h =>
    rw [h.gated_iff hplan]
    cases op with
    | run =>
      cases hplan with
      | run _ _ _ _ hreport => exact iff_of_true (fun _ => hreport) (Train.not_bypasses (by simp))
    | cancelFlow =>
      cases hplan with
      | cancelFlow _ _ _ _ _ hreport =>
        exact iff_of_true (fun _ => hreport) (Train.not_bypasses (by simp))
    | completeMerge request =>
      have hqueue : r₀.queue e.pull.queueKey = r.queue e.pull.queueKey :=
        (Except.ok.inj hplan.planningQueue_eq).symm
      rw [hplan.bypasses_iff, hqueue]
      cases t.report? e snapshot <;> simp [Operation.allowsMerge]

/-- **The gate before a plan.** Whatever the platform answers and whatever waits, a pull request is
moved on only from a snapshot without a report, unless its merge was refused because the base branch
had moved, and it looked otherwise when it was read again. -/
theorem Train.gated_iff_not_bypasses (t : Train σ) (e : Evaluation) (op : Operation)
    (s : Session σ) :
    ∃ made, ((t.perform e op).runOn s).2.exchanges = s.exchanges ++ made ∧
      (t.Gated e made ((t.perform e op).runOn s).1 ↔
        ¬ t.Bypasses e op (s.registry.queue e.pull.queueKey) made) := by
  obtain ⟨made, hmade, h⟩ := t.perform_does e s.registry op s rfl
  exact ⟨made, hmade, h.gated_iff⟩

/-- A platform that refuses merges because the base branch has moved, and where the pull request is
in conflict since. -/
def Still.conflicted : Still where
  snapshot := { Still.clean with mergeability := .dirty }
  merge := .error (.mergeRejected 405 "Base branch was modified. Review and try the merge again.")

/-- A merge that was handed out is performed on it. -/
def Still.mergingConflicted : Except Error Outcome × Session Unit :=
  ((train conflicted).perform (evaluation {})
    (.completeMerge { pull := pull 1, method := .merge })).runOn (waiting [newEntry 1 {} 0])

/-- The merge of a pull request in conflict is handed out again. -/
theorem Train.conflict_bypasses_gate :
    ∃ made,
      Still.mergingConflicted.2.exchanges
        = (Still.waiting [Still.newEntry 1 {} 0]).exchanges ++ made ∧
      ¬ (Still.train .conflicted).Gated (Still.evaluation {}) made Still.mergingConflicted.1 := by
  have hmerge : (Still.mergingConflicted.1.toOption.any fun outcome => outcome.merge.isSome)
      = true := by
    decide +kernel
  have hseen : plannedOn? Still.mergingConflicted.2.exchanges = some Still.conflicted.snapshot := by
    decide +kernel
  obtain ⟨outcome, hok, hmerge⟩ := Still.exists_outcome hmerge
  refine ⟨Still.mergingConflicted.2.exchanges, rfl, fun hgate => ?_⟩
  obtain ⟨snapshot, hsnapshot, hreport⟩ := hgate (.inl ⟨outcome, hok, hmerge⟩)
  rw [hseen, Option.some.injEq] at hsnapshot
  rw [← hsnapshot] at hreport
  exact absurd hreport (by decide)

end MergeTrain
