import MergeTrain.Proofs.Train.Route
import MergeTrain.Proofs.Train.Sweep

/-!
# Moving a pull request on

Two things move a pull request on: a merge that is handed out, and a call that updates its head
branch. Which routes hold such a move is told here, once for each part of a route. Up to a plan
there is none, and after it there is one if the plan has decided on it and none otherwise.

## Main definitions

* `Call.isUpdate`, `Call.isMerge` — the calls that change a branch.
* `Operation.mergeCalls` — the merges that an operation asks for.
* `Operation.planningQueue` — the queue that it plans on.

## Main results

* `Performs.merge_planned`, `Performs.update_planned` — every move was planned.
* `Performs.filter_isMerge` — the merges that are asked for are known beforehand.
-/

namespace MergeTrain

/-- Whether a call updates a head branch. -/
def Call.isUpdate : Call → Bool
  | .updateBranch _ | .rewriteBranch _ _ _ => true
  | _ => false

/-- Whether a call merges a pull request. -/
def Call.isMerge : Call → Bool
  | .mergePull _ => true
  | _ => false

namespace Operation

/-- The merges that an operation asks the platform for. -/
def mergeCalls : Operation → List Call
  | .completeMerge request => [.mergePull request]
  | _ => []

/-- The queue that an operation plans on, from the queue that it finds. -/
def planningQueue {σ : Type} (t : Train σ) (e : Evaluation) (queue : Queue) :
    Operation → Except Error Queue
  | .run => Train.enqueued (e.entry t.entitlements) queue
  | _ => .ok queue

end Operation

@[simp] theorem UpdateTask.isUpdate_call (task : UpdateTask) : task.call.isUpdate = true := by
  rw [call]
  cases task.method <;> rfl

@[simp] theorem UpdateTask.isMerge_call (task : UpdateTask) : task.call.isMerge = false := by
  rw [call]
  cases task.method <;> rfl

@[simp] theorem Call.isUpdate_getPull (pull : PullRef) : (getPull pull).isUpdate = false :=
  rfl

@[simp] theorem Call.isMerge_getPull (pull : PullRef) : (getPull pull).isMerge = false :=
  rfl

variable {σ : Type} {t : Train σ} {e : Evaluation} {r r₀ r' : Registry} {op : Operation}
  {snapshot : PullSnapshot} {isBehind allowMerge : Bool} {queue : Queue} {d : Decision}
  {made before after : List Exchange} {result : Except Error Outcome}

/-- The calls of a decision that update a head branch. -/
def Evaluation.updateCalls (e : Evaluation) : Decision → List Call
  | .synchronize method => [(e.updateTask method).call]
  | _ => []

theorem exists_isUpdate_iff :
    (∃ x ∈ made, x.call.isUpdate) ↔ (made.map Exchange.call).filter Call.isUpdate ≠ [] := by
  simp [List.filter_eq_nil_iff]

/-! ### Up to a plan -/

theorem Train.merge_mergedOutcome (t : Train σ) (e : Evaluation) (snapshot : PullSnapshot) :
    (t.mergedOutcome e snapshot).merge = none := by
  rw [mergedOutcome]
  split <;> rfl

/-- No merge is handed out unless it was planned. -/
theorem Ends.merge_eq_none {outcome : Outcome} (h : Ends t e r op made (.ok outcome) r') :
    outcome.merge = none := by
  cases h with
  | unmatchedReported => split <;> rfl
  | merged | rejectedButMerged => exact t.merge_mergedOutcome e _
  | _ => rfl

theorem Ends.filter_isUpdate (h : Ends t e r op made result r') :
    (made.map Exchange.call).filter Call.isUpdate = [] := by
  cases h <;> rfl

theorem Ends.filter_isMerge (h : Ends t e r op made result r') :
    (made.map Exchange.call).filter Call.isMerge = op.mergeCalls := by
  cases h <;> rfl

theorem Plans.filter_isUpdate (h : Plans t e r op before snapshot isBehind r₀) :
    (before.map Exchange.call).filter Call.isUpdate = [] := by
  cases h <;> rfl

theorem Plans.filter_isMerge (h : Plans t e r op before snapshot isBehind r₀) :
    (before.map Exchange.call).filter Call.isMerge = op.mergeCalls := by
  cases h <;> rfl

/-- A plan knows how fresh the head branch is because the platform was asked. -/
theorem Plans.mem_isBehind (h : Plans t e r op before snapshot isBehind r₀) :
    ⟨.isBehind e.pull, .ok isBehind⟩ ∈ before := by
  cases h <;> simp

/-- The queue that a plan is made on. -/
theorem Plans.planningQueue_eq (h : Plans t e r op before snapshot isBehind r₀) :
    op.planningQueue t e (r.queue e.pull.queueKey) = .ok (r₀.queue e.pull.queueKey) := by
  cases h with
  | run snapshot isBehind queue h hreport hqueue =>
    rw [Registry.queue_update_self (by simp [Registry.queue?_open_self])]
    exact hqueue
  | cancelFlow => rw [Registry.queue_open, Registry.queue_follow]; rfl
  | completeMerge => rw [Registry.queue_open]; rfl

theorem Operation.nodup_planningQueue {queue planning : Queue} (h : queue.numbers.Nodup)
    (hp : op.planningQueue t e queue = .ok planning) : planning.numbers.Nodup := by
  cases op with
  | run => exact Train.nodup_numbers_enqueued h hp
  | cancelFlow | completeMerge => cases hp; exact h

/-- There is a queue to plan on if the queue of the target bears the right label. -/
theorem Operation.exists_planningQueue (op : Operation) (t : Train σ) (e : Evaluation)
    (h : e.pull.baseRef = queue.branch) :
    ∃ planning, op.planningQueue t e queue = .ok planning := by
  cases op with
  | run => exact Train.exists_enqueued h
  | cancelFlow | completeMerge => exact ⟨queue, rfl⟩

theorem Plans.isSome_queue? (h : Plans t e r op before snapshot isBehind r₀) :
    (r₀.queue? e.pull.queueKey).isSome := by
  cases h <;> simp [Registry.queue?_update_self, Registry.queue?_open_self]

theorem Plans.nodup_numbers (h : Plans t e r op before snapshot isBehind r₀) (hr : r.Distinct) :
    (r₀.queue e.pull.queueKey).numbers.Nodup :=
  Operation.nodup_planningQueue (hr.queue _) h.planningQueue_eq

/-! ### From a plan on -/

theorem Acts.filter_isUpdate (h : Acts t e snapshot isBehind queue r d made result r') :
    (made.map Exchange.call).filter Call.isUpdate = e.updateCalls d := by
  cases h <;> simp [Evaluation.updateCalls]

theorem Acts.filter_isMerge (h : Acts t e snapshot isBehind queue r d made result r') :
    (made.map Exchange.call).filter Call.isMerge = [] := by
  cases h <;> simp

/-- A merge is handed out where that was decided. -/
theorem Acts.merge_iff (h : Acts t e snapshot isBehind queue r d made result r') :
    (∃ outcome, result = .ok outcome ∧ outcome.merge.isSome) ↔ ∃ method, d = .merge method := by
  cases h <;> simp [Outcome.evicted]

/-- What comes of a plan is what came of carrying it out, with those who were removed on the way. -/
theorem Advances.of_ok {outcome : Outcome}
    (h : Advances t e snapshot isBehind allowMerge r made (.ok outcome) r') :
    ∃ step inner, t.step e snapshot isBehind allowMerge (r.queue e.pull.queueKey) = step ∧
      Acts t e snapshot isBehind step.queue (r.update e.pull.queueKey fun _ => step.queue)
        step.decision made (.ok inner) r' ∧
      outcome = { inner with expired := step.expired } := by
  generalize hresult : Except.ok outcome = result at h
  obtain ⟨step, made, result, r', hstep, h⟩ := h
  cases result with
  | error error => cases hresult
  | ok inner => exact ⟨step, inner, hstep, h, Except.ok.inj hresult⟩

theorem Advances.filter_isUpdate (h : Advances t e snapshot isBehind allowMerge r made result r') :
    (made.map Exchange.call).filter Call.isUpdate =
      e.updateCalls (t.step e snapshot isBehind allowMerge (r.queue e.pull.queueKey)).decision := by
  obtain ⟨step, made, result, r', rfl, h⟩ := h
  exact h.filter_isUpdate

theorem Advances.filter_isMerge (h : Advances t e snapshot isBehind allowMerge r made result r') :
    (made.map Exchange.call).filter Call.isMerge = [] := by
  obtain ⟨step, made, result, r', -, h⟩ := h
  exact h.filter_isMerge

theorem Advances.merge_iff (h : Advances t e snapshot isBehind allowMerge r made result r') :
    (∃ outcome, result = .ok outcome ∧ outcome.merge.isSome) ↔
      ∃ method, (t.step e snapshot isBehind allowMerge (r.queue e.pull.queueKey)).decision
        = .merge method := by
  obtain ⟨step, made, result, r', rfl, h⟩ := h
  rw [← h.merge_iff]
  cases result with
  | error error => simp [Except.map]
  | ok outcome => simp [Except.map]

/-! ### Whole operations -/

/-- Which merges an operation asks for is known beforehand. -/
theorem Performs.filter_isMerge (h : Performs t e r op made result r') :
    (made.map Exchange.call).filter Call.isMerge = op.mergeCalls := by
  cases h with
  | ended _ _ _ h => exact h.filter_isMerge
  | planned before after snapshot isBehind _ r₀ r' hplan h =>
    rw [List.map_append, List.filter_append, hplan.filter_isMerge, h.filter_isMerge,
      List.append_nil]

/-- A merge that is handed out was planned. -/
theorem Performs.merge_planned {outcome : Outcome} (h : Performs t e r op made (.ok outcome) r')
    (hmerge : outcome.merge.isSome) :
    ∃ before snapshot isBehind r₀ method, Plans t e r op before snapshot isBehind r₀ ∧
      before <+: made ∧ (made.map Exchange.call).filter Call.isUpdate = [] ∧
      (t.step e snapshot isBehind op.allowsMerge (r₀.queue e.pull.queueKey)).decision
        = .merge method := by
  cases h with
  | ended _ _ _ h => rw [h.merge_eq_none] at hmerge; cases hmerge
  | planned before after snapshot isBehind _ r₀ r' hplan h =>
    obtain ⟨method, hd⟩ := h.merge_iff.mp ⟨outcome, rfl, hmerge⟩
    refine ⟨before, snapshot, isBehind, r₀, method, hplan, List.prefix_append _ _, ?_, hd⟩
    rw [List.map_append, List.filter_append, hplan.filter_isUpdate, h.filter_isUpdate, hd]
    rfl

/-- An update that is asked for was planned, and there is no other one. -/
theorem Performs.update_planned (h : Performs t e r op made result r') {x : Exchange}
    (hx : x ∈ made) (hupdate : x.call.isUpdate) :
    ∃ before snapshot isBehind r₀ method, Plans t e r op before snapshot isBehind r₀ ∧
      before <+: made ∧ (made.map Exchange.call).filter Call.isUpdate = [x.call] ∧
      (t.step e snapshot isBehind op.allowsMerge (r₀.queue e.pull.queueKey)).decision
        = .synchronize method := by
  have hmem : x.call ∈ (made.map Exchange.call).filter Call.isUpdate :=
    List.mem_filter.mpr ⟨List.mem_map_of_mem hx, hupdate⟩
  cases h with
  | ended _ _ _ h => rw [h.filter_isUpdate] at hmem; cases hmem
  | planned before after snapshot isBehind _ r₀ r' hplan h =>
    rw [List.map_append, List.filter_append, hplan.filter_isUpdate, h.filter_isUpdate,
      List.nil_append] at hmem ⊢
    cases hd : (t.step e snapshot isBehind op.allowsMerge (r₀.queue e.pull.queueKey)).decision with
    | synchronize method =>
      rw [hd, Evaluation.updateCalls, List.mem_singleton] at hmem
      exact ⟨before, snapshot, isBehind, r₀, method, hplan, List.prefix_append _ _,
        by rw [hmem]; rfl, hd⟩
    | _ => rw [hd] at hmem; cases hmem

end MergeTrain
