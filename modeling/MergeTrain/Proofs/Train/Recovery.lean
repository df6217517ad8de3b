import MergeTrain.Proofs.Train.Place

/-!
# After a failed update

An update of the head branch may fail because the pull request has changed meanwhile. It is then
read again, and that is the last that the platform is asked. If it is told what became of the pull
request, the operation does not fail: the pull request leaves its queue, with a report on how it
looks now or else on the update, and those who were removed for being late are named as they would
have been. If it is told nothing, the operation fails with what it was told, and the pull request
stays where it was.

An update is the first thing that is done after a plan, and no other is done in the operation. So it
is enough to find a failed one among the calls to know which route was taken.

## Main definitions

* `Outcome.Recovered` — the pull request has left, and the outcome says all that it should.
* `Registry.Retains` — the pull request has kept its entry.

## Main results

* `Acts.of_failed_update` — the routes on from a plan on which an update fails in that way.
* `Train.failed_update_recovers` — what the three operations come to.
-/

namespace MergeTrain

/-- An element that is not in the first part of a list is in the second one. -/
theorem exists_of_append_eq_of_not_mem {α : Type} {a : α} {l l' before after : List α}
    (h : l ++ l' = before ++ a :: after) (ha : a ∉ l) :
    ∃ middle, before = l ++ middle ∧ l' = middle ++ a :: after := by
  rcases List.append_eq_append_iff.mp h with ⟨middle, hbefore, hl'⟩ | ⟨middle, rfl, hrest⟩
  · exact ⟨middle, hbefore, hl'⟩
  · cases middle with
    | nil => exact ⟨[], by simp, hrest.symm⟩
    | cons b middle =>
      obtain rfl : a = b := (List.cons_eq_cons.mp hrest).1
      exact absurd (by simp) ha

variable {σ : Type} {t : Train σ} {e : Evaluation} {r r₀ r' : Registry} {op : Operation}
  {snapshot later : PullSnapshot} {isBehind allowMerge : Bool} {queue : Queue} {d : Decision}
  {made before after : List Exchange} {x : Exchange} {result : Except Error Outcome}
  {title message : String} {error : Error}

/-! ### The routes -/

/-- The report after an update that has failed. -/
theorem report_failed (t : Train σ) (e : Evaluation) (method : UpdateMethod)
    (title message : String) (later : PullSnapshot) :
    ((e.updateTask method).failed t.settings.bots title message later).report
      = (t.report? e later).getD (.concluded .failure title message) := by
  have hstrict : (e.updateTask method).strict = e.config.strict := rfl
  rw [UpdateTask.failed, Train.report?, hstrict]
  cases later.mergeReport t.settings.bots e.config.strict <;> rfl

theorem eq_of_append_cons_eq_pair {α : Type} {a b c : α} {before after : List α}
    (h : before ++ a :: after = [b, c]) :
    (before = [] ∧ a = b ∧ after = [c]) ∨ (a = c ∧ after = []) := by
  match before, h with
  | [], h => exact .inl ⟨rfl, by simpa using h⟩
  | [_], h =>
    obtain ⟨-, hlast⟩ := List.cons_eq_cons.mp h
    exact .inr (by simpa using hlast)
  | _ :: _ :: _, h => simp at h

/-- **Where an update fails** because of the branch, it is the first call after the plan, and to
read the pull request again is the second and the last. -/
theorem Acts.of_failed_update
    (h : Acts t e snapshot isBehind queue r d (before ++ x :: after) result r')
    (hx : x.call.isUpdate = true) (hfails : x.answer = .error (.branchUpdate title message)) :
    (∃ later report, after = [⟨.getPull e.pull, .ok later⟩] ∧
        report = (t.report? e later).getD (.concluded .failure title message) ∧
        result = .ok { report, state := Outcome.stateAfterUpdate report } ∧ r' = r.leave e.pull) ∨
      ∃ error, after = [⟨.getPull e.pull, .error error⟩] ∧ result = .error error ∧ r' = r ∧
        d.state?.isSome := by
  generalize hmade : before ++ x :: after = made at h
  cases h with
  | waits | blocks | evicts | merges => simp at hmade
  | updates method answer =>
    obtain ⟨-, hx'⟩ : before = [] ∧ x :: after = [_] := by
      simpa [List.append_eq_singleton_iff] using hmade
    obtain rfl := (List.cons_eq_cons.mp hx').1
    cases hfails
  | updateBreaks method error hother =>
    obtain ⟨-, hx'⟩ : before = [] ∧ x :: after = [_] := by
      simpa [List.append_eq_singleton_iff] using hmade
    obtain rfl := (List.cons_eq_cons.mp hx').1
    exact absurd (Except.error.inj hfails) (hother title message)
  | updateFails method title' message' later report hreport =>
    rcases eq_of_append_cons_eq_pair hmade with ⟨-, rfl, hafter⟩ | ⟨rfl, -⟩
    · cases hfails
      exact .inl ⟨later, report, hafter, by rw [← hreport, report_failed], rfl, rfl⟩
    · cases hx
  | rereadFails method title' message' error =>
    rcases eq_of_append_cons_eq_pair hmade with ⟨-, rfl, hafter⟩ | ⟨rfl, -⟩
    · exact .inr ⟨error, hafter, rfl, rfl, rfl⟩
    · cases hx

/-! ### Whole operations -/

/-- The pull request has left after an update that has failed, and the outcome says all that it
should. -/
structure Outcome.Recovered (outcome : Outcome) (t : Train σ) (e : Evaluation)
    (title message : String) (later : PullSnapshot) (old new : Registry) : Prop where
  /-- On how the pull request looks now, if that ends its way, or else on the update. -/
  report : outcome.report = (t.report? e later).getD (.concluded .failure title message)
  state : outcome.state.isLive = false
  merge : outcome.merge = none
  left : new.holds e.pull = false
  /-- The others who were late are named, in the order in which they stood. -/
  expired : outcome.expired = ((old.others e.pull e.pull.queueKey).filter
    (e.isLate t.settings.queue)).map QueueEntry.number
  /-- They are those who have left the queue. -/
  accounts : outcome.Accounts t e old new

/-- The pull request has what it had in the queue when the operation planned on it, and it has kept
its place. -/
structure Registry.Retains (new old : Registry) (t : Train σ) (e : Evaluation) (op : Operation) :
    Prop where
  entry : ∃ planning, op.planningQueue t e (old.queue e.pull.queueKey) = .ok planning ∧
    (new.queue e.pull.queueKey).own e.pull.number = planning.own e.pull.number
  place : (old.queue e.pull.queueKey).KeepsPlace (new.queue e.pull.queueKey) e.pull.number

/-- What comes of a plan on which an update fails. -/
theorem Performs.of_failed_update
    (h : Performs t e r op (before ++ x :: after) result r') (hr : r.Distinct)
    (hx : x.call.isUpdate = true) (hfails : x.answer = .error (.branchUpdate title message)) :
    (∃ later outcome, after = [⟨.getPull e.pull, .ok later⟩] ∧ result = .ok outcome ∧
        outcome.Recovered t e title message later r r') ∨
      ∃ error, after = [⟨.getPull e.pull, .error error⟩] ∧ result = .error error ∧
        r'.Retains r t e op := by
  have hmem : x.call ∈ ((before ++ x :: after).map Exchange.call).filter Call.isUpdate :=
    List.mem_filter.mpr ⟨List.mem_map_of_mem (by simp), hx⟩
  have haccounts : ∀ outcome, result = .ok outcome → outcome.Accounts t e r r' := by
    rintro outcome rfl
    exact h.accounts hr
  generalize hmade : before ++ x :: after = made at h hmem
  cases h with
  | ended _ _ _ h =>
    rw [h.filter_isUpdate] at hmem
    cases hmem
  | planned asked acted snapshot isBehind _ r₀ r₁ hplan h =>
    -- nothing is updated before the plan, so the failed update comes after it
    have hnot : x ∉ asked := by
      intro hasked
      have hupdate : x.call ∈ (asked.map Exchange.call).filter Call.isUpdate :=
        List.mem_filter.mpr ⟨List.mem_map_of_mem hasked, hx⟩
      rw [hplan.filter_isUpdate] at hupdate
      cases hupdate
    obtain ⟨middle, rfl, rfl⟩ := exists_of_append_eq_of_not_mem hmade.symm hnot
    cases result with
    | ok outcome =>
      have hexpired := h.expired_eq hplan
      obtain ⟨step, inner, rfl, hacts, rfl⟩ := h.of_ok
      rcases hacts.of_failed_update hx hfails with
        ⟨later, report, hafter, hreport, hresult, rfl⟩ | ⟨error, -, hresult, -⟩
      · cases hresult
        refine .inl ⟨later, _, hafter, rfl, hreport, Outcome.isLive_stateAfterUpdate report, rfl,
          ?_, hexpired, haccounts _ rfl⟩
        rw [Registry.holds_prune]
        refine Registry.holds_leave ?_
        rw [Registry.queue_update_self hplan.isSome_queue?]
        exact Evaluation.nodup_numbers_plan (hplan.nodup_numbers hr)
      · cases hresult
    | error error =>
      have hplace := (hplan.keepsPlace (hr.queue _)).trans
        ((h.keepsPlace hplan).trans (r₁.keepsPlace_prune _ _))
      obtain ⟨step, rfl, hacts⟩ := h.of_error
      rcases hacts.of_failed_update hx hfails with
        ⟨later, report, -, -, hresult, -⟩ | ⟨error, hafter, hresult, rfl, hkept⟩
      · cases hresult
      · cases hresult
        refine .inr ⟨error, hafter, rfl, ⟨_, hplan.planningQueue_eq, ?_⟩, hplace⟩
        rw [Queue.own, Registry.entries_queue_prune,
          Registry.queue_update_self hplan.isSome_queue?]
        exact (Evaluation.own_queue_plan hkept).2

/-- **A failed update does not end the operation.** Whatever the platform answers, and from any
registry in which no pull request waits twice in a queue: when an update of the head branch fails
because of the branch, the pull request is read again, and nothing else is asked after it. If that
succeeds, so does the operation. The pull request has left its queue and is not reported as being in
the train, the report is the one on how it looks now or else on the update, and those who were late
are named. If it fails, the operation fails in the same way, and the pull request has kept its entry
and its place. -/
theorem Train.failed_update_recovers (t : Train σ) (e : Evaluation) (op : Operation)
    (s : Session σ) (hs : s.registry.Distinct) {before after : List Exchange} {x : Exchange}
    {title message : String}
    (hmade : ((t.perform e op).runOn s).2.exchanges = s.exchanges ++ (before ++ x :: after))
    (hx : x.call.isUpdate = true) (hfails : x.answer = .error (.branchUpdate title message)) :
    (∃ later outcome, after = [⟨.getPull e.pull, .ok later⟩] ∧
        ((t.perform e op).runOn s).1 = .ok outcome ∧
        outcome.Recovered t e title message later s.registry
          ((t.perform e op).runOn s).2.registry) ∨
      ∃ error, after = [⟨.getPull e.pull, .error error⟩] ∧
        ((t.perform e op).runOn s).1 = .error error ∧
        ((t.perform e op).runOn s).2.registry.Retains s.registry t e op := by
  obtain ⟨made, hmade', h⟩ := t.perform_does e s.registry op s rfl
  obtain rfl : made = before ++ x :: after := List.append_cancel_left (hmade'.symm.trans hmade)
  exact h.of_failed_update hs hx hfails

/-- A platform on which the head branch is behind and cannot be updated. -/
def Still.contested : Still where
  isBehind := true
  update := .error (.branchUpdate "Base branch update has failed" "merge conflict")

/-- A session in which the second pull request is late, and the first one stands behind it. -/
def Still.lateAndNew : Session Unit :=
  waiting [lateEntry 2 {} 0, newEntry 1 {} 1]

/-- The first one is evaluated, to be kept up to date. -/
def Still.contesting : Except Error Outcome × Session Unit :=
  ((train contested).perform (evaluation { strict := .continuous }) .run).runOn lateAndNew

/-- The second one has left and is named. The first one has left too, and the report tells why. -/
theorem Train.contested_update_recovers :
    Still.lateAndNew.registry.Distinct ∧
      ∃ later outcome, Still.contesting.2.exchanges.getLast?
          = some ⟨.getPull (Still.pull 1), .ok later⟩ ∧ Still.contesting.1 = .ok outcome ∧
        outcome.Recovered (Still.train .contested) (Still.evaluation { strict := .continuous })
          "Base branch update has failed" "merge conflict" later Still.lateAndNew.registry
          Still.contesting.2.registry ∧
        outcome.expired = [2] ∧ outcome.report.title = "Base branch update has failed" := by
  have hs : Still.lateAndNew.registry.Distinct := by decide
  have hmade : Still.contesting.2.exchanges = Still.lateAndNew.exchanges ++
      ([⟨.getPull (Still.pull 1), .ok Still.clean⟩, ⟨.isBehind (Still.pull 1), .ok true⟩] ++
        ⟨.updateBranch (Still.pull 1), Still.contested.update⟩ ::
          [⟨.getPull (Still.pull 1), .ok Still.clean⟩]) := by
    decide +kernel
  have hlisted : Still.contesting.1.toOption.any (fun outcome =>
      outcome.expired = [2] && outcome.report.title = "Base branch update has failed") = true := by
    decide +kernel
  obtain ⟨outcome, hok, hlisted⟩ := Still.exists_outcome hlisted
  rcases Train.failed_update_recovers (Still.train .contested)
      (Still.evaluation { strict := .continuous }) .run Still.lateAndNew hs hmade rfl rfl with
    ⟨later, outcome', hafter, hok', hrecovered⟩ | ⟨error, -, herror, -⟩
  · obtain rfl : outcome = outcome' := Except.ok.inj (hok.symm.trans hok')
    obtain ⟨hexpired, htitle⟩ := Bool.and_eq_true_iff.mp hlisted
    refine ⟨hs, later, outcome, ?_, hok, hrecovered, of_decide_eq_true hexpired,
      of_decide_eq_true htitle⟩
    rw [hmade, hafter]
    rfl
  · cases hok.symm.trans herror

end MergeTrain
