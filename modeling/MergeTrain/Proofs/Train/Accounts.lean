import MergeTrain.Proofs.Train.Unmatched

/-!
# Accounts that have to be paid for

A policy may name an account to rewrite head branches and another one to merge, and both are for
owners who have paid for them. An evaluation of a rule that matches asks for that before anything
else. The accounts are used much later, where a plan is carried out, and nobody asks there.

There are two other ways to a plan: a rule that has stopped matching, and a merge that was refused
because the base branch had moved. Neither asks, and what they plan is carried out with whatever
accounts the policy names. Nothing is assumed about the platform or the queues.

## Main definitions

* `Evaluation.UsesAccount` — an account that has to be paid for was used.
* `Decision.usesAccount` — a decision is carried out with one.
* `Train.PlansUnasked` — such a decision was made on one of the two other ways.

## Main results

* `Train.refusal?_eq_none_iff` — who has not paid is refused exactly if such an account is named.
* `Train.unpaid_account_used_iff` — when such an account is used for an owner who has not paid.
* `Train.unpaid_account_rewrites` — and this happens.
-/

namespace MergeTrain

/-- The account that a call asks the platform to act as. -/
def Call.rewriter? : Call → Option String
  | .rewriteBranch _ _ actor => actor
  | _ => none

/-- An account that has to be paid for was used: the platform was asked to rewrite the head branch
as the one that the policy names for updates, or a merge was handed out to be performed as one. -/
def Evaluation.UsesAccount (e : Evaluation) (made : List Exchange)
    (result : Except Error Outcome) : Prop :=
  (∃ x ∈ made, ∃ actor, x.call.rewriter? = some actor ∧ e.config.updateBotAccount = some actor) ∨
    ∃ outcome request, result = .ok outcome ∧ outcome.merge = some request ∧ request.actor.isSome

/-- Whether a decision is carried out with an account that has to be paid for. -/
def Decision.usesAccount (config : MergeConfig) : Decision → Bool
  | .merge _ => config.mergeBotAccount.isSome
  | .synchronize .rebase => config.updateBotAccount.isSome
  | _ => false

variable {σ : Type} {t : Train σ} {e : Evaluation} {r r₀ r' : Registry} {op : Operation}
  {snapshot : PullSnapshot} {isBehind allowMerge : Bool} {queue : Queue} {d : Decision}
  {made before after : List Exchange} {result : Except Error Outcome}

/-- An operation that does not ask what the owner has paid for has decided on something that is
carried out with an account to be paid for. -/
def Train.PlansUnasked (t : Train σ) (e : Evaluation) (op : Operation) (queue : Queue)
    (made : List Exchange) : Prop :=
  op ≠ .run ∧ ∃ snapshot isBehind, plannedOn? made = some snapshot ∧
    comparison? made = some isBehind ∧
    (t.step e snapshot isBehind op.allowsMerge queue).decision.usesAccount e.config = true

/-- **Who has not paid is refused exactly if the policy names an account.** -/
theorem Train.refusal?_eq_none_iff
    (hfree : t.entitlements.allows e.pull.owner.id .mergeBotAccount = false) :
    t.refusal? e = none ↔
      e.config.updateBotAccount = none ∧ e.config.mergeBotAccount = none := by
  rw [refusal?, MergeConfig.refusal, hfree]
  cases hu : e.config.updateBotAccount <;> cases hm : e.config.mergeBotAccount <;>
    simp [MergeConfig.gatedOptions, hu, hm]

theorem Decision.usesAccount_eq_false {config : MergeConfig} (hu : config.updateBotAccount = none)
    (hm : config.mergeBotAccount = none) (d : Decision) : d.usesAccount config = false := by
  unfold usesAccount
  split
  · rw [hm, Option.isSome_none]
  · rw [hu, Option.isSome_none]
  · rfl

/-! ### Calls -/

theorem Call.isUpdate_of_rewriter? {call : Call} {actor : String}
    (h : call.rewriter? = some actor) : call.isUpdate = true := by
  cases call with
  | rewriteBranch => rfl
  | _ => cases h

/-- Only a rebase is done by an account, and a named one comes before its older name. -/
theorem Evaluation.rewriter?_updateTask (e : Evaluation) (method : UpdateMethod) :
    (∃ actor, (e.updateTask method).call.rewriter? = some actor ∧
        e.config.updateBotAccount = some actor) ↔
      (Decision.synchronize method).usesAccount e.config = true := by
  cases method with
  | merge => simp [updateTask, UpdateTask.call, Call.rewriter?, Decision.usesAccount]
  | rebase =>
    simp only [updateTask, UpdateTask.call, Call.rewriter?, Decision.usesAccount, updateActor,
      MergeConfig.updateActor]
    cases e.config.updateBotAccount <;> simp

/-- Who rewrites the head branch is seen from the updates alone. -/
theorem exists_rewriter?_iff {p : String → Prop} :
    (∃ x ∈ made, ∃ actor, x.call.rewriter? = some actor ∧ p actor) ↔
      ∃ call ∈ (made.map Exchange.call).filter Call.isUpdate, ∃ actor,
        call.rewriter? = some actor ∧ p actor := by
  constructor
  · rintro ⟨x, hx, actor, hactor, hp⟩
    exact ⟨x.call, List.mem_filter.mpr ⟨List.mem_map_of_mem hx, Call.isUpdate_of_rewriter? hactor⟩,
      actor, hactor, hp⟩
  · rintro ⟨call, hcall, actor, hactor, hp⟩
    obtain ⟨x, hx, rfl⟩ := List.mem_map.mp (List.mem_of_mem_filter hcall)
    exact ⟨x, hx, actor, hactor, hp⟩

/-! ### Operations -/

/-- A merge that is handed out is to be performed as the policy says. -/
theorem Advances.exists_actor_iff
    (h : Advances t e snapshot isBehind allowMerge r made result r') :
    (∃ outcome request, result = .ok outcome ∧ outcome.merge = some request ∧
        request.actor.isSome) ↔
      ∃ method, (t.step e snapshot isBehind allowMerge (r.queue e.pull.queueKey)).decision
        = .merge method ∧ e.config.mergeBotAccount.isSome := by
  obtain ⟨step, made, result, r', rfl, hacts⟩ := h
  generalize (t.step e snapshot isBehind allowMerge _).decision = d at hacts ⊢
  cases hacts <;> simp [Except.map, Outcome.evicted, Evaluation.mergeRequest]

/-- An operation that reaches its plan uses an account if that was decided. -/
theorem Advances.usesAccount_iff (hplan : Plans t e r op before snapshot isBehind r₀)
    (h : Advances t e snapshot isBehind allowMerge r₀ after result r') :
    e.UsesAccount (before ++ after) result ↔
      (t.step e snapshot isBehind allowMerge
        (r₀.queue e.pull.queueKey)).decision.usesAccount e.config = true := by
  rw [Evaluation.UsesAccount, exists_rewriter?_iff, List.map_append, List.filter_append,
    hplan.filter_isUpdate, h.filter_isUpdate, List.nil_append, h.exists_actor_iff]
  cases (t.step e snapshot isBehind allowMerge (r₀.queue e.pull.queueKey)).decision with
  | synchronize method =>
    simp only [Evaluation.updateCalls, List.mem_singleton, exists_eq_left,
      Evaluation.rewriter?_updateTask]
    simp
  | merge method => simp [Evaluation.updateCalls, Decision.usesAccount]
  | wait | blocked | evict => simp [Evaluation.updateCalls, Decision.usesAccount]

/-- Nothing is carried out before a plan. -/
theorem Ends.not_usesAccount (h : Ends t e r op made result r') : ¬ e.UsesAccount made result := by
  rintro (hrewriter | ⟨outcome, request, rfl, hmerge, -⟩)
  · rw [exists_rewriter?_iff, h.filter_isUpdate] at hrewriter
    obtain ⟨call, hcall, -⟩ := hrewriter
    cases hcall
  · rw [h.merge_eq_none] at hmerge
    cases hmerge

theorem Ends.not_plansUnasked (h : Ends t e r op made result r') :
    ¬ t.PlansUnasked e op (r.queue e.pull.queueKey) made := by
  rintro ⟨hop, snapshot, isBehind, -, hcompared, -⟩
  have hqueue : op.planningQueue t e (r.queue e.pull.queueKey)
      = .ok (r.queue e.pull.queueKey) := by
    cases op with
    | run => exact absurd rfl hop
    | cancelFlow | completeMerge => rfl
  rw [h.comparison?_eq_none hqueue] at hcompared
  cases hcompared

theorem Performs.usesAccount_iff (h : Performs t e r op made result r')
    (hfree : t.entitlements.allows e.pull.owner.id .mergeBotAccount = false) :
    e.UsesAccount made result ↔ t.PlansUnasked e op (r.queue e.pull.queueKey) made := by
  cases h with
  | ended _ _ _ h => exact iff_of_false h.not_usesAccount h.not_plansUnasked
  | planned before after snapshot isBehind _ r₀ r' hplan h =>
    rw [h.usesAccount_iff hplan, Train.PlansUnasked, hplan.plannedOn?_eq, hplan.comparison?_eq]
    cases op with
    | run =>
      cases hplan with
      | run _ _ _ hrefusal =>
        obtain ⟨hu, hm⟩ := (Train.refusal?_eq_none_iff hfree).mp hrefusal
        simp [Decision.usesAccount_eq_false hu hm]
    | cancelFlow | completeMerge =>
      have hqueue := Except.ok.inj hplan.planningQueue_eq
      simp [hqueue]

/-- **When an account is used that was not paid for.** An evaluation of a rule that matches never
does so, whatever the platform answers and whatever waits. The other two operations do it exactly if
they reach a plan and decide on a rebase while the policy names an account for updates, or on a
merge while it names one for merges. -/
theorem Train.unpaid_account_used_iff (t : Train σ) (e : Evaluation) (op : Operation)
    (s : Session σ) (hfree : t.entitlements.allows e.pull.owner.id .mergeBotAccount = false) :
    ∃ made, ((t.perform e op).runOn s).2.exchanges = s.exchanges ++ made ∧
      (e.UsesAccount made ((t.perform e op).runOn s).1 ↔
        t.PlansUnasked e op (s.registry.queue e.pull.queueKey) made) := by
  obtain ⟨made, hmade, h⟩ := t.perform_does e s.registry op s rfl
  exact ⟨made, hmade, h.usesAccount_iff hfree⟩

/-- A platform that refuses merges because the base branch has moved. -/
def Still.moved : Still where
  merge := conflicted.merge

/-- An evaluation where the policy names an account for merges. -/
def Still.merger : Evaluation :=
  evaluation { mergeBotAccount := some "bot" }

/-- The merge of a pull request that waits, for an owner who has paid for nothing. -/
def Still.mergingAgain : Except Error Outcome × Session Unit :=
  ((train moved).perform merger (.completeMerge { pull := pull 1, method := .merge })).runOn
    (waiting [newEntry 1 {} 0])

/-- A merge that was refused is handed out again, to be performed as an account that was not paid
for. -/
theorem Train.unpaid_account_merges :
    (Still.train .moved).entitlements.allows Still.merger.pull.owner.id .mergeBotAccount = false ∧
      Still.merger.UsesAccount Still.mergingAgain.2.exchanges Still.mergingAgain.1 := by
  have hfree : (Still.train .moved).entitlements.allows Still.merger.pull.owner.id
      .mergeBotAccount = false := by
    decide
  obtain ⟨made, hmade, hiff⟩ := Train.unpaid_account_used_iff (Still.train .moved) Still.merger
    (.completeMerge { pull := Still.pull 1, method := .merge })
    (Still.waiting [Still.newEntry 1 {} 0]) hfree
  have hplanned : plannedOn? Still.mergingAgain.2.exchanges = some Still.clean ∧
      comparison? Still.mergingAgain.2.exchanges = some false := by
    decide +kernel
  have hmade' : Still.mergingAgain.2.exchanges = made := hmade
  rw [← hmade'] at hiff
  exact ⟨hfree, hiff.mpr ⟨by simp, Still.clean, false, hplanned.1, hplanned.2, by decide +kernel⟩⟩

/-- A platform on which the head branch is behind. -/
def Still.outdated : Still where
  isBehind := true

/-- An evaluation of a pull request whose rule does not match, where the policy names an account for
updates. -/
def Still.rewriter : Evaluation :=
  { unmatched with
    config := { strict := .continuous, updateMethod := .rebase, updateBotAccount := some "bot" } }

/-- That evaluation of a pull request that waits, for an owner who has paid for nothing. -/
def Still.rewriting : Except Error Outcome × Session Unit :=
  ((train outdated).perform rewriter .cancelFlow).runOn (waiting [newEntry 1 {} 0])

/-- The head branch is rewritten as an account that was not paid for. -/
theorem Train.unpaid_account_rewrites :
    (Still.train .outdated).entitlements.allows Still.rewriter.pull.owner.id .mergeBotAccount
        = false ∧
      Still.rewriter.UsesAccount Still.rewriting.2.exchanges Still.rewriting.1 := by
  have hrewrites : (Still.rewriting.2.exchanges.any fun x => x.call.rewriter? = some "bot")
      = true := by
    decide +kernel
  obtain ⟨x, hx, hactor⟩ := List.any_eq_true.mp hrewrites
  exact ⟨by decide, .inl ⟨x, hx, "bot", of_decide_eq_true hactor, rfl⟩⟩

end MergeTrain
