import MergeTrain.Proofs.Train.History

/-!
# Two runs side by side

Some properties of a train are about two runs: the same operation carried out from two sessions, or
by two trains. What is to be shown is that the runs do not come apart. They ask the platform the
same, end in the same way and leave what they began with, two sessions that are alike.

In what way two sessions are alike differs from one property to the next. So the rules below are
about any `Link`, which says what is compared and how. The operations are gone through once, and
what they need of the link is collected in `Train.Twins`: that each single change keeps the link,
and that what is read from alike sessions leads to the same decisions.

## Main definitions

* `Link`, `Link.Joins` — in what way two sessions are alike.
* `Alike` — two results, failures among them, that are alike.
* `TrainM.Twin` — two operations that do not come apart.
* `Train.entitled`, `Evaluation.prioritized` — what may differ between the two sides.
* `Train.Twins` — what the operations need of a link.

## Main results

* `TrainM.Twin.bind` — one after the other.
* `Train.Twins.perform_twin` — operations of twins do not come apart.
-/

namespace MergeTrain

variable {σ α β : Type}

/-- In what way two runs are alike: the platforms, the registries and the queues that they work on,
and the reports that come of it. -/
structure Link (σ : Type) where
  platform : σ → σ → Prop
  registry : Registry → Registry → Prop
  queue : Queue → Queue → Prop
  report : StatusReport → StatusReport → Prop

namespace Link

/-- Two sessions are alike. -/
structure Joins (L : Link σ) (s s' : Session σ) : Prop where
  platform : L.platform s.platform s'.platform
  registry : L.registry s.registry s'.registry

/-- Two outcomes are alike: the reports are, and all else is the same. -/
structure Outcomes (L : Link σ) (o o' : Outcome) : Prop where
  report : L.report o.report o'.report
  merge : o'.merge = o.merge
  state : o'.state = o.state
  expired : o'.expired = o.expired

/-- Outcomes that are alike are the same if they have the same report. -/
theorem Outcomes.eq_of_report {L : Link σ} {o o' : Outcome} (h : L.Outcomes o o')
    (hreport : o.report = o'.report) : o = o' := by
  obtain ⟨report, merge, state, expired⟩ := o
  obtain ⟨report', merge', state', expired'⟩ := o'
  obtain ⟨-, hmerge, hstate, hexpired⟩ := h
  subst hmerge hstate hexpired
  cases hreport
  rfl

/-- A platform answers alike where it is in alike states. -/
def Answers (L : Link σ) (platform : Platform σ) : Prop :=
  ∀ call p p', L.platform p p' →
    (platform.answer call p').1 = (platform.answer call p).1 ∧
      L.platform (platform.answer call p).2 (platform.answer call p').2

end Link

/-- Two results are alike. Failures are so only if they are the same. -/
inductive Alike (E : α → α → Prop) : Except Error α → Except Error α → Prop
  | ok {a a' : α} (h : E a a') : Alike E (.ok a) (.ok a')
  | error (error : Error) : Alike E (.error error) (.error error)

theorem Alike.refl {E : α → α → Prop} (h : ∀ a, E a a) (result : Except Error α) :
    Alike E result result := by
  cases result with
  | error error => exact .error error
  | ok a => exact .ok (h a)

theorem Alike.mono {E F : α → α → Prop} {result result' : Except Error α}
    (h : Alike E result result') (hEF : ∀ a a', E a a' → F a a') : Alike F result result' := by
  cases h with
  | ok h => exact .ok (hEF _ _ h)
  | error error => exact .error error

theorem Alike.eq {result result' : Except Error α} (h : Alike Eq result result') :
    result = result' := by
  cases h with
  | ok h => rw [h]
  | error => rfl

/-- Two results are alike if they become the same when something is left out of both. -/
theorem Alike.of_map {f : α → β} {result result' : Except Error α}
    (h : result'.map f = result.map f) : Alike (fun a a' => f a' = f a) result result' := by
  cases result with
  | error error =>
    cases result' with
    | error error' =>
      cases h
      exact .error error
    | ok a' => cases h
  | ok a =>
    cases result' with
    | error error' => cases h
    | ok a' => exact .ok (Except.ok.inj h)

namespace TrainM

/-- Two operations do not come apart. From alike sessions they make the same exchanges, leave alike
sessions and end alike. -/
def Twin (L : Link σ) (m m' : TrainM σ α) (E : α → α → Prop) : Prop :=
  ∀ s s', L.Joins s s' → ∃ made,
    (m.runOn s).2.exchanges = s.exchanges ++ made ∧
    (m'.runOn s').2.exchanges = s'.exchanges ++ made ∧
    L.Joins (m.runOn s).2 (m'.runOn s').2 ∧ Alike E (m.runOn s).1 (m'.runOn s').1

namespace Twin

variable {L : Link σ} {m m' : TrainM σ α} {f f' : α → TrainM σ β} {E : α → α → Prop}
  {F : β → β → Prop}

theorem pure {a a' : α} (h : E a a') : Twin L (Pure.pure a) (Pure.pure a') E :=
  fun _ _ hs => ⟨[], (List.append_nil _).symm, (List.append_nil _).symm, hs, .ok h⟩

theorem throw (error : Error) :
    Twin L (MonadExcept.throw error) (MonadExcept.throw error : TrainM σ α) E :=
  fun _ _ hs => ⟨[], (List.append_nil _).symm, (List.append_nil _).symm, hs, .error error⟩

/-- **One operation after the other.** -/
theorem bind (hm : Twin L m m' E) (hf : ∀ a a', E a a' → Twin L (f a) (f' a') F) :
    Twin L (m >>= f) (m' >>= f') F := by
  intro s s' hs
  obtain ⟨made, hmade, hmade', hjoins, halike⟩ := hm s s' hs
  rw [runOn_bind, runOn_bind]
  rcases hr : m.runOn s with ⟨result, s₁⟩
  rcases hr' : m'.runOn s' with ⟨result', s₁'⟩
  rw [hr] at hmade hjoins halike
  rw [hr'] at hmade' hjoins halike
  cases halike with
  | error error => exact ⟨made, hmade, hmade', hjoins, .error error⟩
  | ok ha =>
    obtain ⟨more, hmore, hmore', hjoins', halike'⟩ := hf _ _ ha s₁ s₁' hjoins
    refine ⟨made ++ more, ?_, ?_, hjoins', halike'⟩
    · rw [hmore, hmade, List.append_assoc]
    · rw [hmore', hmade', List.append_assoc]

variable {platform : Platform σ}

theorem ask (h : L.Answers platform) (call : Call) :
    Twin L (MergeTrain.ask platform call) (MergeTrain.ask platform call) Eq := by
  intro s s' hs
  obtain ⟨hanswer, hplatform⟩ := h call _ _ hs.platform
  refine ⟨[⟨call, (platform.answer call s.platform).1⟩], rfl, ?_, ⟨hplatform, hs.registry⟩, ?_⟩
  · rw [← hanswer]
    rfl
  · change Alike Eq (platform.answer call s.platform).1 (platform.answer call s'.platform).1
    rw [hanswer]
    exact .refl (fun _ => rfl) _

theorem consult (h : L.Answers platform) (call : Call) :
    Twin L (MergeTrain.consult platform call) (MergeTrain.consult platform call) Eq := by
  intro s s' hs
  obtain ⟨hanswer, hplatform⟩ := h call _ _ hs.platform
  refine ⟨[⟨call, (platform.answer call s.platform).1⟩], rfl, ?_, ⟨hplatform, hs.registry⟩,
    .ok hanswer.symm⟩
  rw [← hanswer]
  rfl

theorem changeRegistry {change change' : Registry → Registry}
    (h : ∀ r r', L.registry r r' → L.registry (change r) (change' r')) :
    Twin L (MergeTrain.changeRegistry change) (MergeTrain.changeRegistry change') Eq :=
  fun _ _ hs => ⟨[], (List.append_nil _).symm, (List.append_nil _).symm,
    ⟨hs.platform, h _ _ hs.registry⟩, .ok rfl⟩

theorem queueOf {pull : PullRef}
    (h : ∀ r r', L.registry r r' → L.queue (r.queue pull.queueKey) (r'.queue pull.queueKey)) :
    Twin L (MergeTrain.queueOf pull) (MergeTrain.queueOf pull) L.queue :=
  fun _ _ hs => ⟨[], (List.append_nil _).symm, (List.append_nil _).symm, hs,
    .ok (h _ _ hs.registry)⟩

theorem thenPrune {pull : PullRef}
    (h : ∀ r r', L.registry r r' → L.registry (r.prune pull.queueKey) (r'.prune pull.queueKey))
    (hm : Twin L m m' E) :
    Twin L (MergeTrain.thenPrune pull m) (MergeTrain.thenPrune pull m') E := by
  intro s s' hs
  obtain ⟨made, hmade, hmade', hjoins, halike⟩ := hm s s' hs
  exact ⟨made, hmade, hmade', ⟨hjoins.platform, h _ _ hjoins.registry⟩, halike⟩

end Twin

end TrainM

/-! ### Twins -/

/-- A train with other entitlements. -/
def Train.entitled (t : Train σ) (entitlements : Entitlements) : Train σ :=
  { t with entitlements }

@[simp] theorem Train.settings_entitled (t : Train σ) (entitlements : Entitlements) :
    (t.entitled entitlements).settings = t.settings :=
  rfl

@[simp] theorem Train.entitlements_entitled (t : Train σ) (entitlements : Entitlements) :
    (t.entitled entitlements).entitlements = entitlements :=
  rfl

/-- An evaluation with another priority configured. -/
def Evaluation.prioritized (e : Evaluation) (priority : Priority) : Evaluation :=
  { e with config := { e.config with priority } }

@[simp] theorem Evaluation.strict_prioritized (e : Evaluation) (priority : Priority) :
    (e.prioritized priority).config.strict = e.config.strict :=
  rfl

/-- What the operations on a pull request need so that the runs of two trains do not come apart. The
trains may differ in their entitlements, and the evaluations in the priority that is configured. -/
structure Train.Twins (L : Link σ) (t : Train σ) (e : Evaluation) (entitlements : Entitlements)
    (priority : Priority) : Prop where
  answers : L.Answers t.platform
  -- what is done to a registry
  queue : ∀ r r', L.registry r r' → L.queue (r.queue e.pull.queueKey) (r'.queue e.pull.queueKey)
  follow : ∀ r r', L.registry r r' → L.registry (r.follow e.pull) (r'.follow e.pull)
  opened : ∀ r r', L.registry r r' →
    L.registry (r.open e.pull.queueKey) (r'.open e.pull.queueKey)
  update : ∀ q q', L.queue q q' → ∀ r r', L.registry r r' →
    L.registry (r.update e.pull.queueKey fun _ => q) (r'.update e.pull.queueKey fun _ => q')
  leave : ∀ r r', L.registry r r' → L.registry (r.leave e.pull) (r'.leave e.pull)
  prune : ∀ r r', L.registry r r' →
    L.registry (r.prune e.pull.queueKey) (r'.prune e.pull.queueKey)
  -- what is decided
  refusal : (t.entitled entitlements).refusal? (e.prioritized priority) = t.refusal? e
  enqueued : ∀ q q', L.queue q q' → Alike L.queue (Train.enqueued (e.entry t.entitlements) q)
    (Train.enqueued ((e.prioritized priority).entry entitlements) q')
  plan : ∀ q q', L.queue q q' → ∀ snapshot isBehind allowMerge,
    let step := t.step e snapshot isBehind allowMerge q
    let step' := t.step (e.prioritized priority) snapshot isBehind allowMerge q'
    step'.decision = step.decision ∧ step'.expired = step.expired ∧ L.queue step.queue step'.queue
  -- what is reported
  same : ∀ report, L.report report report
  strict : ∀ q q', L.queue q q' →
    L.report (strictStatus t.entitlements q e.pull.owner false e.rule)
      (strictStatus entitlements q' e.pull.owner false e.rule)
  waiting : ∀ q q', L.queue q q' → ∀ isBehind,
    L.report
      (waitingStatus t.entitlements q e.pull.number e.pull.owner e.config.strict isBehind e.rule)
      (waitingStatus entitlements q' e.pull.number e.pull.owner e.config.strict isBehind e.rule)

/-- Two updates of a head branch went alike. -/
inductive Link.Updates (L : Link σ) : UpdateOutcome → UpdateOutcome → Prop
  | updated {report report' : StatusReport} (h : L.report report report') :
    Updates L (.updated report) (.updated report')
  | failed (outcome : UpdateOutcome) (h : outcome.isUpdated = false) : Updates L outcome outcome

namespace Train.Twins

open TrainM

variable {L : Link σ} {t : Train σ} {e : Evaluation} {entitlements : Entitlements}
  {priority : Priority}

theorem outcomes (h : t.Twins L e entitlements priority) (outcome : Outcome) :
    L.Outcomes outcome outcome :=
  ⟨h.same outcome.report, rfl, rfl, rfl⟩

/-! ### From a plan on -/

theorem synchronize_twin (h : t.Twins L e entitlements priority) {q q' : Queue}
    (hq : L.queue q q') (method : UpdateMethod) :
    Twin L (synchronize t.platform t.entitlements t.settings.bots q (e.updateTask method))
      (synchronize t.platform entitlements t.settings.bots q' (e.updateTask method)) L.Updates := by
  refine .bind (.consult h.answers _) ?_
  rintro answer _ rfl
  split
  · exact .pure (.updated (h.strict q q' hq))
  · refine .bind (.ask h.answers _) ?_
    rintro snapshot _ rfl
    exact .pure (.failed _ (UpdateTask.isUpdated_failed ..))
  · exact .throw _

/-- Whoever leaves the queue of the target does so on both sides, and is told the same. -/
theorem leaveQueue_twin (h : t.Twins L e entitlements priority) (outcome : Outcome) :
    Twin L (leaveQueue e.pull >>= fun _ => pure outcome)
      (leaveQueue e.pull >>= fun _ => pure outcome) L.Outcomes :=
  .bind (.changeRegistry h.leave) fun _ _ _ => .pure (h.outcomes outcome)

theorem update_twin (h : t.Twins L e entitlements priority) (method : UpdateMethod) :
    Twin L (t.update e method) ((t.entitled entitlements).update (e.prioritized priority) method)
      L.Outcomes := by
  refine .bind (.queueOf h.queue) fun q q' hq => .bind (h.synchronize_twin hq method) ?_
  rintro _ _ (hreport | ⟨outcome, hfailed⟩)
  · exact .pure ⟨hreport, rfl, rfl, rfl⟩
  · rw [hfailed]
    exact h.leaveQueue_twin _

theorem act_twin (h : t.Twins L e entitlements priority) (snapshot : PullSnapshot)
    (isBehind : Bool) {q q' : Queue} (hq : L.queue q q') (d : Decision) :
    Twin L (t.act e snapshot isBehind q d)
      ((t.entitled entitlements).act (e.prioritized priority) snapshot isBehind q' d)
      L.Outcomes := by
  cases d with
  | wait => exact .pure ⟨h.waiting q q' hq isBehind, rfl, rfl, rfl⟩
  | synchronize method => exact h.update_twin method
  | merge | blocked | evict => exact .pure (h.outcomes _)

theorem advance_twin (h : t.Twins L e entitlements priority) (snapshot : PullSnapshot)
    (isBehind allowMerge : Bool) :
    Twin L (t.advance e snapshot isBehind allowMerge)
      ((t.entitled entitlements).advance (e.prioritized priority) snapshot isBehind allowMerge)
      L.Outcomes := by
  refine .bind (.queueOf h.queue) fun q q' hq => ?_
  obtain ⟨hdecision, hexpired, hqueue⟩ := h.plan q q' hq snapshot isBehind allowMerge
  refine .bind (.changeRegistry (h.update _ _ hqueue)) fun _ _ _ => ?_
  refine .bind (E := L.Outcomes) ?_ fun o o' ho => .pure ⟨ho.report, ho.merge, ho.state, hexpired⟩
  exact hdecision ▸ h.act_twin snapshot isBehind hqueue _

/-! ### Matching rules -/

theorem enqueue_twin (h : t.Twins L e entitlements priority) :
    Twin L (t.enqueue e) ((t.entitled entitlements).enqueue (e.prioritized priority)) Eq := by
  refine .bind (.queueOf h.queue) fun q q' hq => ?_
  have hentered := h.enqueued q q' hq
  rw [entitlements_entitled]
  generalize Train.enqueued (e.entry t.entitlements) q = entered at hentered ⊢
  generalize Train.enqueued ((e.prioritized priority).entry entitlements) q' = entered' at *
  cases hentered with
  | ok hqueue => exact .changeRegistry (h.update _ _ hqueue)
  | error error => exact .throw error

theorem evaluate_twin (h : t.Twins L e entitlements priority) :
    Twin L (t.evaluate e) ((t.entitled entitlements).evaluate (e.prioritized priority))
      L.Outcomes := by
  refine .bind (.ask h.answers _) ?_
  rintro snapshot _ rfl
  refine .bind (.changeRegistry h.opened) fun _ _ _ => ?_
  rw [settings_entitled, Evaluation.strict_prioritized]
  split
  · exact h.leaveQueue_twin _
  · refine .bind (.ask h.answers _) ?_
    rintro isBehind _ rfl
    exact .bind h.enqueue_twin fun _ _ _ => h.advance_twin snapshot isBehind true

theorem run_twin (h : t.Twins L e entitlements priority) :
    Twin L (t.run e) ((t.entitled entitlements).run (e.prioritized priority)) L.Outcomes := by
  refine .thenPrune h.prune (.bind (.changeRegistry h.follow) fun _ _ _ => ?_)
  have hrefusal := h.refusal
  rw [refusal?, refusal?] at hrefusal
  rw [hrefusal]
  split
  · exact .pure (h.outcomes _)
  · exact h.evaluate_twin

/-! ### Rules that no longer match -/

theorem shouldCancel_twin (h : t.Twins L e entitlements priority) (snapshot : PullSnapshot) :
    Twin L (t.shouldCancel e snapshot)
      ((t.entitled entitlements).shouldCancel (e.prioritized priority) snapshot) Eq := by
  refine .bind (.ask h.answers _) ?_
  rintro resynchronized _ rfl
  refine .bind (.ask h.answers _) ?_
  rintro required _ rfl
  refine .bind (.consult h.answers _) ?_
  rintro checks _ rfl
  exact .pure rfl

theorem evaluateUnmatched_twin (h : t.Twins L e entitlements priority) (snapshot : PullSnapshot) :
    Twin L (t.evaluateUnmatched e snapshot)
      ((t.entitled entitlements).evaluateUnmatched (e.prioritized priority) snapshot)
      L.Outcomes := by
  rw [evaluateUnmatched, evaluateUnmatched, Evaluation.strict_prioritized]
  split
  · refine .bind (h.shouldCancel_twin snapshot) ?_
    rintro cancel _ rfl
    split
    · exact h.leaveQueue_twin _
    · refine .bind (.ask h.answers _) ?_
      rintro isBehind _ rfl
      exact h.advance_twin snapshot isBehind false
  · exact h.leaveQueue_twin _

theorem cancelFlow_twin (h : t.Twins L e entitlements priority) :
    Twin L (t.cancelFlow e) ((t.entitled entitlements).cancelFlow (e.prioritized priority))
      L.Outcomes := by
  refine .thenPrune h.prune (.bind (.changeRegistry h.follow) fun _ _ _ => ?_)
  refine .bind (.ask h.answers _) ?_
  rintro snapshot _ rfl
  refine .bind (.changeRegistry h.opened) fun _ _ _ => ?_
  rw [settings_entitled, Evaluation.strict_prioritized]
  split
  · refine .bind (.changeRegistry h.leave) fun _ _ _ => ?_
    split <;> exact .pure (h.outcomes _)
  · exact h.evaluateUnmatched_twin snapshot

/-! ### Merging -/

theorem afterMerge_twin (h : t.Twins L e entitlements priority) (snapshot : PullSnapshot) :
    Twin L (t.afterMerge e snapshot)
      ((t.entitled entitlements).afterMerge (e.prioritized priority) snapshot) L.Outcomes := by
  refine .bind (.changeRegistry h.leave) fun _ _ _ => ?_
  rw [settings_entitled, Evaluation.strict_prioritized]
  split <;> exact .pure (h.outcomes _)

theorem afterRefusal_twin (h : t.Twins L e entitlements priority) (snapshot : PullSnapshot)
    (failure : MergeFailure) :
    Twin L (t.afterRefusal e snapshot failure)
      ((t.entitled entitlements).afterRefusal (e.prioritized priority) snapshot failure)
      L.Outcomes := by
  rw [afterRefusal, afterRefusal]
  split
  · refine .bind (.ask h.answers _) ?_
    rintro isBehind _ rfl
    exact h.advance_twin snapshot isBehind true
  · split
    · exact h.leaveQueue_twin _
    · exact .pure (h.outcomes _)

theorem conclude_twin (h : t.Twins L e entitlements priority) (refusal : Option MergeFailure) :
    Twin L (t.conclude e refusal)
      ((t.entitled entitlements).conclude (e.prioritized priority) refusal) L.Outcomes := by
  refine .bind (.ask h.answers _) ?_
  rintro snapshot _ rfl
  split
  · split
    · exact h.afterMerge_twin snapshot
    · exact h.afterRefusal_twin snapshot _
  · exact h.afterMerge_twin snapshot

theorem completeMerge_twin (h : t.Twins L e entitlements priority) (request : MergeRequest) :
    Twin L (t.completeMerge e request)
      ((t.entitled entitlements).completeMerge (e.prioritized priority) request) L.Outcomes := by
  refine .thenPrune h.prune (.bind (.changeRegistry h.opened) fun _ _ _ => ?_)
  refine .bind (.consult h.answers _) ?_
  rintro answer _ rfl
  split
  · exact h.conclude_twin _
  · exact h.conclude_twin _
  · exact .bind (.changeRegistry h.leave) fun _ _ _ => .throw _

/-- **Operations of twins do not come apart.** -/
theorem perform_twin (h : t.Twins L e entitlements priority) (op : Operation) :
    Twin L (t.perform e op) ((t.entitled entitlements).perform (e.prioritized priority) op)
      L.Outcomes := by
  cases op with
  | run => exact h.run_twin
  | cancelFlow => exact h.cancelFlow_twin
  | completeMerge request => exact h.completeMerge_twin request

end Train.Twins

end MergeTrain
