import MergeTrain.Proofs.Train.History

/-!
# Answers of one platform

The routes of an operation hold for every list of answers, which is what most theorems ask for. Some
do not: they are about a platform that keeps to something, and then it matters that the answers on
record are the answers of that platform, given one after the other while its state goes on.

This holds of every operation for a plain reason, which is that only `consult` and `ask` touch the
state of the platform and the record, and they touch both. So the rules below are about the way in
which operations are put together, and not about what they do.

## Main definitions

* `Platform.Gives` — exchanges with a platform from one of its states on.
* `Platform.Steady` — a platform whose answers depend on the calls alone.
* `TrainM.Heeds` — what an operation puts on record are exchanges with the platform.

## Main results

* `Train.perform_heeds` — every operation does so.
* `TrainCall.performs_gives` — the route of a call, with exchanges of its platform.
* `Performs.exists_advances` — with the answers known, an evaluation comes to its plan.
-/

namespace MergeTrain

variable {σ α β : Type}

/-- The platform gives these answers to these calls, one after the other, and ends in a state. -/
def Platform.Gives (platform : Platform σ) : σ → List Exchange → σ → Prop
  | p, [], p' => p' = p
  | p, x :: rest, p' =>
    (platform.answer x.call p).1 = x.answer ∧ platform.Gives (platform.answer x.call p).2 rest p'

theorem Platform.Gives.append {platform : Platform σ} {p p' p'' : σ} {made more : List Exchange}
    (h : platform.Gives p made p') (h' : platform.Gives p' more p'') :
    platform.Gives p (made ++ more) p'' := by
  induction made generalizing p with
  | nil =>
    obtain rfl : p' = p := h
    exact h'
  | cons x made ih => exact ⟨h.1, ih h.2⟩

/-- The answers of a platform depend on the calls alone, and not on what came before them. -/
def Platform.Steady (platform : Platform σ) : Prop :=
  ∀ call p p', (platform.answer call p).1 = (platform.answer call p').1

/-- A platform that never changes its mind is steady. -/
theorem Still.steady (p : Still) : (train p).platform.Steady := by
  intro call _ _
  cases call <;> rfl

namespace TrainM

/-- Whatever an operation puts on record, the platform has answered, and nothing else has happened
to the platform. -/
def Heeds (m : TrainM σ α) (platform : Platform σ) : Prop :=
  ∀ s : Session σ, ∃ made, (m.runOn s).2.exchanges = s.exchanges ++ made ∧
    platform.Gives s.platform made (m.runOn s).2.platform

namespace Heeds

variable {m : TrainM σ α} {f : α → TrainM σ β} {platform : Platform σ}

theorem pure (a : α) : (Pure.pure a : TrainM σ α).Heeds platform :=
  fun _ => ⟨[], (List.append_nil _).symm, rfl⟩

theorem throw (error : Error) : (MonadExcept.throw error : TrainM σ α).Heeds platform :=
  fun _ => ⟨[], (List.append_nil _).symm, rfl⟩

theorem bind (hm : m.Heeds platform) (hf : ∀ a, (f a).Heeds platform) :
    (m >>= f).Heeds platform := by
  intro s
  obtain ⟨made, hmade, hgives⟩ := hm s
  rw [runOn_bind]
  rcases hr : m.runOn s with ⟨error | a, s'⟩
  · rw [hr] at hmade hgives
    exact ⟨made, hmade, hgives⟩
  · rw [hr] at hmade hgives
    obtain ⟨more, hmore, hgives'⟩ := hf a s'
    refine ⟨made ++ more, ?_, hgives.append hgives'⟩
    rw [hmore, hmade, List.append_assoc]

theorem ask (call : Call) : (MergeTrain.ask platform call).Heeds platform :=
  fun _ => ⟨[_], rfl, rfl, rfl⟩

theorem consult (call : Call) : (MergeTrain.consult platform call).Heeds platform :=
  fun _ => ⟨[_], rfl, rfl, rfl⟩

theorem changeRegistry (change : Registry → Registry) :
    (MergeTrain.changeRegistry change : TrainM σ Unit).Heeds platform :=
  fun _ => ⟨[], (List.append_nil _).symm, rfl⟩

theorem changeQueue (pull : PullRef) (change : Queue → Queue) :
    (MergeTrain.changeQueue pull change : TrainM σ Unit).Heeds platform :=
  changeRegistry _

theorem queueOf (pull : PullRef) : (MergeTrain.queueOf pull : TrainM σ Queue).Heeds platform :=
  fun _ => ⟨[], (List.append_nil _).symm, rfl⟩

theorem thenPrune {pull : PullRef} (h : m.Heeds platform) :
    (MergeTrain.thenPrune pull m).Heeds platform :=
  h

end Heeds

end TrainM

/-! ### Every operation heeds its platform -/

open TrainM

theorem synchronize_heeds (platform : Platform σ) (entitlements : Entitlements)
    (bots : List String) (queue : Queue) (task : UpdateTask) :
    (synchronize platform entitlements bots queue task).Heeds platform := by
  refine .bind (.consult _) fun answer => ?_
  split
  · exact .pure _
  · exact .bind (.ask _) fun later => .pure _
  · exact .throw _

namespace Train

variable (t : Train σ) (e : Evaluation)

theorem update_heeds (method : UpdateMethod) : (t.update e method).Heeds t.platform := by
  refine .bind (.queueOf _) fun queue => .bind (synchronize_heeds _ _ _ _ _) fun outcome => ?_
  split
  · exact .pure _
  · exact .bind (.changeQueue _ _) fun _ => .pure _

theorem act_heeds (snapshot : PullSnapshot) (isBehind : Bool) (queue : Queue) (d : Decision) :
    (t.act e snapshot isBehind queue d).Heeds t.platform := by
  cases d with
  | synchronize method => exact t.update_heeds e method
  | wait | blocked | evict | merge => exact .pure _

theorem advance_heeds (snapshot : PullSnapshot) (isBehind allowMerge : Bool) :
    (t.advance e snapshot isBehind allowMerge).Heeds t.platform :=
  .bind (.queueOf _) fun _ => .bind (.changeQueue _ _) fun _ =>
    .bind (t.act_heeds e _ _ _ _) fun _ => .pure _

theorem enqueue_heeds : (t.enqueue e).Heeds t.platform := by
  refine .bind (.queueOf _) fun queue => ?_
  split
  · exact .changeQueue _ _
  · exact .throw _

theorem run_heeds : (t.run e).Heeds t.platform := by
  refine .thenPrune (.bind (.changeRegistry _) fun _ => ?_)
  split
  · exact .pure _
  · refine .bind (.ask _) fun snapshot => .bind (.changeRegistry _) fun _ => ?_
    split
    · exact .bind (.changeQueue _ _) fun _ => .pure _
    · exact .bind (.ask _) fun isBehind => .bind (t.enqueue_heeds e) fun _ =>
        t.advance_heeds e _ _ _

theorem shouldCancel_heeds (snapshot : PullSnapshot) :
    (t.shouldCancel e snapshot).Heeds t.platform :=
  .bind (.ask _) fun _ => .bind (.ask _) fun _ => .bind (.consult _) fun _ => .pure _

theorem evaluateUnmatched_heeds (snapshot : PullSnapshot) :
    (t.evaluateUnmatched e snapshot).Heeds t.platform := by
  have hevict : ∀ outcome : Outcome,
      (leaveQueue e.pull >>= fun _ => pure outcome : TrainM σ Outcome).Heeds t.platform :=
    fun outcome => .bind (.changeQueue _ _) fun _ => .pure _
  unfold evaluateUnmatched
  split
  · refine .bind (t.shouldCancel_heeds e snapshot) fun cancel => ?_
    split
    · exact hevict _
    · exact .bind (.ask _) fun isBehind => t.advance_heeds e _ _ _
  · exact hevict _

theorem cancelFlow_heeds : (t.cancelFlow e).Heeds t.platform := by
  refine .thenPrune (.bind (.changeRegistry _) fun _ => .bind (.ask _) fun snapshot =>
    .bind (.changeRegistry _) fun _ => ?_)
  split
  · refine .bind (.changeQueue _ _) fun _ => ?_
    split <;> exact .pure _
  · exact t.evaluateUnmatched_heeds e snapshot

theorem afterMerge_heeds (snapshot : PullSnapshot) :
    (t.afterMerge e snapshot).Heeds t.platform := by
  refine .bind (.changeQueue _ _) fun _ => ?_
  split <;> exact .pure _

theorem afterRefusal_heeds (snapshot : PullSnapshot) (failure : MergeFailure) :
    (t.afterRefusal e snapshot failure).Heeds t.platform := by
  rw [afterRefusal]
  split
  · exact .bind (.ask _) fun isBehind => t.advance_heeds e _ _ _
  · split
    · exact .bind (.changeQueue _ _) fun _ => .pure _
    · exact .pure _

theorem conclude_heeds (refusal : Option MergeFailure) :
    (t.conclude e refusal).Heeds t.platform := by
  refine .bind (.ask _) fun snapshot => ?_
  split
  · split
    · exact t.afterMerge_heeds e _
    · exact t.afterRefusal_heeds e _ _
  · exact t.afterMerge_heeds e _

theorem completeMerge_heeds (request : MergeRequest) :
    (t.completeMerge e request).Heeds t.platform := by
  refine .thenPrune (.bind (.changeRegistry _) fun _ => .bind (.consult _) fun answer => ?_)
  split
  · exact t.conclude_heeds e _
  · exact t.conclude_heeds e _
  · exact .bind (.changeQueue _ _) fun _ => .throw _

/-- **Every operation heeds its platform.** -/
theorem perform_heeds (op : Operation) : (t.perform e op).Heeds t.platform := by
  cases op with
  | run => exact t.run_heeds e
  | cancelFlow => exact t.cancelFlow_heeds e
  | completeMerge request => exact t.completeMerge_heeds e request

end Train

/-- A call takes one of the routes of its operation, and the answers on it are those of its
platform. -/
theorem TrainCall.performs_gives (call : TrainCall σ) (s : Session σ) :
    ∃ made, (call.perform s).exchanges = s.exchanges ++ made ∧
      call.train.platform.Gives s.platform made (call.perform s).platform ∧
      Performs call.train call.evaluation s.registry call.operation made (call.result s)
        (call.perform s).registry := by
  obtain ⟨made, hmade, h⟩ := call.performs s
  obtain ⟨made', hmade', hgives⟩ := call.train.perform_heeds call.evaluation call.operation s
  obtain rfl := List.append_cancel_left (hmade.symm.trans hmade')
  exact ⟨made, hmade, hgives, h⟩

/-! ### Known answers -/

variable {t : Train σ} {e : Evaluation} {r r' : Registry} {made : List Exchange}
  {result : Except Error Outcome} {p p' : σ} {snapshot : PullSnapshot} {isBehind : Bool}
  {queue : Queue}

/-- Where nothing stands in the way of a pull request whose rule matches, its evaluation comes to a
plan. -/
theorem Performs.exists_advances (h : Performs t e r .run made result r')
    (hgives : t.platform.Gives p made p') (hpaid : t.refusal? e = none)
    (hpull : (t.platform.answer (.getPull e.pull) p).1 = .ok snapshot)
    (hreport : t.report? e snapshot = none)
    (hbehind : (t.platform.answer (.isBehind e.pull)
      (t.platform.answer (.getPull e.pull) p).2).1 = .ok isBehind)
    (hqueue : Train.enqueued (e.entry t.entitlements) (r.queue e.pull.queueKey) = .ok queue) :
    ∃ after r₁,
      made = [⟨.getPull e.pull, .ok snapshot⟩, ⟨.isBehind e.pull, .ok isBehind⟩] ++ after ∧
      Advances t e snapshot isBehind true
        (((r.follow e.pull).open e.pull.queueKey).update e.pull.queueKey fun _ => queue)
        after result r₁ ∧
      r' = r₁.prune e.pull.queueKey := by
  cases h with
  | ended _ _ _ h =>
    exfalso
    cases h with
    | refused report h => cases hpaid.symm.trans h
    | unread error => cases hpull.symm.trans hgives.1
    | reported snapshot' report _ hreport' =>
      obtain rfl : snapshot = snapshot' := Except.ok.inj (hpull.symm.trans hgives.1)
      cases hreport.symm.trans hreport'
    | notCompared _ error => cases hbehind.symm.trans hgives.2.1
    | notEnqueued _ _ error _ _ hqueue' => cases hqueue.symm.trans hqueue'
  | planned _ after snapshot' isBehind' _ r₀ r₁ hplan h =>
    cases hplan with
    | run _ _ queue' _ _ hqueue' =>
      obtain rfl : snapshot = snapshot' := Except.ok.inj (hpull.symm.trans hgives.1)
      obtain rfl : isBehind = isBehind' := Except.ok.inj (hbehind.symm.trans hgives.2.1)
      obtain rfl := Except.ok.inj (hqueue.symm.trans hqueue')
      exact ⟨after, r₁, rfl, h, rfl⟩

end MergeTrain
