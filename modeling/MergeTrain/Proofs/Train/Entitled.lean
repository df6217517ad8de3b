import MergeTrain.Proofs.Train.Unpaid

/-!
# What a subscription is asked for

A subscription says a lot about an owner: whom it belongs to, whether it is active and why, and a
set of features. A train asks it two things. May the owner have configured priorities count, and may
accounts of the owner's choice act? Everything else about it stays unread, and where a feature is
missing, the advice that is given depends on the login alone.

That is a property of two runs once more, under two subscriptions this time. If they answer both
questions alike for every owner that comes along, then nothing tells the runs apart.

## Main definitions

* `Entitlements.AgreeFor` — the same answers, and the same advice, for an owner.
* `Subscription.AgreeFor` — the same answers to the two questions.
* `Link.same` — two runs are the same.

## Main results

* `Train.twins_of_agreeFor` — operations read no more than what is agreed on.
* `Train.only_gated_features_count` — for any calls, from any session.
-/

namespace MergeTrain

variable {σ : Type}

attribute [ext] Session

/-- Two runs are the same. -/
def Link.same : Link σ where
  platform := Eq
  registry := Eq
  queue := Eq
  report := Eq

/-- For an owner, entitlements give the same answers about the features that are asked about, and
the same advice. -/
structure Entitlements.AgreeFor (entitlements entitlements' : Entitlements) (owner : Owner) :
    Prop where
  priorities :
    entitlements'.allows owner.id .priorityQueues = entitlements.allows owner.id .priorityQueues
  accounts :
    entitlements'.allows owner.id .mergeBotAccount = entitlements.allows owner.id .mergeBotAccount
  advice : entitlements'.advice owner.login = entitlements.advice owner.login

/-! ### What is read -/

namespace Entitlements.AgreeFor

variable {entitlements entitlements' : Entitlements} {owner : Owner}

theorem refusal (h : entitlements.AgreeFor entitlements' owner) (config : MergeConfig) :
    config.refusal entitlements' owner = config.refusal entitlements owner := by
  rw [MergeConfig.refusal, h.accounts, h.advice, MergeConfig.refusal]

theorem effectivePriority (h : entitlements.AgreeFor entitlements' owner) (config : MergeConfig) :
    config.effectivePriority entitlements' owner = config.effectivePriority entitlements owner := by
  rw [MergeConfig.effectivePriority, h.priorities, MergeConfig.effectivePriority]

theorem entry {e : Evaluation} (h : entitlements.AgreeFor entitlements' e.pull.owner) :
    e.entry entitlements' = e.entry entitlements := by
  rw [Evaluation.entry, h.effectivePriority, Evaluation.entry]

theorem priorityWarning (h : entitlements.AgreeFor entitlements' owner)
    (entries : List QueueEntry) :
    priorityWarning entitlements' owner entries = priorityWarning entitlements owner entries := by
  rw [MergeTrain.priorityWarning, h.priorities, h.advice, MergeTrain.priorityWarning]

theorem queueSummary (h : entitlements.AgreeFor entitlements' owner) (queue : Queue) :
    queueSummary entitlements' queue owner = queueSummary entitlements queue owner := by
  rw [MergeTrain.queueSummary, h.priorityWarning, MergeTrain.queueSummary]

theorem strictStatus (h : entitlements.AgreeFor entitlements' owner) (queue : Queue)
    (needUpdate : Bool) (rule : Option Rule) :
    strictStatus entitlements' queue owner needUpdate rule
      = strictStatus entitlements queue owner needUpdate rule := by
  rw [MergeTrain.strictStatus, h.queueSummary, MergeTrain.strictStatus]

theorem waitingStatus (h : entitlements.AgreeFor entitlements' owner) (queue : Queue)
    (number : UInt64) (strict : StrictMode) (isBehind : Bool) (rule : Option Rule) :
    waitingStatus entitlements' queue number owner strict isBehind rule
      = waitingStatus entitlements queue number owner strict isBehind rule := by
  rw [MergeTrain.waitingStatus, h.queueSummary, MergeTrain.waitingStatus]

end Entitlements.AgreeFor

/-! ### Operations -/

/-- **Operations read no more than what is agreed on.** -/
theorem Train.twins_of_agreeFor {t : Train σ} {e : Evaluation} {entitlements : Entitlements}
    (h : t.entitlements.AgreeFor entitlements e.pull.owner) :
    t.Twins Link.same e entitlements e.config.priority where
  answers := by
    rintro call p _ rfl
    exact ⟨rfl, rfl⟩
  queue := by
    rintro r _ rfl
    rfl
  follow := by
    rintro r _ rfl
    rfl
  opened := by
    rintro r _ rfl
    rfl
  update := by
    rintro q _ rfl r _ rfl
    rfl
  leave := by
    rintro r _ rfl
    rfl
  prune := by
    rintro r _ rfl
    rfl
  refusal := h.refusal e.config
  enqueued := by
    rintro q _ rfl
    change Alike Eq _ (Train.enqueued (e.entry entitlements) q)
    rw [h.entry]
    exact .refl (fun _ => rfl) _
  plan := by
    rintro q _ rfl snapshot isBehind allowMerge
    exact ⟨rfl, rfl, rfl⟩
  same _ := rfl
  strict := by
    rintro q _ rfl
    exact (h.strictStatus q false e.rule).symm
  waiting := by
    rintro q _ rfl isBehind
    exact (h.waitingStatus q e.pull.number e.config.strict isBehind e.rule).symm

/-! ### Any calls -/

namespace TrainCall

/-- A call on a train with other entitlements. -/
def entitled (call : TrainCall σ) (entitlements : Entitlements) : TrainCall σ :=
  { call with train := call.train.entitled entitlements }

/-- One call. -/
theorem entitled_congr {call : TrainCall σ} {entitlements entitlements' : Entitlements}
    (h : entitlements.AgreeFor entitlements' call.evaluation.pull.owner) (s : Session σ) :
    (call.entitled entitlements').result s = (call.entitled entitlements).result s ∧
      (call.entitled entitlements').perform s = (call.entitled entitlements).perform s := by
  have hagree : (call.entitled entitlements).train.entitlements.AgreeFor entitlements'
      call.evaluation.pull.owner := h
  have htwin := (Train.twins_of_agreeFor hagree).perform_twin call.operation
  obtain ⟨made, hmade, hmade', hjoins, hresult⟩ := htwin s s ⟨rfl, rfl⟩
  have hsame : Alike Eq ((call.entitled entitlements).result s)
      ((call.entitled entitlements').result s) :=
    hresult.mono fun _ _ ho => ho.eq_of_report ho.report
  exact ⟨hsame.eq.symm, Session.ext hjoins.registry.symm hjoins.platform.symm
    (hmade'.trans hmade.symm)⟩

end TrainCall

/-- Call by call. -/
theorem trace_entitled_congr {calls : List (TrainCall σ)}
    {entitlements entitlements' : Entitlements}
    (h : ∀ call ∈ calls, entitlements.AgreeFor entitlements' call.evaluation.pull.owner)
    (s : Session σ) :
    trace (calls.map (·.entitled entitlements')) s
      = trace (calls.map (·.entitled entitlements)) s := by
  induction calls generalizing s with
  | nil => rfl
  | cons call calls ih =>
    obtain ⟨hfirst, hrest⟩ := List.forall_mem_cons.mp h
    obtain ⟨hresult, hperform⟩ := TrainCall.entitled_congr hfirst s
    simp only [List.map_cons, trace, hresult, hperform, ih hrest]

/-! ### Subscriptions -/

/-- Two subscriptions agree on the features that are asked about, as far as an owner is concerned.
They may be those of different owners, for different reasons, and differ in all other features. -/
def Subscription.AgreeFor (s s' : Subscription) (owner : Owner) : Prop :=
  ∀ feature ∈ [Feature.priorityQueues, .mergeBotAccount],
    s'.allows owner.id feature = s.allows owner.id feature

instance (s s' : Subscription) (owner : Owner) : Decidable (s.AgreeFor s' owner) :=
  inferInstanceAs (Decidable (∀ feature ∈ _, _))

/-- Advice is the same under all subscriptions. -/
theorem Subscription.AgreeFor.entitlements {s s' : Subscription} {owner : Owner}
    (h : s.AgreeFor s' owner) : s.entitlements.AgreeFor s'.entitlements owner where
  priorities := h .priorityQueues (by simp)
  accounts := h .mergeBotAccount (by simp)
  advice := rfl

/-- **Only two features of a subscription count.** Any calls are made from any session, under one
subscription and under another. For every owner of a pull request that is evaluated, the two agree
on priorities and on accounts. Then nothing tells the runs apart: call by call, the results are the
same with all that is reported, and so are the sessions, with all that the platform was asked and
with their registries. -/
theorem Train.only_gated_features_count (calls : List (TrainCall σ)) (s s' : Subscription)
    (h : ∀ call ∈ calls, s.AgreeFor s' call.evaluation.pull.owner) (session : Session σ) :
    trace (calls.map (·.entitled s'.entitlements)) session
      = trace (calls.map (·.entitled s.entitlements)) session :=
  trace_entitled_congr (fun call hcall => (h call hcall).entitlements) session

/-- A subscription of the owner that has ended, although it covers everything. -/
def Still.ended : Subscription :=
  { ownerId := 42, active := false, reason := "Payment failed", features := .ofList Spelled.all }

/-- An active subscription of someone else. -/
def Still.elsewhere : Subscription :=
  .ofNames 7 true "Paid" ["priority_queues", "queue_action"]

/-- It makes no difference whether a subscription has ended or belongs to someone else. To have paid
for priorities makes one. -/
theorem Still.other_features_do_not_count :
    (∀ call ∈ Still.ranked .high,
        Still.ended.AgreeFor Still.elsewhere call.evaluation.pull.owner) ∧
      trace ((Still.ranked .high).map (·.entitled Still.elsewhere.entitlements))
          { platform := () }
        = trace ((Still.ranked .high).map (·.entitled Still.ended.entitlements))
          { platform := () } ∧
      (trace ((Still.ranked .high).map
            (·.entitled { Still.ended with active := true }.entitlements))
          { platform := () }).map Prod.fst
        ≠ (trace ((Still.ranked .high).map (·.entitled Still.ended.entitlements))
          { platform := () }).map Prod.fst := by
  have hagree : ∀ call ∈ Still.ranked .high,
      Still.ended.AgreeFor Still.elsewhere call.evaluation.pull.owner := by
    simp only [Still.ranked, List.forall_mem_cons]
    exact ⟨by decide, by decide, by simp⟩
  exact ⟨hagree, Train.only_gated_features_count _ _ _ hagree _, by decide +kernel⟩

end MergeTrain
