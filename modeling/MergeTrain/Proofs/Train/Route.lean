import MergeTrain.Proofs.Registry
import MergeTrain.Proofs.Train.Effect
import MergeTrain.Train.Run

/-!
# The routes of an operation

Every way in which the three operations of a train can go, one constructor for each: what was asked
and answered, how the operation ended, and the registry that it left. A statement about all
platforms and all operations is then a statement about these routes, and is proved by going through
them.

An operation either ends before anything is planned, or it reaches its plan. There are three ways to
a plan and one way on from it, whichever operation it belongs to.

## Main definitions

* `Operation`, `Train.perform` — the three operations as data.
* `Ends` — the routes that end before planning.
* `Plans` — the routes to a plan.
* `Acts`, `Advances` — the routes on from it.
* `Performs` — all routes of an operation.

## Main results

* `Train.perform_does` — every operation takes one of its routes.
-/

namespace MergeTrain

/-- The three operations of a train. -/
inductive Operation where
  | run
  | cancelFlow
  | completeMerge (request : MergeRequest)

/-- Whether an operation may hand out a merge. -/
def Operation.allowsMerge : Operation → Bool
  | .cancelFlow => false
  | _ => true

theorem StrictMode.isEnabled_eq_false_iff {mode : StrictMode} :
    mode.isEnabled = false ↔ mode = .disabled := by
  cases mode <;> simp [isEnabled]

/-- The update of the head branch that a plan asks for. -/
def Evaluation.updateTask (e : Evaluation) (method : UpdateMethod) : UpdateTask :=
  { pull := e.pull, method, actor := e.updateActor, strict := e.config.strict, rule := e.rule }

/-- What is known when the rule does not match, apart from the snapshot as the platform answers. -/
def Evaluation.unmatched (e : Evaluation) (snapshot : PullSnapshot) (resynchronized : Bool)
    (required : List String) (checks : Except Error CheckStates) : Unmatched :=
  { state := snapshot.state
    resynchronized
    missing := (e.rule.map Rule.missing).getD []
    required
    checks := checks.toOption }

variable {σ : Type}

namespace Train

/-- Perform an operation. -/
def perform (t : Train σ) (e : Evaluation) : Operation → TrainM σ Outcome
  | .run => t.run e
  | .cancelFlow => t.cancelFlow e
  | .completeMerge request => t.completeMerge e request

/-- The report on the pull request as it looks, if that ends its way. -/
def report? (t : Train σ) (e : Evaluation) (snapshot : PullSnapshot) : Option StatusReport :=
  snapshot.mergeReport t.settings.bots e.config.strict

/-- The report that refuses the choices of an owner. -/
def refusal? (t : Train σ) (e : Evaluation) : Option StatusReport :=
  e.config.refusal t.entitlements e.pull.owner

/-- The outcome of a merge that is done. -/
def mergedOutcome (t : Train σ) (e : Evaluation) (snapshot : PullSnapshot) : Outcome :=
  match t.report? e snapshot with
  | some report => .ofSnapshot snapshot report
  | none => .unexpected

/-- The step that is planned on a queue. -/
def step (t : Train σ) (e : Evaluation) (snapshot : PullSnapshot) (isBehind allowMerge : Bool)
    (queue : Queue) : Step :=
  e.plan t.settings.queue snapshot isBehind allowMerge queue

end Train

/-! ### From a plan on -/

/-- How an update of the head branch goes. The registry is not touched by it. -/
inductive Synchronizes (entitlements : Entitlements) (bots : List String) (queue : Queue)
    (task : UpdateTask) : List Exchange → Except Error UpdateOutcome → Prop
  | done (answer : task.call.Answer) :
    Synchronizes entitlements bots queue task [⟨task.call, .ok answer⟩]
      (.ok (.updated (strictStatus entitlements queue task.pull.owner false task.rule)))
  | failed (title message : String) (later : PullSnapshot) :
    Synchronizes entitlements bots queue task
      [⟨task.call, .error (.branchUpdate title message)⟩, ⟨.getPull task.pull, .ok later⟩]
      (.ok (task.failed bots title message later))
  | unread (title message : String) (error : Error) :
    Synchronizes entitlements bots queue task
      [⟨task.call, .error (.branchUpdate title message)⟩, ⟨.getPull task.pull, .error error⟩]
      (.error error)
  | broken (error : Error) (h : ∀ title message, error ≠ .branchUpdate title message) :
    Synchronizes entitlements bots queue task [⟨task.call, .error error⟩] (.error error)

/-- How a decision on a queue is carried out, from the registry that the plan has left. -/
inductive Acts (t : Train σ) (e : Evaluation) (snapshot : PullSnapshot) (isBehind : Bool)
    (queue : Queue) (r : Registry) :
    Decision → List Exchange → Except Error Outcome → Registry → Prop
  | waits :
    Acts t e snapshot isBehind queue r .wait []
      (.ok {
        report := waitingStatus t.entitlements queue e.pull.number e.pull.owner e.config.strict
          isBehind e.rule
        state := .queued }) r
  | blocks (report : StatusReport) :
    Acts t e snapshot isBehind queue r (.blocked report) [] (.ok (.evicted report)) r
  | evicts (reason : EvictionReason) :
    Acts t e snapshot isBehind queue r (.evict reason) [] (.ok (.evicted reason.report)) r
  | merges (method : MergeMethod) :
    Acts t e snapshot isBehind queue r (.merge method) []
      (.ok {
        report := .pending "The pull request is being merged" ""
        merge := some (e.mergeRequest snapshot method)
        state := .mergeable }) r
  | updates (method : UpdateMethod) (answer : (e.updateTask method).call.Answer) :
    Acts t e snapshot isBehind queue r (.synchronize method)
      [⟨(e.updateTask method).call, .ok answer⟩]
      (.ok {
        report := strictStatus t.entitlements (r.queue e.pull.queueKey) e.pull.owner false e.rule
        state := .synchronizing }) r
  /-- The update fails, and the pull request, read again, leaves the queue. -/
  | updateFails (method : UpdateMethod) (title message : String) (later : PullSnapshot)
      (report : StatusReport)
      (h : ((e.updateTask method).failed t.settings.bots title message later).report = report) :
    Acts t e snapshot isBehind queue r (.synchronize method)
      [⟨(e.updateTask method).call, .error (.branchUpdate title message)⟩,
        ⟨.getPull e.pull, .ok later⟩]
      (.ok { report, state := Outcome.stateAfterUpdate report }) (r.leave e.pull)
  | rereadFails (method : UpdateMethod) (title message : String) (error : Error) :
    Acts t e snapshot isBehind queue r (.synchronize method)
      [⟨(e.updateTask method).call, .error (.branchUpdate title message)⟩,
        ⟨.getPull e.pull, .error error⟩]
      (.error error) r
  | updateBreaks (method : UpdateMethod) (error : Error)
      (h : ∀ title message, error ≠ .branchUpdate title message) :
    Acts t e snapshot isBehind queue r (.synchronize method)
      [⟨(e.updateTask method).call, .error error⟩] (.error error) r

/-- How an operation goes on once all is known that the plan depends on. -/
inductive Advances (t : Train σ) (e : Evaluation) (snapshot : PullSnapshot)
    (isBehind allowMerge : Bool) (r : Registry) :
    List Exchange → Except Error Outcome → Registry → Prop
  | intro (step : Step) (made : List Exchange) (result : Except Error Outcome) (r' : Registry)
      (hstep : t.step e snapshot isBehind allowMerge (r.queue e.pull.queueKey) = step)
      (h : Acts t e snapshot isBehind step.queue (r.update e.pull.queueKey fun _ => step.queue)
        step.decision made result r') :
    Advances t e snapshot isBehind allowMerge r made
      (result.map fun outcome => { outcome with expired := step.expired }) r'

/-! ### Up to a plan -/

/-- The routes that end before anything is planned. -/
inductive Ends (t : Train σ) (e : Evaluation) (r : Registry) :
    Operation → List Exchange → Except Error Outcome → Registry → Prop
  -- a pull request whose rule matches
  | refused (report : StatusReport) (h : t.refusal? e = some report) :
    Ends t e r .run [] (.ok { report, state := .notQueued }) (r.follow e.pull)
  | unread (error : Error) (h : t.refusal? e = none) :
    Ends t e r .run [⟨.getPull e.pull, .error error⟩] (.error error) (r.follow e.pull)
  | reported (snapshot : PullSnapshot) (report : StatusReport) (h : t.refusal? e = none)
      (hreport : t.report? e snapshot = some report) :
    Ends t e r .run [⟨.getPull e.pull, .ok snapshot⟩] (.ok (.ofSnapshot snapshot report))
      (((r.follow e.pull).open e.pull.queueKey).leave e.pull)
  | notCompared (snapshot : PullSnapshot) (error : Error) (h : t.refusal? e = none)
      (hreport : t.report? e snapshot = none) :
    Ends t e r .run [⟨.getPull e.pull, .ok snapshot⟩, ⟨.isBehind e.pull, .error error⟩]
      (.error error) ((r.follow e.pull).open e.pull.queueKey)
  | notEnqueued (snapshot : PullSnapshot) (isBehind : Bool) (error : Error)
      (h : t.refusal? e = none) (hreport : t.report? e snapshot = none)
      (hqueue : Train.enqueued (e.entry t.entitlements) (r.queue e.pull.queueKey) = .error error) :
    Ends t e r .run [⟨.getPull e.pull, .ok snapshot⟩, ⟨.isBehind e.pull, .ok isBehind⟩]
      (.error error) ((r.follow e.pull).open e.pull.queueKey)
  -- a pull request whose rule does not match
  | unmatchedUnread (error : Error) :
    Ends t e r .cancelFlow [⟨.getPull e.pull, .error error⟩] (.error error) (r.follow e.pull)
  | unmatchedReported (snapshot : PullSnapshot) (report : StatusReport)
      (hreport : t.report? e snapshot = some report) :
    Ends t e r .cancelFlow [⟨.getPull e.pull, .ok snapshot⟩]
      (.ok (if snapshot.isClosed then .ofSnapshot snapshot report
        else .evicted EvictionReason.ruleUnmatched.report))
      (((r.follow e.pull).open e.pull.queueKey).leave e.pull)
  | unmatchedLoose (snapshot : PullSnapshot) (hreport : t.report? e snapshot = none)
      (hstrict : e.config.strict = .disabled) :
    Ends t e r .cancelFlow [⟨.getPull e.pull, .ok snapshot⟩]
      (.ok (.evicted EvictionReason.ruleUnmatched.report))
      (((r.follow e.pull).open e.pull.queueKey).leave e.pull)
  | resynchronizedUnknown (snapshot : PullSnapshot) (error : Error)
      (hreport : t.report? e snapshot = none) (hstrict : e.config.strict ≠ .disabled) :
    Ends t e r .cancelFlow
      [⟨.getPull e.pull, .ok snapshot⟩, ⟨.haveBeenSynchronized e.pull, .error error⟩]
      (.error error) ((r.follow e.pull).open e.pull.queueKey)
  | requiredUnknown (snapshot : PullSnapshot) (resynchronized : Bool) (error : Error)
      (hreport : t.report? e snapshot = none) (hstrict : e.config.strict ≠ .disabled) :
    Ends t e r .cancelFlow
      [⟨.getPull e.pull, .ok snapshot⟩, ⟨.haveBeenSynchronized e.pull, .ok resynchronized⟩,
        ⟨.requiredChecks e.pull.repository e.pull.baseRef, .error error⟩]
      (.error error) ((r.follow e.pull).open e.pull.queueKey)
  | cancelled (snapshot : PullSnapshot) (resynchronized : Bool) (required : List String)
      (checks : Except Error CheckStates) (hreport : t.report? e snapshot = none)
      (hstrict : e.config.strict ≠ .disabled)
      (hcancel : (e.unmatched snapshot resynchronized required checks).shouldCancel = true) :
    Ends t e r .cancelFlow
      [⟨.getPull e.pull, .ok snapshot⟩, ⟨.haveBeenSynchronized e.pull, .ok resynchronized⟩,
        ⟨.requiredChecks e.pull.repository e.pull.baseRef, .ok required⟩,
        ⟨.getChecks e.pull, checks⟩]
      (.ok (.evicted EvictionReason.ruleUnmatched.report))
      (((r.follow e.pull).open e.pull.queueKey).leave e.pull)
  | unmatchedNotCompared (snapshot : PullSnapshot) (resynchronized : Bool) (required : List String)
      (checks : Except Error CheckStates) (error : Error) (hreport : t.report? e snapshot = none)
      (hstrict : e.config.strict ≠ .disabled)
      (hcancel : (e.unmatched snapshot resynchronized required checks).shouldCancel = false) :
    Ends t e r .cancelFlow
      [⟨.getPull e.pull, .ok snapshot⟩, ⟨.haveBeenSynchronized e.pull, .ok resynchronized⟩,
        ⟨.requiredChecks e.pull.repository e.pull.baseRef, .ok required⟩,
        ⟨.getChecks e.pull, checks⟩, ⟨.isBehind e.pull, .error error⟩]
      (.error error) ((r.follow e.pull).open e.pull.queueKey)
  -- a merge that was handed out
  | mergeBreaks (request : MergeRequest) (error : Error)
      (h : ∀ status message, error ≠ .mergeRejected status message) :
    Ends t e r (.completeMerge request) [⟨.mergePull request, .error error⟩] (.error error)
      ((r.open e.pull.queueKey).leave e.pull)
  | mergedUnread (request : MergeRequest) (answer : Unit) (error : Error) :
    Ends t e r (.completeMerge request)
      [⟨.mergePull request, .ok answer⟩, ⟨.getPull e.pull, .error error⟩]
      (.error error) (r.open e.pull.queueKey)
  | merged (request : MergeRequest) (answer : Unit) (snapshot : PullSnapshot) :
    Ends t e r (.completeMerge request)
      [⟨.mergePull request, .ok answer⟩, ⟨.getPull e.pull, .ok snapshot⟩]
      (.ok (t.mergedOutcome e snapshot)) ((r.open e.pull.queueKey).leave e.pull)
  | rejectedUnread (request : MergeRequest) (status : UInt16) (message : String) (error : Error) :
    Ends t e r (.completeMerge request)
      [⟨.mergePull request, .error (.mergeRejected status message)⟩,
        ⟨.getPull e.pull, .error error⟩]
      (.error error) (r.open e.pull.queueKey)
  | rejectedButMerged (request : MergeRequest) (status : UInt16) (message : String)
      (snapshot : PullSnapshot) (hmerged : snapshot.merged = true) :
    Ends t e r (.completeMerge request)
      [⟨.mergePull request, .error (.mergeRejected status message)⟩,
        ⟨.getPull e.pull, .ok snapshot⟩]
      (.ok (t.mergedOutcome e snapshot)) ((r.open e.pull.queueKey).leave e.pull)
  | rejected (request : MergeRequest) (status : UInt16) (message : String)
      (snapshot : PullSnapshot) (report : StatusReport) (hmerged : snapshot.merged = false)
      (hfailure : (MergeFailure.classify status message).report = some report)
      (hterminal : report.isTerminal = true) :
    Ends t e r (.completeMerge request)
      [⟨.mergePull request, .error (.mergeRejected status message)⟩,
        ⟨.getPull e.pull, .ok snapshot⟩]
      (.ok (.evicted report)) ((r.open e.pull.queueKey).leave e.pull)
  | rejectedForNow (request : MergeRequest) (status : UInt16) (message : String)
      (snapshot : PullSnapshot) (report : StatusReport) (hmerged : snapshot.merged = false)
      (hfailure : (MergeFailure.classify status message).report = some report)
      (hterminal : report.isTerminal = false) :
    Ends t e r (.completeMerge request)
      [⟨.mergePull request, .error (.mergeRejected status message)⟩,
        ⟨.getPull e.pull, .ok snapshot⟩]
      (.ok { report, state := .queued }) (r.open e.pull.queueKey)
  | rejectedNotCompared (request : MergeRequest) (status : UInt16) (message : String)
      (snapshot : PullSnapshot) (error : Error) (hmerged : snapshot.merged = false)
      (hfailure : (MergeFailure.classify status message).report = none) :
    Ends t e r (.completeMerge request)
      [⟨.mergePull request, .error (.mergeRejected status message)⟩,
        ⟨.getPull e.pull, .ok snapshot⟩, ⟨.isBehind e.pull, .error error⟩]
      (.error error) (r.open e.pull.queueKey)

/-- The routes to a plan: the exchanges made until then, the snapshot and the freshness that the
plan is made on, and the registry as it is by then. -/
inductive Plans (t : Train σ) (e : Evaluation) (r : Registry) :
    Operation → List Exchange → PullSnapshot → Bool → Registry → Prop
  | run (snapshot : PullSnapshot) (isBehind : Bool) (queue : Queue) (h : t.refusal? e = none)
      (hreport : t.report? e snapshot = none)
      (hqueue : Train.enqueued (e.entry t.entitlements) (r.queue e.pull.queueKey) = .ok queue) :
    Plans t e r .run [⟨.getPull e.pull, .ok snapshot⟩, ⟨.isBehind e.pull, .ok isBehind⟩]
      snapshot isBehind
      (((r.follow e.pull).open e.pull.queueKey).update e.pull.queueKey fun _ => queue)
  | cancelFlow (snapshot : PullSnapshot) (resynchronized : Bool) (required : List String)
      (checks : Except Error CheckStates) (isBehind : Bool) (hreport : t.report? e snapshot = none)
      (hstrict : e.config.strict ≠ .disabled)
      (hcancel : (e.unmatched snapshot resynchronized required checks).shouldCancel = false) :
    Plans t e r .cancelFlow
      [⟨.getPull e.pull, .ok snapshot⟩, ⟨.haveBeenSynchronized e.pull, .ok resynchronized⟩,
        ⟨.requiredChecks e.pull.repository e.pull.baseRef, .ok required⟩,
        ⟨.getChecks e.pull, checks⟩, ⟨.isBehind e.pull, .ok isBehind⟩]
      snapshot isBehind ((r.follow e.pull).open e.pull.queueKey)
  | completeMerge (request : MergeRequest) (status : UInt16) (message : String)
      (snapshot : PullSnapshot) (isBehind : Bool) (hmerged : snapshot.merged = false)
      (hfailure : (MergeFailure.classify status message).report = none) :
    Plans t e r (.completeMerge request)
      [⟨.mergePull request, .error (.mergeRejected status message)⟩,
        ⟨.getPull e.pull, .ok snapshot⟩, ⟨.isBehind e.pull, .ok isBehind⟩]
      snapshot isBehind (r.open e.pull.queueKey)

/-- All routes of an operation. Whichever it takes, it drops the queue of the branch in the end if
that is idle. -/
inductive Performs (t : Train σ) (e : Evaluation) (r : Registry) (op : Operation) :
    List Exchange → Except Error Outcome → Registry → Prop
  | ended (made : List Exchange) (result : Except Error Outcome) (r' : Registry)
      (h : Ends t e r op made result r') :
    Performs t e r op made result (r'.prune e.pull.queueKey)
  | planned (before after : List Exchange) (snapshot : PullSnapshot) (isBehind : Bool)
      (result : Except Error Outcome) (r₀ r' : Registry)
      (hplan : Plans t e r op before snapshot isBehind r₀)
      (h : Advances t e snapshot isBehind op.allowsMerge r₀ after result r') :
    Performs t e r op (before ++ after) result (r'.prune e.pull.queueKey)

/-! ### Every operation takes one of its routes -/

open TrainM

theorem synchronize_does (platform : Platform σ) (entitlements : Entitlements) (bots : List String)
    (queue : Queue) (task : UpdateTask) (r : Registry) :
    (synchronize platform entitlements bots queue task).Does r fun made result r' =>
      Synchronizes entitlements bots queue task made result ∧ r' = r := by
  refine Does.consult_bind fun answer => ?_
  cases answer with
  | ok answer => exact .pure ⟨.done answer, rfl⟩
  | error error =>
    cases error with
    | branchUpdate title message =>
      exact .ask_bind (fun error => ⟨.unread title message error, rfl⟩)
        fun later => .pure ⟨.failed title message later, rfl⟩
    | _ => exact .throw ⟨.broken _ (by simp), rfl⟩

theorem UpdateTask.isUpdated_failed (task : UpdateTask) (bots : List String)
    (title message : String) (snapshot : PullSnapshot) :
    (task.failed bots title message snapshot).isUpdated = false := by
  rw [UpdateTask.failed]
  split <;> rfl

namespace Train

variable (t : Train σ) (e : Evaluation) (r : Registry)

theorem update_does (snapshot : PullSnapshot) (isBehind : Bool) (queue : Queue)
    (method : UpdateMethod) :
    (t.update e method).Does r (Acts t e snapshot isBehind queue r (.synchronize method)) := by
  refine Does.queueOf_bind (Does.bind (synchronize_does _ _ _ _ _ _) ?_ ?_)
  · rintro made outcome r' ⟨h, rfl⟩
    cases h with
    | done answer => exact .pure (.updates method answer)
    | failed title message later =>
      rw [if_neg (by simp [UpdateTask.isUpdated_failed])]
      exact .changeQueue_bind (.pure (.updateFails method title message later _ rfl))
  · rintro made error r' ⟨h, rfl⟩
    cases h with
    | unread title message => exact .rereadFails method title message error
    | broken _ h => exact .updateBreaks method error h

theorem act_does (snapshot : PullSnapshot) (isBehind : Bool) (queue : Queue) (d : Decision) :
    (t.act e snapshot isBehind queue d).Does r (Acts t e snapshot isBehind queue r d) := by
  cases d with
  | wait => exact .pure .waits
  | blocked report => exact .pure (.blocks report)
  | evict reason => exact .pure (.evicts reason)
  | synchronize method => exact t.update_does e r snapshot isBehind queue method
  | merge method => exact .pure (.merges method)

theorem advance_does (snapshot : PullSnapshot) (isBehind allowMerge : Bool) :
    (t.advance e snapshot isBehind allowMerge).Does r
      (Advances t e snapshot isBehind allowMerge r) := by
  refine Does.queueOf_bind (Does.changeQueue_bind (Does.bind (t.act_does e _ _ _ _ _) ?_ ?_))
  · intro made outcome r' h
    refine .pure ?_
    rw [List.append_nil]
    exact .intro _ made (.ok outcome) r' rfl h
  · intro made error r' h
    exact .intro _ made (.error error) r' rfl h

theorem enqueue_bind {f : Unit → TrainM σ Outcome}
    {E : List Exchange → Except Error Outcome → Registry → Prop}
    (hok : ∀ queue, enqueued (e.entry t.entitlements) (r.queue e.pull.queueKey) = .ok queue →
      (f ()).Does (r.update e.pull.queueKey fun _ => queue) E)
    (herror : ∀ error, enqueued (e.entry t.entitlements) (r.queue e.pull.queueKey) = .error error →
      E [] (.error error) r) :
    (t.enqueue e >>= f).Does r E := by
  rw [enqueue, bind_assoc]
  refine .queueOf_bind ?_
  cases h : enqueued (e.entry t.entitlements) (r.queue e.pull.queueKey) with
  | ok queue => exact .changeQueue_bind (hok queue h)
  | error error =>
    refine Does.bind (.throw ⟨rfl, rfl, rfl⟩) ?_ ?_
      (E := fun made result r' => made = [] ∧ result = .error error ∧ r' = r)
    · rintro made a r' ⟨-, ha, -⟩
      cases ha
    · rintro made error' r' ⟨rfl, he, rfl⟩
      cases he
      exact herror error h

theorem run_does : (t.run e).Does r (Performs t e r .run) := by
  refine .thenPrune (.changeRegistry_bind ?_)
  cases h : e.config.refusal t.entitlements e.pull.owner with
  | some report => exact .pure (.ended _ _ _ (.refused report h))
  | none =>
    refine .ask_bind (fun error => .ended _ _ _ (.unread error h)) fun snapshot => ?_
    refine .changeRegistry_bind ?_
    cases hreport : snapshot.mergeReport t.settings.bots e.config.strict with
    | some report =>
      exact .changeQueue_bind (.pure (.ended _ _ _ (.reported snapshot report h hreport)))
    | none =>
      refine .ask_bind (fun error => .ended _ _ _ (.notCompared snapshot error h hreport))
        fun isBehind => ?_
      refine t.enqueue_bind e _ (fun queue hqueue => ?_) fun error hqueue => ?_
      · refine (t.advance_does e _ snapshot isBehind true).mono fun made result r' hadvance => ?_
        rw [Registry.queue_open] at hqueue
        exact .planned [_, _] made snapshot isBehind result _ r'
          (.run snapshot isBehind queue h hreport ((r.queue_follow e.pull) ▸ hqueue)) hadvance
      · rw [Registry.queue_open] at hqueue
        exact .ended _ _ _ (.notEnqueued snapshot isBehind error h hreport
          ((r.queue_follow e.pull) ▸ hqueue))

theorem shouldCancel_bind {snapshot : PullSnapshot} {f : Bool → TrainM σ Outcome}
    {E : List Exchange → Except Error Outcome → Registry → Prop}
    (hresynchronized : ∀ error,
      E [⟨.haveBeenSynchronized e.pull, .error error⟩] (.error error) r)
    (hrequired : ∀ resynchronized error,
      E [⟨.haveBeenSynchronized e.pull, .ok resynchronized⟩,
        ⟨.requiredChecks e.pull.repository e.pull.baseRef, .error error⟩] (.error error) r)
    (hok : ∀ resynchronized required checks,
      (f (e.unmatched snapshot resynchronized required checks).shouldCancel).Does r
        fun made result r' =>
          E (⟨.haveBeenSynchronized e.pull, .ok resynchronized⟩ ::
            ⟨.requiredChecks e.pull.repository e.pull.baseRef, .ok required⟩ ::
            ⟨.getChecks e.pull, checks⟩ :: made) result r') :
    (t.shouldCancel e snapshot >>= f).Does r E := by
  rw [shouldCancel]
  simp only [bind_assoc, pure_bind]
  refine .ask_bind hresynchronized fun resynchronized => ?_
  refine .ask_bind (hrequired resynchronized) fun required => ?_
  exact .consult_bind fun checks => hok resynchronized required checks

theorem cancelFlow_does : (t.cancelFlow e).Does r (Performs t e r .cancelFlow) := by
  refine .thenPrune (.changeRegistry_bind ?_)
  refine .ask_bind (fun error => .ended _ _ _ (.unmatchedUnread error)) fun snapshot => ?_
  refine .changeRegistry_bind ?_
  cases hreport : snapshot.mergeReport t.settings.bots e.config.strict with
  | some report =>
    have hended := Performs.ended _ _ _ (.unmatchedReported (r := r) snapshot report hreport)
    refine .changeQueue_bind ?_
    cases hclosed : snapshot.isClosed <;> rw [hclosed] at hended <;> exact .pure hended
  | none =>
    cases hstrict : e.config.strict.isEnabled with
    | false =>
      have hmode : e.config.strict = .disabled := StrictMode.isEnabled_eq_false_iff.mp hstrict
      simp only [evaluateUnmatched, hstrict]
      exact .changeQueue_bind (.pure (.ended _ _ _ (.unmatchedLoose snapshot hreport hmode)))
    | true =>
      have hmode : e.config.strict ≠ .disabled := fun hs => by
        rw [hs] at hstrict
        cases hstrict
      simp only [evaluateUnmatched, hstrict, if_true]
      refine t.shouldCancel_bind e _
        (fun error => .ended _ _ _ (.resynchronizedUnknown snapshot error hreport hmode))
        (fun resynchronized error => .ended _ _ _
          (.requiredUnknown snapshot resynchronized error hreport hmode))
        fun resynchronized required checks => ?_
      cases hcancel : (e.unmatched snapshot resynchronized required checks).shouldCancel with
      | true =>
        exact .changeQueue_bind (.pure (.ended _ _ _
          (.cancelled snapshot resynchronized required checks hreport hmode hcancel)))
      | false =>
        refine .ask_bind (fun error => .ended _ _ _
          (.unmatchedNotCompared snapshot resynchronized required checks error hreport hmode
            hcancel)) fun isBehind => ?_
        exact (t.advance_does e _ snapshot isBehind false).mono fun made result r' h =>
          .planned [_, _, _, _, _] made snapshot isBehind result _ r'
            (.cancelFlow snapshot resynchronized required checks isBehind hreport hmode hcancel) h

theorem afterMerge_does (snapshot : PullSnapshot) :
    (t.afterMerge e snapshot).Does r fun made result r' =>
      made = [] ∧ result = .ok (t.mergedOutcome e snapshot) ∧ r' = r.leave e.pull := by
  refine .changeQueue_bind ?_
  rw [mergedOutcome, report?]
  cases snapshot.mergeReport t.settings.bots e.config.strict with
  | some report => exact .pure ⟨rfl, rfl, rfl⟩
  | none => exact .pure ⟨rfl, rfl, rfl⟩

/-- The way on from a refused merge of a pull request that is not merged. -/
theorem afterRefusal_does (request : MergeRequest) (status : UInt16) (message : String)
    (snapshot : PullSnapshot) (hmerged : snapshot.merged = false) :
    (t.afterRefusal e snapshot (.classify status message)).Does (r.open e.pull.queueKey)
      fun made result r' =>
        Performs t e r (.completeMerge request)
          (⟨.mergePull request, .error (.mergeRejected status message)⟩ ::
            ⟨.getPull e.pull, .ok snapshot⟩ :: made) result (r'.prune e.pull.queueKey) := by
  rw [afterRefusal]
  cases hfailure : (MergeFailure.classify status message).report with
  | none =>
    refine .ask_bind (fun error => .ended _ _ _
      (.rejectedNotCompared request status message snapshot error hmerged hfailure))
      fun isBehind => ?_
    exact (t.advance_does e _ snapshot isBehind true).mono fun made result r' h =>
      .planned [_, _, _] made snapshot isBehind result _ r'
        (.completeMerge request status message snapshot isBehind hmerged hfailure) h
  | some report =>
    cases hterminal : report.isTerminal with
    | true =>
      simp only [hterminal, if_true]
      exact .changeQueue_bind (.pure (.ended _ _ _
        (.rejected request status message snapshot report hmerged hfailure hterminal)))
    | false =>
      simp only [hterminal]
      exact .pure (.ended _ _ _
        (.rejectedForNow request status message snapshot report hmerged hfailure hterminal))

theorem completeMerge_does (request : MergeRequest) :
    (t.completeMerge e request).Does r (Performs t e r (.completeMerge request)) := by
  refine .thenPrune (.changeRegistry_bind (.consult_bind fun answer => ?_))
  cases answer with
  | ok answer =>
    refine .ask_bind (fun error => .ended _ _ _ (.mergedUnread request answer error))
      fun snapshot => ?_
    refine (t.afterMerge_does e _ snapshot).mono ?_
    rintro made result r' ⟨rfl, rfl, rfl⟩
    exact .ended _ _ _ (.merged request answer snapshot)
  | error error =>
    cases error with
    | mergeRejected status message =>
      refine .ask_bind (fun error => .ended _ _ _ (.rejectedUnread request status message error))
        fun snapshot => ?_
      cases hmerged : snapshot.merged with
      | true =>
        simp only [if_true]
        refine (t.afterMerge_does e _ snapshot).mono ?_
        rintro made result r' ⟨rfl, rfl, rfl⟩
        exact .ended _ _ _ (.rejectedButMerged request status message snapshot hmerged)
      | false =>
        exact t.afterRefusal_does e r request status message snapshot hmerged
    | _ => exact .changeQueue_bind (.throw (.ended _ _ _ (.mergeBreaks request _ (by simp))))

/-- **Every operation takes one of its routes**, whatever the platform answers. -/
theorem perform_does (op : Operation) : (t.perform e op).Does r (Performs t e r op) := by
  cases op with
  | run => exact t.run_does e r
  | cancelFlow => exact t.cancelFlow_does e r
  | completeMerge request => exact t.completeMerge_does e r request

end Train

end MergeTrain
