import MergeTrain.Cancellation
import MergeTrain.MergeFailure
import MergeTrain.Synchronization
import MergeTrain.Train.Basic

/-!
# Running a train

The three operations of a train. Each reads the live state of the pull request, plans on its queue,
and only then updates a branch or hands out a merge. Whatever happens, no empty queue is left
behind.

## Main definitions

* `Train.run` — evaluate a pull request whose rule matches.
* `Train.cancelFlow` — evaluate a pull request whose rule no longer matches.
* `Train.completeMerge` — perform a merge that was handed out.
-/

namespace MergeTrain

namespace Train

variable {σ : Type}

/-! ### Acting on a plan -/

/-- Update the head branch. A pull request whose update fails leaves the queue. -/
def update (t : Train σ) (e : Evaluation) (method : UpdateMethod) : TrainM σ Outcome := do
  let queue ← queueOf e.pull
  let outcome ← synchronize t.platform t.entitlements t.settings.bots queue
    { pull := e.pull, method, actor := e.updateActor, strict := e.config.strict, rule := e.rule }
  if outcome.isUpdated then
    return { report := outcome.report, state := .synchronizing }
  else
    changeQueue e.pull fun q => q.remove e.pull.number
    return { report := outcome.report, state := Outcome.stateAfterUpdate outcome.report }

/-- Do what was decided on a queue. -/
def act (t : Train σ) (e : Evaluation) (snapshot : PullSnapshot) (isBehind : Bool) (queue : Queue) :
    Decision → TrainM σ Outcome
  | .wait =>
    return {
      report := waitingStatus t.entitlements queue e.pull.number e.pull.owner e.config.strict
        isBehind e.rule
      state := .queued }
  | .blocked report => return .evicted report
  | .evict reason => return .evicted reason.report
  | .synchronize method => t.update e method
  | .merge method =>
    return {
      report := .pending "The pull request is being merged" ""
      merge := some (e.mergeRequest snapshot method)
      state := .mergeable }

/-- Plan on the queue of the pull request, then do what was decided. -/
def advance (t : Train σ) (e : Evaluation) (snapshot : PullSnapshot) (isBehind allowMerge : Bool) :
    TrainM σ Outcome := do
  let step := e.plan t.settings.queue snapshot isBehind allowMerge (← queueOf e.pull)
  changeQueue e.pull fun _ => step.queue
  let outcome ← t.act e snapshot isBehind step.queue step.decision
  return { outcome with expired := step.expired }

/-! ### Matching rules -/

/-- Leave the queues of the branches that the pull request does not target. -/
def followTarget (pull : PullRef) : TrainM σ Unit :=
  changeRegistry fun r => (r.removeElsewhere pull.repository pull.number pull.baseRef).2

/-- Make the queue of the target branch available. -/
def openQueue (pull : PullRef) : TrainM σ Unit :=
  changeRegistry fun r => r.open pull.queueKey

/-- Leave the queue of the target branch. -/
def leaveQueue (pull : PullRef) : TrainM σ Unit :=
  changeQueue pull fun q => q.remove pull.number

/-- A queue with an entry in it: taken in, or brought up to the present choices. -/
def enqueued (entry : QueueEntry) (queue : Queue) : Except Error Queue :=
  match queue.insert entry with
  | .error (.alreadyQueued _ _) => queue.updateConfig entry.number entry.priority entry.config
  | result => result

/-- Enter the queue of the target branch. -/
def enqueue (t : Train σ) (e : Evaluation) : TrainM σ Unit := do
  match enqueued (e.entry t.entitlements) (← queueOf e.pull) with
  | .ok queue => changeQueue e.pull fun _ => queue
  | .error error => throw error

/-- Evaluate a pull request whose owner may use the options that are configured. -/
def evaluate (t : Train σ) (e : Evaluation) : TrainM σ Outcome := do
  let snapshot ← ask t.platform (.getPull e.pull)
  openQueue e.pull
  match snapshot.mergeReport t.settings.bots e.config.strict with
  | some report =>
    leaveQueue e.pull
    return .ofSnapshot snapshot report
  | none =>
    let isBehind ← ask t.platform (.isBehind e.pull)
    t.enqueue e
    t.advance e snapshot isBehind true

/-- Evaluate a pull request whose rule matches: it enters the queue of its branch, and moves on as
far as it can. -/
def run (t : Train σ) (e : Evaluation) : TrainM σ Outcome :=
  thenPrune e.pull do
    followTarget e.pull
    match e.config.refusal t.entitlements e.pull.owner with
    | some report => return { report, state := .notQueued }
    | none => t.evaluate e

/-! ### Rules that no longer match -/

/-- Whether a pull request whose rule no longer matches leaves the queue. Check states that cannot
be read do not end the operation. -/
def shouldCancel (t : Train σ) (e : Evaluation) (snapshot : PullSnapshot) : TrainM σ Bool := do
  let resynchronized ← ask t.platform (.haveBeenSynchronized e.pull)
  let required ← ask t.platform (.requiredChecks e.pull.repository e.pull.baseRef)
  let checks ← consult t.platform (.getChecks e.pull)
  let unmatched : Unmatched :=
    { state := snapshot.state
      resynchronized
      missing := (e.rule.map Rule.missing).getD []
      required
      checks := checks.toOption }
  return unmatched.shouldCancel

/-- Evaluate a pull request whose rule no longer matches, as it looks now. -/
def evaluateUnmatched (t : Train σ) (e : Evaluation) (snapshot : PullSnapshot) :
    TrainM σ Outcome := do
  if e.config.strict.isEnabled then
    if ← t.shouldCancel e snapshot then
      leaveQueue e.pull
      return .evicted EvictionReason.ruleUnmatched.report
    else
      let isBehind ← ask t.platform (.isBehind e.pull)
      t.advance e snapshot isBehind false
  else
    leaveQueue e.pull
    return .evicted EvictionReason.ruleUnmatched.report

/-- Evaluate a pull request whose rule no longer matches: it stays in the queue while its checks
run under a strict mode, and is not merged. -/
def cancelFlow (t : Train σ) (e : Evaluation) : TrainM σ Outcome :=
  thenPrune e.pull do
    followTarget e.pull
    let snapshot ← ask t.platform (.getPull e.pull)
    openQueue e.pull
    match snapshot.mergeReport t.settings.bots e.config.strict with
    | some report =>
      leaveQueue e.pull
      if snapshot.isClosed then return .ofSnapshot snapshot report
      else return .evicted EvictionReason.ruleUnmatched.report
    | none => t.evaluateUnmatched e snapshot

/-! ### Merging -/

/-- Go on after a refused merge of a pull request that is not merged. -/
def afterRefusal (t : Train σ) (e : Evaluation) (snapshot : PullSnapshot) (failure : MergeFailure) :
    TrainM σ Outcome := do
  match failure.report with
  | none =>
    let isBehind ← ask t.platform (.isBehind e.pull)
    t.advance e snapshot isBehind true
  | some report =>
    if report.isTerminal then
      leaveQueue e.pull
      return .evicted report
    else return { report, state := .queued }

/-- Go on after a merge that is done. -/
def afterMerge (t : Train σ) (e : Evaluation) (snapshot : PullSnapshot) : TrainM σ Outcome := do
  leaveQueue e.pull
  match snapshot.mergeReport t.settings.bots e.config.strict with
  | some report => return .ofSnapshot snapshot report
  | none => return .unexpected

/-- Go on after the platform was asked to merge: the pull request is read again, and if it is merged
a refusal does not count. -/
def conclude (t : Train σ) (e : Evaluation) (refusal : Option MergeFailure) : TrainM σ Outcome := do
  let snapshot ← ask t.platform (.getPull e.pull)
  match refusal with
  | some failure =>
    if snapshot.merged then t.afterMerge e snapshot else t.afterRefusal e snapshot failure
  | none => t.afterMerge e snapshot

/-- Perform a merge that was handed out. If it is refused because the base branch has moved, the
next step is planned again and may be another merge. -/
def completeMerge (t : Train σ) (e : Evaluation) (request : MergeRequest) : TrainM σ Outcome :=
  thenPrune e.pull do
    openQueue e.pull
    match ← consult t.platform (.mergePull request) with
    | .ok _ => t.conclude e none
    | .error (.mergeRejected status message) =>
      t.conclude e (some (.classify status message))
    | .error error =>
      leaveQueue e.pull
      throw error

end Train

end MergeTrain
