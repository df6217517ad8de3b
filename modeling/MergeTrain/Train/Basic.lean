import MergeTrain.CommitMessage
import MergeTrain.Plan
import MergeTrain.Platform
import MergeTrain.Policy.Basic
import MergeTrain.Report.Snapshot
import MergeTrain.Rule

/-!
# Trains

What a merge train is made of, what it is given to evaluate and what comes out. Planning is here
too: it looks at a queue, removes who has waited too long, decides, and touches nothing else.

## Main definitions

* `Train` — a platform with entitlements and settings.
* `Evaluation` — a pull request to evaluate.
* `Outcome` — what is published and what is to be done.
* `Sweep`, `Step` — a queue without those who have waited too long, and the step planned on it.
-/

namespace MergeTrain

/-- What does not change while a train runs. -/
structure TrainSettings where
  /-- The logins whose merges are reported as automatic. -/
  bots : List String
  /-- The limits of queues. -/
  queue : QueueSettings

/-- A merge train. -/
structure Train (σ : Type) where
  platform : Platform σ
  entitlements : Entitlements
  settings : TrainSettings

/-- A pull request to evaluate. -/
structure Evaluation where
  pull : PullRef
  config : MergeConfig
  /-- The rule that asks for the merge, for its checklist and its missing conditions. -/
  rule : Option Rule
  now : Instant

/-- What an evaluation came to. -/
structure Outcome where
  /-- What is published. -/
  report : StatusReport
  /-- The merge that is to be performed now. -/
  merge : Option MergeRequest := none
  state : TrainState
  /-- The other pull requests that were removed from the queue because they waited too long. -/
  expired : List UInt64 := []
  deriving DecidableEq, Repr

namespace Outcome

/-- A report that ends the stay of a pull request in the train. -/
def evicted (report : StatusReport) : Outcome :=
  { report, state := .cancelled }

/-- The state of a pull request that goes no further because of what it looks like. -/
def stateOf (snapshot : PullSnapshot) (report : StatusReport) : TrainState :=
  if snapshot.merged then .merged
  else if report.isTerminal then .cancelled
  else .notQueued

/-- The outcome for a pull request that goes no further because of what it looks like. -/
def ofSnapshot (snapshot : PullSnapshot) (report : StatusReport) : Outcome :=
  { report, state := stateOf snapshot report }

/-- The state of a pull request whose update did not succeed. -/
def stateAfterUpdate (report : StatusReport) : TrainState :=
  match report.conclusion with
  | some .success => .merged
  | some _ => .cancelled
  | none => .notQueued

/-- The outcome for a pull request whose merge the platform confirmed, but which it still shows as
open. -/
def unexpected : Outcome :=
  evicted (.concluded .failure "Unexpected after merge pull request state"
    "The pull request has been merged while the platform still reports it as opened.")

end Outcome

namespace Evaluation

/-- The entry of the pull request in its queue. -/
def entry (e : Evaluation) (entitlements : Entitlements) : QueueEntry :=
  { pull := e.pull
    priority := e.config.effectivePriority entitlements e.pull.owner
    enqueuedAt := e.now
    config := e.config }

/-- A text, unless it is empty. -/
def nonEmpty (text : String) : Option String :=
  if text.isEmpty then none else some text

/-- The request to merge the pull request as it looks now. -/
def mergeRequest (e : Evaluation) (snapshot : PullSnapshot) (method : MergeMethod) :
    MergeRequest :=
  let texts := snapshot.commitMessage e.config.commitMessage
  { pull := e.pull
    method
    commitTitle := (texts.map Prod.fst).bind nonEmpty
    commitMessage := (texts.map Prod.snd).bind nonEmpty
    actor := e.config.mergeBotAccount }

/-- Who rewrites the head branch. -/
def updateActor (e : Evaluation) : Option String :=
  e.config.updateActor

end Evaluation

/-! ### Planning -/

/-- A queue without those who have waited too long. -/
structure Sweep where
  queue : Queue
  /-- Whether the pull request under evaluation has waited too long; it is still there. -/
  own : Bool
  /-- The others who have, in the order in which they stood. -/
  others : List UInt64

/-- The pull requests of a queue that have waited too long. -/
def QueueSettings.overdue (s : QueueSettings) (queue : Queue) (branch : String) (now : Instant) :
    List UInt64 :=
  match s.maxWait branch with
  | none => []
  | some minutes => queue.expired now (nanosOfMinutes minutes.toNat)

/-- Remove the others who have waited too long. -/
def Evaluation.sweep (e : Evaluation) (s : QueueSettings) (queue : Queue) : Sweep :=
  let late := s.overdue queue e.pull.baseRef e.now
  let others := late.filter fun n => n != e.pull.number
  { queue := others.foldl Queue.remove queue, own := late.contains e.pull.number, others }

/-- A decision, the queue it leaves behind, and who was removed on the way. -/
structure Step where
  decision : Decision
  queue : Queue
  expired : List UInt64

/-- The next step of a pull request in a queue. -/
def Evaluation.plan (e : Evaluation) (s : QueueSettings) (snapshot : PullSnapshot)
    (isBehind allowMerge : Bool) (queue : Queue) : Step :=
  let swept := e.sweep s queue
  let facts : Facts :=
    { number := e.pull.number
      isBehind
      rebaseable := snapshot.rebaseable
      expired := swept.own
      allowMerge
      config := e.config }
  let decision := facts.decision swept.queue
  let queue :=
    match decision with
    | .blocked _ | .evict _ => swept.queue.remove e.pull.number
    | _ => swept.queue
  { decision, queue, expired := swept.others }

end MergeTrain
