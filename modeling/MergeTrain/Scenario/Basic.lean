import MergeTrain.Check
import MergeTrain.Queue
import MergeTrain.Rule
import MergeTrain.Subscription

/-!
# Scenarios

A situation that can be replayed without a platform: one pull request, the rest of its queue, and
what the platform would answer.

## Main definitions

* `Scenario` — the situation.
* `Scenario.checkStates` — the states of its checks, from three sources.
* `Scenario.seedQueue` — its other pull requests put into a queue.
-/

namespace MergeTrain

/-- A rule as a scenario gives it. -/
structure ScenarioRule where
  name : String
  conditions : List String
  missing : List String := []

/-- The rule, evaluated. -/
def ScenarioRule.evaluate (r : ScenarioRule) : Except ConfigError Rule :=
  Rule.ofTexts r.name r.conditions r.missing

/-- Another pull request in the queue. -/
structure ScenarioEntry where
  number : UInt64
  priority : Priority := .medium
  enqueuedAt : Instant

/-- The subscription of the owner. -/
structure ScenarioSubscription where
  active : Bool := false
  /-- The names of features. -/
  features : List String := []

/-- A check run. -/
structure CheckRun where
  name : String
  status : String
  conclusion : Option String := none

/-- A commit status. -/
structure CommitStatus where
  context : String
  state : String

/-- A refusal to merge. -/
structure Refusal where
  status : UInt16
  message : String

/-- A situation that can be replayed. -/
structure Scenario where
  /-- The pull request under evaluation. -/
  pull : PullSnapshot
  isBehind : Bool := false
  /-- New commits have come since the last evaluation. -/
  synchronized : Bool := false
  checks : Option CheckStates := none
  checkRuns : List CheckRun := []
  commitStatuses : List CommitStatus := []
  /-- The names of the checks that the base branch requires. -/
  requiredChecks : List String := []
  rule : Option ScenarioRule := none
  /-- Whether the rule matches. -/
  ruleMatches : Bool := true
  /-- The other pull requests in the queue. -/
  queue : List ScenarioEntry := []
  subscription : ScenarioSubscription := {}
  /-- Why updates of the head branch fail, if they do. -/
  updateError : Option String := none
  /-- What the pull request looks like after a failed update, if that changes. -/
  pullAfterUpdate : Option PullSnapshot := none
  /-- How merges are refused, if they are. -/
  mergeError : Option Refusal := none
  now : Option Instant := none

namespace Scenario

/-- The subscription of the owner. -/
def ownerSubscription (s : Scenario) : Subscription :=
  .ofNames s.pull.pull.owner.id s.subscription.active "scenario" s.subscription.features

/-- The entries that check runs and commit statuses make, in order. -/
def reported (s : Scenario) : List (String × CheckStatus) :=
  s.checkRuns.map (fun run => (run.name, CheckStatus.ofCheckRun run.status run.conclusion)) ++
    s.commitStatuses.map fun status => (status.context, CheckStatus.ofCommitState status.state)

/-- The states of the checks, if any source gives some. Check runs override what is given as a
state, and commit statuses override both. -/
def checkStates (s : Scenario) : Option CheckStates :=
  if s.checks.isNone && s.checkRuns.isEmpty && s.commitStatuses.isEmpty then none
  else some (s.reported.foldl (fun states e => states.insert e.1 e.2) (s.checks.getD .empty))

/-- The queue entry of another pull request. It targets the same branch as the one under
evaluation. -/
def queueEntry (s : Scenario) (config : MergeConfig) (e : ScenarioEntry) : QueueEntry :=
  { pull :=
      { s.pull.pull with
        number := e.number, headSha := "scenario-" ++ toString e.number.toNat }
    priority := e.priority
    enqueuedAt := e.enqueuedAt
    config := { config with priority := e.priority } }

/-- Put the other pull requests into a queue, up to the first that it does not take. What the queue
holds then comes with the error. -/
def seedQueue (s : Scenario) (config : MergeConfig) (queue : Queue) : Option Error × Queue :=
  go queue s.queue
where
  /-- Put the pull requests of a list into a queue. -/
  go (queue : Queue) : List ScenarioEntry → Option Error × Queue
    | [] => (none, queue)
    | e :: rest =>
      match queue.insert (s.queueEntry config e) with
      | .ok queue => go queue rest
      | .error error => (some error, queue)

end Scenario

end MergeTrain
