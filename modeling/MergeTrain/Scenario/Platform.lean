import MergeTrain.Platform
import MergeTrain.Scenario.Basic

/-!
# Platforms that answer from a scenario

The platform of a scenario knows one pull request. Its state is what that pull request looks like
now: a merge changes it, and so may a failed update.
-/

namespace MergeTrain

namespace Scenario

/-- The answer about the pull request of the scenario; there is no other one. -/
def about {α : Type} (s : Scenario) (pull : PullRef) (answer : Except Error α) : Except Error α :=
  if pull.number = s.pull.number then answer
  else .error (.platform ("pull request " ++ numberText pull.number ++ " not found"))

/-- The answer to an update of the head branch, and what the pull request looks like then. -/
def update (s : Scenario) (pull : PullRef) (snapshot : PullSnapshot) :
    Except Error Unit × PullSnapshot :=
  if pull.number = s.pull.number then
    match s.updateError with
    | none => (.ok (), snapshot)
    | some message =>
      (.error (.branchUpdate Error.defaultUpdateTitle message), s.pullAfterUpdate.getD snapshot)
  else (s.about pull (.ok ()), snapshot)

/-- A pull request after a merge. -/
def merged (snapshot : PullSnapshot) (login : String) : PullSnapshot :=
  { snapshot with
    state := .closed
    merged := true
    mergedBy := some login
    mergeCommitSha := some (snapshot.pull.headSha ++ "-merged") }

/-- The answer to a request to merge, and what the pull request looks like then. -/
def merge (s : Scenario) (login : String) (request : MergeRequest) (snapshot : PullSnapshot) :
    Except Error Unit × PullSnapshot :=
  if request.pull.number = s.pull.number then
    match s.mergeError with
    | some refusal => (.error (.mergeRejected refusal.status refusal.message), snapshot)
    | none => (.ok (), merged snapshot (request.actor.getD login))
  else (s.about request.pull (.ok ()), snapshot)

/-- The platform of a scenario; its usual account is `login`. -/
def platform (s : Scenario) (login : String) : Platform PullSnapshot where
  answer call snapshot :=
    match call with
    | .getPull pull => (s.about pull (.ok snapshot), snapshot)
    | .isBehind pull => (s.about pull (.ok s.isBehind), snapshot)
    | .haveBeenSynchronized pull => (s.about pull (.ok s.synchronized), snapshot)
    | .getChecks pull =>
      match s.checkStates with
      | some states => (s.about pull (.ok states), snapshot)
      | none => (s.about pull (.error (.platform "check states unavailable")), snapshot)
    | .requiredChecks _ _ => (.ok s.requiredChecks, snapshot)
    | .updateBranch pull => s.update pull snapshot
    | .rewriteBranch pull _ _ => s.update pull snapshot
    | .mergePull request => s.merge login request snapshot

/-- What the owner of a given number has subscribed to. -/
def fetchSubscription (s : Scenario) (ownerId : UInt64) : Except Error Subscription :=
  let subscription := s.ownerSubscription
  .ok (if subscription.ownerId = ownerId then subscription else .free ownerId)

end Scenario

end MergeTrain
