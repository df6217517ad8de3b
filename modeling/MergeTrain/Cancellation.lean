import MergeTrain.Check
import MergeTrain.Condition
import MergeTrain.Pull.Basic

/-!
# Cancellation

When a pull request whose rule no longer matches leaves the queue. It stays as long as only checks
are missing and some of them may still end well; check states that are not known count as no result
yet.

## Main definitions

* `Unmatched` — what is known about the pull request.
* `Unmatched.shouldCancel` — whether it leaves.
-/

namespace MergeTrain

/-- What is known about a queued pull request whose rule does not match. -/
structure Unmatched where
  state : PullState
  /-- New commits have come since the last evaluation. -/
  resynchronized : Bool
  /-- The conditions that are not met. -/
  missing : List Condition
  /-- The names of the checks that the base branch requires. -/
  required : List String
  /-- The states of the checks, if they could be read. -/
  checks : Option CheckStates

/-- The conditions that required checks amount to. -/
def requiredCheckConditions (names : List String) : List Condition :=
  names.map Condition.checkSuccess

namespace Unmatched

/-- The conditions whose checks are waited for. -/
def awaited (u : Unmatched) : List Condition :=
  requiredCheckConditions u.required ++ u.missing.filter Condition.isCheckRelated

/-- The states of the checks that some awaited condition accepts. -/
def awaitedStates (u : Unmatched) (checks : CheckStates) : List CheckStatus :=
  (checks.entries.filter fun e => u.awaited.any fun c => c.accepts e.1).map Prod.snd

/-- Whether some awaited check is known and none of those known is still running. -/
def isSettled (u : Unmatched) : Bool :=
  match u.checks with
  | none => false
  | some checks =>
    let states := u.awaitedStates checks
    !states.isEmpty && states.all CheckStatus.isTerminal

/-- Whether the pull request leaves the queue. -/
def shouldCancel (u : Unmatched) : Bool :=
  u.state == .closed || u.resynchronized || u.missing.any (fun c => !c.isCheckRelated) ||
    u.awaited.isEmpty || u.isSettled

end Unmatched

end MergeTrain
