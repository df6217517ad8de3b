import MergeTrain.NameMap
import MergeTrain.Spelled

/-!
# Checks

The live state of a check on a pull request, from the two ways in which platforms report one: a
check run with a status and a conclusion, and a commit status with a state.

## Main definitions

* `CheckStatus` — the state of one check.
* `CheckStates` — the states of all checks by name.
-/

namespace MergeTrain

/-- The state of one check. -/
inductive CheckStatus where
  /-- It ended well. -/
  | success
  /-- It ended otherwise. -/
  | failure
  /-- It has not ended. -/
  | pending
  /-- It was reported without a usable value. -/
  | unknown
  deriving DecidableEq, Repr

instance : Spelled CheckStatus where
  all := [.success, .failure, .pending, .unknown]
  text
    | .success => "success"
    | .failure => "failure"
    | .pending => "pending"
    | .unknown => "unknown"

namespace CheckStatus

/-- The state of a check run. It is pending until it is completed, and then says nothing without a
conclusion. -/
def ofCheckRun (status : String) (conclusion : Option String) : CheckStatus :=
  if status ≠ "completed" then .pending
  else
    match conclusion with
    | none => .unknown
    | some word =>
      if ["success", "neutral", "skipped"].contains word then .success else .failure

/-- The state of a commit status. -/
def ofCommitState (state : String) : CheckStatus :=
  if state = "success" then .success
  else if state = "failure" ∨ state = "error" then .failure
  else if state = "pending" then .pending
  else .unknown

/-- Whether the check has ended. -/
def isTerminal : CheckStatus → Bool
  | .success | .failure => true
  | .pending | .unknown => false

end CheckStatus

/-- The states of checks by name. -/
abbrev CheckStates := NameMap CheckStatus

namespace CheckStates

/-- The wire form. -/
def toJson (states : CheckStates) : Json :=
  .object (states.entries.map fun e => (e.1, Spelled.toJson e.2))

/-- A wire value read back; the last state of a name counts. -/
def ofJson? (j : Json) : Option CheckStates :=
  (j.entries? Spelled.ofJson?).map NameMap.ofList

end CheckStates

end MergeTrain
