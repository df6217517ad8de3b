/-!
# Errors

Every way in which an operation of this library can fail, as a cause. The wording is in one
function per type.

## Main definitions

* `ConfigError` — what can be wrong with a policy, a condition or a rule, or with reading them.
* `Error` — what any operation can fail with.
* `Error.message` — the words for it.
-/

namespace MergeTrain

/-- What can be wrong with a policy, a condition or a rule. -/
inductive ConfigError where
  | emptyCondition
  | missingAttribute (condition : String)
  /-- The pattern of the condition is not well formed. -/
  | invalidPattern (condition : String)
  /-- A condition is said to be missing from a rule that does not have it. -/
  | notInRule (condition rule : String)
  | unknownStrictMode (word : String)
  | unknownPriority (word : String)
  | priorityOutOfRange (value : Int)
  /-- A maximum wait of no minutes, for every branch or for one. -/
  | zeroMaxWait (branch : Option String)
  | absentFile (name : String)
  | unreadableFile (name : String)
  /-- A policy file that is not a policy. -/
  | unparsableFile (name : String)
  deriving DecidableEq, Repr

/-- The words for a configuration error. -/
def ConfigError.message : ConfigError → String
  | .emptyCondition => "empty condition"
  | .missingAttribute condition => "missing attribute in `" ++ condition ++ "`"
  | .invalidPattern condition => "invalid regex in `" ++ condition ++ "`"
  | .notInRule condition rule =>
    "missing condition `" ++ condition ++ "` is not part of rule " ++ rule
  | .unknownStrictMode word => "unknown strict mode `" ++ word ++ "`"
  | .unknownPriority word => "unknown priority `" ++ word ++ "`"
  | .priorityOutOfRange value => "priority " ++ toString value ++ " out of range 1..=10000"
  | .zeroMaxWait none => "queue.max_wait_minutes must be positive"
  | .zeroMaxWait (some branch) =>
    "queue.branches." ++ branch ++ ".max_wait_minutes must be positive"
  | .absentFile name => name ++ " does not exist"
  | .unreadableFile name => "failed to read " ++ name
  | .unparsableFile name => "failed to parse " ++ name

/-- What an operation can fail with. -/
inductive Error where
  | alreadyQueued (branch : String) (number : UInt64)
  /-- A pull request was offered to the queue of a branch that it does not target. -/
  | wrongBranch (branch target : String) (number : UInt64)
  | pullNotQueued (number : UInt64)
  | config (cause : ConfigError)
  /-- The hosting platform failed. -/
  | platform (message : String)
  /-- A head branch could not be brought up to date. -/
  | branchUpdate (title message : String)
  /-- The platform refused to merge. -/
  | mergeRejected (status : UInt16) (message : String)
  | entitlement (message : String)
  /-- A text is not a policy. -/
  | notPolicy
  /-- A text is not the wire form of what it should be. -/
  | notWireForm
  deriving DecidableEq, Repr

namespace Error

/-- The words for an error. -/
def message : Error → String
  | .alreadyQueued branch number =>
    "pull request #" ++ toString number.toNat ++ " is already queued on " ++ branch
  | .wrongBranch branch target number =>
    "pull request #" ++ toString number.toNat ++ " targets " ++ target ++ ", not " ++ branch
  | .pullNotQueued number => "pull request #" ++ toString number.toNat ++ " is not queued"
  | .config cause => "configuration error: " ++ cause.message
  | .platform text => "platform error: " ++ text
  | .branchUpdate title text => title ++ ": " ++ text
  | .mergeRejected status text =>
    "merge rejected (" ++ toString status.toNat ++ "): " ++ text
  | .entitlement text => "entitlement lookup failed: " ++ text
  | .notPolicy => "not a policy"
  | .notWireForm => "not in wire form"

/-- The title of a failed branch update that has no other. -/
def defaultUpdateTitle : String :=
  "Base branch update has failed"

end Error

end MergeTrain
