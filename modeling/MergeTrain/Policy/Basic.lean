import MergeTrain.Error
import MergeTrain.MergeConfig
import MergeTrain.NameMap
import MergeTrain.Text.Decimal

/-!
# Policies

What the owner of a repository has chosen: how pull requests are merged, how long they may wait,
for how long subscriptions are remembered, and whose merges count as automatic.

## Main definitions

* `Policy` — the choices.
* `StrictMode.ofWord`, `Priority.ofText` — all the ways in which two of them may be written.
* `QueueSettings.maxWait` — how long a pull request may wait on a branch.
* `QueueSettings.validate` — no limit may be zero.
-/

namespace MergeTrain

/-- The mode that a word stands for, in its present spelling or an older one. -/
def StrictMode.ofWord (word : String) : Except ConfigError StrictMode :=
  match word with
  | "false" | "disabled" => .ok .disabled
  | "true" | "continuous" => .ok .continuous
  | "smart" | "smart+ordered" | "ordered" => .ok .ordered
  | "smart+fastpath" | "smart+fasttrack" | "fasttrack" => .ok .fastTrack
  | _ => .error (.unknownStrictMode word)

namespace Priority

/-- The priority with a given weight, which must be between one and the highest. -/
def ofInt (value : Int) : Except ConfigError Priority :=
  if 1 ≤ value ∧ value ≤ (highest.weight.toNat : Int) then .ok ⟨UInt32.ofNat value.toNat⟩
  else .error (.priorityOutOfRange value)

/-- The priority that a text stands for: a name, or a weight. -/
def ofText (text : String) : Except ConfigError Priority :=
  match ofAlias? text with
  | some p => .ok p
  | none =>
    match Text.readInt64? text.toList with
    | some value => ofInt value
    | none => .error (.unknownPriority text)

end Priority

/-- The limits of one branch. -/
structure BranchSettings where
  /-- How long a pull request may wait. -/
  maxWaitMinutes : Option UInt32 := none
  deriving DecidableEq

/-- The limits of queues. -/
structure QueueSettings where
  /-- How long a pull request may wait, on branches without a limit of their own. -/
  maxWaitMinutes : Option UInt32 := none
  branches : NameMap BranchSettings := .empty
  deriving DecidableEq

namespace QueueSettings

/-- How many minutes a pull request may wait on a branch; no limit without them. -/
def maxWait (s : QueueSettings) (branch : String) : Option UInt32 :=
  ((s.branches.get? branch).bind BranchSettings.maxWaitMinutes).or s.maxWaitMinutes

/-- Refuse a limit of no minutes, the general one first, then in the order of the branches. -/
def validate (s : QueueSettings) : Except ConfigError Unit :=
  if s.maxWaitMinutes = some 0 then .error (.zeroMaxWait none)
  else
    match s.branches.entries.find? fun e => e.2.maxWaitMinutes = some 0 with
    | some (branch, _) => .error (.zeroMaxWait (some branch))
    | none => .ok ()

end QueueSettings

/-- For how long subscriptions are remembered. -/
structure EntitlementSettings where
  /-- For how long one is used without asking again. -/
  cacheValiditySeconds : UInt32 := 3600
  /-- For how long one is used when asking fails. -/
  cacheRetentionSeconds : UInt32 := 259200
  deriving DecidableEq

/-- The login that merges unless another one is configured. -/
def defaultBot : String :=
  "mergeq[bot]"

/-- How reports are worded. -/
structure ReportingSettings where
  /-- The logins whose merges are reported as automatic. -/
  botIdentities : List String := [defaultBot]
  deriving DecidableEq

/-- What the owner of a repository has chosen. -/
structure Policy where
  merge : MergeConfig := {}
  queue : QueueSettings := {}
  entitlements : EntitlementSettings := {}
  reporting : ReportingSettings := {}
  deriving DecidableEq

end MergeTrain
