import MergeTrain.Report.Basic
import MergeTrain.Standing
import MergeTrain.Subscription

/-!
# Plans

The next step of a queued pull request, worked out from what is known about it. Nothing is done
here.

## Main definitions

* `EvictionReason`, `Decision` — what can be decided.
* `Facts`, `Facts.decision` — the decision.
* `MergeConfig.mergeMethod`, `MergeConfig.effectivePriority` — choices that other facts override.
* `MergeConfig.refusal` — choices that the owner has not paid for.
-/

namespace MergeTrain

/-- Why a pull request leaves a queue without being merged. -/
inductive EvictionReason where
  /-- Its rule no longer matches and its checks have ended. -/
  | ruleUnmatched
  /-- It has waited longer than its branch allows. -/
  | expired
  deriving DecidableEq, Repr

namespace EvictionReason

/-- The reason in words. -/
def text : EvictionReason → String
  | .ruleUnmatched => "rule unmatched"
  | .expired => "expired"

/-- What is published. -/
def report : EvictionReason → StatusReport
  | .ruleUnmatched =>
    .concluded .cancelled "The pull request has been removed from the queue"
      "The pull request rule doesn't match anymore."
  | .expired =>
    .concluded .cancelled "The pull request has been removed from the queue after waiting too long"
      ("The pull request did not become mergeable within the maximum wait configured for its " ++
        "base branch.")

end EvictionReason

/-- The next step of a queued pull request. -/
inductive Decision where
  | merge (method : MergeMethod)
  /-- Bring the head branch up to date. -/
  | synchronize (method : UpdateMethod)
  | wait
  /-- Someone has to act first. -/
  | blocked (report : StatusReport)
  /-- Leave the queue. -/
  | evict (reason : EvictionReason)
  deriving DecidableEq, Repr

namespace Decision

/-- The decision in words. -/
def text : Decision → String
  | .merge method => "merge (" ++ Spelled.text method ++ ")"
  | .synchronize method => "synchronize (" ++ Spelled.text method ++ ")"
  | .wait => "wait"
  | .blocked report => "blocked: " ++ report.title
  | .evict reason => "evict (" ++ reason.text ++ ")"

/-- What is published about a pull request that leaves the queue by a decision. -/
def report? : Decision → Option StatusReport
  | .blocked report => some report
  | .evict reason => some reason.report
  | _ => none

end Decision

namespace MergeConfig

/-- The method to merge with. A rebase that the platform cannot do gives way to the fallback, and
without one there is no method. -/
def mergeMethod (config : MergeConfig) (rebaseable : Bool) : Option MergeMethod :=
  if config.method = .rebase ∧ rebaseable = false then
    match config.rebaseFallback with
    | .merge => some .merge
    | .squash => some .squash
    | .none => none
  else some config.method

/-- The priority that counts for the order of a queue: configured priorities have to be paid
for. -/
def effectivePriority (config : MergeConfig) (entitlements : Entitlements) (owner : Owner) :
    Priority :=
  if entitlements.allows owner.id .priorityQueues then config.priority else .medium

/-- The options that have to be paid for, and whether they are in use. -/
def gatedOptions (config : MergeConfig) : List (String × Bool) :=
  [("update_bot_account", config.updateBotAccount.isSome),
    ("merge_bot_account", config.mergeBotAccount.isSome)]

/-- The report on the first option in use that the owner has not paid for. -/
def refusal (config : MergeConfig) (entitlements : Entitlements) (owner : Owner) :
    Option StatusReport :=
  if entitlements.allows owner.id .mergeBotAccount then none
  else
    (config.gatedOptions.find? Prod.snd).map fun option =>
      .concluded .actionRequired ("Merge with `" ++ option.1 ++ "` set is disabled")
        (entitlements.advice owner.login)

end MergeConfig

/-- What is known about a pull request when its next step is planned. -/
structure Facts where
  number : UInt64
  /-- The head branch lacks commits of the base branch. -/
  isBehind : Bool
  /-- The platform can rebase the pull request. -/
  rebaseable : Bool
  /-- It has waited too long. -/
  expired : Bool
  /-- A merge may be decided; not so while the rule does not match. -/
  allowMerge : Bool
  config : MergeConfig

namespace Facts

/-- Where the pull request stands in a queue. -/
def standing (f : Facts) (queue : Queue) : Standing :=
  { number := f.number, isBehind := f.isBehind, strict := f.config.strict, queue }

/-- The report on a pull request that cannot be rebased. -/
def notRebaseable : StatusReport :=
  .concluded .actionRequired "Automatic rebasing is not possible, manual intervention required" ""

/-- The next step. -/
def decision (f : Facts) (queue : Queue) : Decision :=
  if f.expired then .evict .expired
  else if (f.standing queue).shouldMerge then
    if f.allowMerge then
      match f.config.mergeMethod f.rebaseable with
      | some method => .merge method
      | none => .blocked notRebaseable
    else .wait
  else if (f.standing queue).shouldUpdate then .synchronize f.config.updateMethod
  else .wait

end Facts

end MergeTrain
