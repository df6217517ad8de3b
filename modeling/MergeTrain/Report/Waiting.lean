import MergeTrain.Queue
import MergeTrain.Report.Basic
import MergeTrain.Rule
import MergeTrain.Subscription

/-!
# Reports on waiting pull requests

What is published while a pull request waits in its queue or is brought up to date: its place, the
queue around it and the conditions that it has to meet.

## Main definitions

* `queueSummary` — the queue, grouped by configured priority.
* `checklist` — the conditions of a rule.
* `strictStatus`, `waitingStatus` — the reports.
-/

namespace MergeTrain

/-- Neighbours of equal configured priority together, as that priority and their numbers. -/
def priorityGroups : List QueueEntry → List (Priority × List UInt64)
  | [] => []
  | e :: rest =>
    match priorityGroups rest with
    | [] => [(e.config.priority, [e.number])]
    | (priority, numbers) :: others =>
      if e.config.priority = priority then (priority, e.number :: numbers) :: others
      else (e.config.priority, [e.number]) :: (priority, numbers) :: others

/-- The line of a group. -/
def groupLine (group : Priority × List UInt64) : String :=
  "\n* " ++ ", ".intercalate (group.2.map numberText) ++ " (priority: " ++ group.1.text ++ ")"

/-- Whether some entry is configured with another priority than the default one. -/
def configuresPriority (entries : List QueueEntry) : Bool :=
  entries.any fun e => e.config.priority != .medium

/-- What is said when configured priorities do not count. -/
def priorityWarning (entitlements : Entitlements) (owner : Owner) (entries : List QueueEntry) :
    String :=
  if configuresPriority entries && !entitlements.allows owner.id .priorityQueues then
    "\n\n⚠ *Ignoring merge priority*\n" ++ entitlements.advice owner.login
  else ""

/-- The queue as a list, grouped by configured priority. There is nothing to say about an empty
one. -/
def queueSummary (entitlements : Entitlements) (queue : Queue) (owner : Owner) : String :=
  if queue.isEmpty then ""
  else
    "\n\nThe following pull requests are queued:" ++
      String.join ((priorityGroups queue.entries).map groupLine) ++
      priorityWarning entitlements owner queue.entries

/-- The item of a condition in a checklist. -/
def checklistItem (rule : Rule) (c : Condition) : String :=
  "\n- [" ++ (if rule.isMissing c then " " else "X") ++ "] `" ++ c.text ++ "`"

/-- The conditions of a rule, those that are met with a cross. -/
def checklist (rule : Option Rule) : String :=
  match rule with
  | none => ""
  | some rule =>
    "\n\nRequired conditions for merge:\n" ++
      String.join (rule.conditions.map (checklistItem rule))

/-- The report before an update of the head branch, or after it. -/
def strictStatus (entitlements : Entitlements) (queue : Queue) (owner : Owner) (needUpdate : Bool)
    (rule : Option Rule) : StatusReport :=
  let listing := queueSummary entitlements queue owner
  if needUpdate then
    .pending "Base branch will be updated soon"
      ("The pull request base branch will be updated soon and then merged." ++ listing)
  else
    .pending "Base branch update done"
      ("The pull request has been automatically updated to follow its base branch and will be " ++
        "merged soon." ++ listing ++ checklist rule)

/-- The title for a pull request that waits. -/
def waitingTitle (queue : Queue) (number : UInt64) (strict : StrictMode) (isBehind : Bool) :
    String :=
  if strict.reportsPosition then
    match queue.position? number with
    | some place =>
      "The pull request is the " ++ ordinal (place + 1) ++ " in the queue to be merged"
    | none => "The pull request is queued to be merged"
  else if strict.isEnabled && isBehind then
    "The pull request will be updated with its base branch soon"
  else "The pull request will be merged soon"

/-- The report on a pull request that waits for its turn or for checks. -/
def waitingStatus (entitlements : Entitlements) (queue : Queue) (number : UInt64) (owner : Owner)
    (strict : StrictMode) (isBehind : Bool) (rule : Option Rule) : StatusReport :=
  let announced :=
    if strict.reportsPosition && isBehind then
      "\nThe pull request base branch will be updated before being merged."
    else ""
  .pending (waitingTitle queue number strict isBehind)
    (announced ++ queueSummary entitlements queue owner ++ checklist rule)

end MergeTrain
