import MergeTrain.Instant.Rfc3339
import MergeTrain.Json.Reader
import MergeTrain.Pull.Json
import MergeTrain.Scenario.Basic

/-!
# Scenario files

A scenario file is one JSON record. Only the pull request has to be there, and a field that
scenarios do not have is an error; the parts of a scenario skip what they do not know.
-/

namespace MergeTrain

open Json

/-- An instant as text. -/
def Instant.ofJson? (j : Json) : Option Instant :=
  j.text?.bind Instant.ofText?

/-- A rule read from its wire form. -/
def ScenarioRule.ofJson? (j : Json) : Option ScenarioRule := do
  let [name, conditions, missing] ←
    j.fields? [("name", .required), ("conditions", .required), ("missing", .defaulted)] false | none
  return {
    name := ← required text? name
    conditions := ← required (list? text?) conditions
    missing := ← orElse [] (list? text?) missing }

/-- An entry read from its wire form. -/
def ScenarioEntry.ofJson? (j : Json) : Option ScenarioEntry := do
  let [number, priority, enqueuedAt] ←
    j.fields? [("number", .required), ("priority", .defaulted), ("enqueued_at", .required)] false
    | none
  return {
    number := ← required uint64? number
    priority := ← orElse .medium Priority.ofJson? priority
    enqueuedAt := ← required Instant.ofJson? enqueuedAt }

/-- A subscription read from its wire form. -/
def ScenarioSubscription.ofJson? (j : Json) : Option ScenarioSubscription := do
  let [active, features] ←
    j.fields? [("active", .defaulted), ("features", .defaulted)] false | none
  return {
    active := ← orElse false bool? active
    features := ← orElse [] (list? text?) features }

/-- A check run read from its wire form. -/
def CheckRun.ofJson? (j : Json) : Option CheckRun := do
  let [name, status, conclusion] ←
    j.fields? [("name", .required), ("status", .required), ("conclusion", .defaulted)] false | none
  return {
    name := ← required text? name
    status := ← required text? status
    conclusion := ← orNone text? conclusion }

/-- A commit status read from its wire form. -/
def CommitStatus.ofJson? (j : Json) : Option CommitStatus := do
  let [context, state] ← j.fields? [("context", .required), ("state", .required)] false | none
  return { context := ← required text? context, state := ← required text? state }

/-- A refusal read from its wire form. -/
def Refusal.ofJson? (j : Json) : Option Refusal := do
  let [status, message] ← j.fields? [("status", .required), ("message", .required)] false | none
  return { status := ← required uint16? status, message := ← required text? message }

namespace Scenario

/-- The fields, in order. -/
def shape : Shape :=
  [("pull", .required), ("is_behind", .defaulted), ("synchronized", .defaulted),
    ("checks", .defaulted), ("check_runs", .defaulted), ("commit_statuses", .defaulted),
    ("required_checks", .defaulted), ("rule", .defaulted), ("rule_matches", .defaulted),
    ("queue", .defaulted), ("subscription", .defaulted), ("branch_update_error", .defaulted),
    ("pull_after_update", .defaulted), ("merge_error", .defaulted), ("now", .defaulted)]

/-- A scenario read from its wire form. -/
def ofJson? (j : Json) : Option Scenario := do
  let [pull, isBehind, synchronized, checks, checkRuns, commitStatuses, requiredChecks, rule,
    ruleMatches, queue, subscription, updateError, pullAfterUpdate, mergeError, now] ←
    j.fields? shape true | none
  return {
    pull := ← required PullSnapshot.ofJson? pull
    isBehind := ← orElse false bool? isBehind
    synchronized := ← orElse false bool? synchronized
    checks := ← orNone CheckStates.ofJson? checks
    checkRuns := ← orElse [] (list? CheckRun.ofJson?) checkRuns
    commitStatuses := ← orElse [] (list? CommitStatus.ofJson?) commitStatuses
    requiredChecks := ← orElse [] (list? text?) requiredChecks
    rule := ← orNone ScenarioRule.ofJson? rule
    ruleMatches := ← orElse true bool? ruleMatches
    queue := ← orElse [] (list? ScenarioEntry.ofJson?) queue
    subscription := ← orElse {} ScenarioSubscription.ofJson? subscription
    updateError := ← orNone text? updateError
    pullAfterUpdate := ← orNone PullSnapshot.ofJson? pullAfterUpdate
    mergeError := ← orNone Refusal.ofJson? mergeError
    now := ← orNone Instant.ofJson? now }

/-- The scenario of a file's text. -/
def ofText (text : String) : Except Error Scenario :=
  match (Json.read? text).bind ofJson? with
  | some s => .ok s
  | none => .error .notWireForm

end Scenario

end MergeTrain
