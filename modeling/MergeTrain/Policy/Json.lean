import MergeTrain.Json.Fields
import MergeTrain.Policy.Basic

/-!
# Policies on the wire

The JSON form of policies and of their parts. Records are closed: a field that they do not have is
an error.
-/

namespace MergeTrain

open Json

namespace BranchSettings

/-- The wire form. -/
def toJson (s : BranchSettings) : Json :=
  .object [("max_wait_minutes", .ofOption (fun n => .nat n.toNat) s.maxWaitMinutes)]

/-- A wire value read back. -/
def ofJson? (j : Json) : Option BranchSettings := do
  let [maxWait] ← j.fields? [("max_wait_minutes", .optional)] true | none
  return { maxWaitMinutes := ← orNone uint32? maxWait }

end BranchSettings

namespace QueueSettings

/-- The entry for the branches, left out when there are none. -/
def branchesEntry (s : QueueSettings) : List (String × Json) :=
  if s.branches.isEmpty then []
  else [("branches", .object (s.branches.entries.map fun e => (e.1, e.2.toJson)))]

/-- The wire form. -/
def toJson (s : QueueSettings) : Json :=
  .object
    (("max_wait_minutes", .ofOption (fun n => .nat n.toNat) s.maxWaitMinutes) :: s.branchesEntry)

/-- The branches of a wire value; the last entry of a branch counts. -/
def branches? (j : Json) : Option (NameMap BranchSettings) :=
  (j.entries? BranchSettings.ofJson?).map NameMap.ofList

/-- A wire value read back. -/
def ofJson? (j : Json) : Option QueueSettings := do
  let [maxWait, branches] ←
    j.fields? [("max_wait_minutes", .optional), ("branches", .defaulted)] true | none
  return {
    maxWaitMinutes := ← orNone uint32? maxWait
    branches := ← orElse .empty branches? branches }

end QueueSettings

namespace EntitlementSettings

/-- The wire form. -/
def toJson (s : EntitlementSettings) : Json :=
  .object
    [("cache_validity_seconds", .nat s.cacheValiditySeconds.toNat),
      ("cache_retention_seconds", .nat s.cacheRetentionSeconds.toNat)]

/-- A wire value read back. -/
def ofJson? (j : Json) : Option EntitlementSettings := do
  let [validity, retention] ←
    j.fields? [("cache_validity_seconds", .defaulted), ("cache_retention_seconds", .defaulted)] true
    | none
  let fallback : EntitlementSettings := {}
  return {
    cacheValiditySeconds := ← orElse fallback.cacheValiditySeconds uint32? validity
    cacheRetentionSeconds := ← orElse fallback.cacheRetentionSeconds uint32? retention }

end EntitlementSettings

namespace ReportingSettings

/-- The wire form. -/
def toJson (s : ReportingSettings) : Json :=
  .object [("bot_identities", .array (s.botIdentities.map .string))]

/-- A wire value read back. -/
def ofJson? (j : Json) : Option ReportingSettings := do
  let [bots] ← j.fields? [("bot_identities", .defaulted)] true | none
  return { botIdentities := ← orElse [defaultBot] (list? text?) bots }

end ReportingSettings

/-- The wire form of a policy. -/
def Policy.toJson (p : Policy) : Json :=
  .object
    [("merge", p.merge.toJson), ("queue", p.queue.toJson),
      ("entitlements", p.entitlements.toJson), ("reporting", p.reporting.toJson)]

end MergeTrain
