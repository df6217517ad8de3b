import MergeTrain.Policy.Basic
import MergeTrain.Toml.Fields
import MergeTrain.Toml.Printer
import MergeTrain.Toml.Reader

/-!
# Policy documents

A policy is written as a TOML document. Some choices may be written in more than one way: they are
read as they stand first and brought to their one form then, so that a document of the wrong shape
is told from one with a wrong value.

## Main definitions

* `WrittenPolicy`, `WrittenPolicy.ofToml?` — a policy as it is written.
* `WrittenPolicy.normalize` — the policy that it denotes.
* `Policy.ofToml`, `Policy.toToml` — documents as values.
* `Policy.ofText`, `Policy.render` — documents as texts.
-/

namespace MergeTrain

open Toml

/-! ### Choices in several spellings -/

/-- A strict mode as it is written. -/
inductive WrittenStrict where
  | flag (on : Bool)
  | word (word : String)

namespace WrittenStrict

/-- A strict mode read from a document. -/
def ofToml? : Toml → Option WrittenStrict
  | .bool on => some (.flag on)
  | .text s => some (.word s)
  | _ => none

/-- The mode that is meant. -/
def normalize : WrittenStrict → Except ConfigError StrictMode
  | .flag on => .ok (if on then .continuous else .disabled)
  | .word s => StrictMode.ofWord s

end WrittenStrict

/-- A priority as it is written. -/
inductive WrittenPriority where
  | weight (value : Int)
  | word (word : String)

namespace WrittenPriority

/-- A priority read from a document. -/
def ofToml? : Toml → Option WrittenPriority
  | .integer n => some (.weight n)
  | .text s => some (.word s)
  | _ => none

/-- The priority that is meant. -/
def normalize : WrittenPriority → Except ConfigError Priority
  | .weight value => Priority.ofInt value
  | .word s => Priority.ofText s

end WrittenPriority

/-! ### Sections -/

/-- The choices about merging as they are written. -/
structure WrittenMerge where
  method : Option MergeMethod := none
  rebaseFallback : Option RebaseFallback := none
  strict : Option WrittenStrict := none
  updateMethod : Option UpdateMethod := none
  priority : Option WrittenPriority := none
  commitMessage : Option CommitMessageMode := none
  botAccount : Option String := none
  updateBotAccount : Option String := none
  mergeBotAccount : Option String := none

namespace WrittenMerge

/-- The fields, in order. -/
def shape : Json.Shape :=
  [("method", .optional), ("rebase_fallback", .optional), ("strict", .optional),
    ("strict_method", .optional), ("priority", .optional), ("commit_message", .optional),
    ("bot_account", .optional), ("update_bot_account", .optional),
    ("merge_bot_account", .optional)]

/-- The choices read from a document. -/
def ofToml? (t : Toml) : Option WrittenMerge := do
  let [method, rebaseFallback, strict, updateMethod, priority, commitMessage, botAccount,
    updateBotAccount, mergeBotAccount] ← t.fields? shape | none
  return {
    method := ← orNone Spelled.ofToml? method
    rebaseFallback := ← orNone Spelled.ofToml? rebaseFallback
    strict := ← orNone WrittenStrict.ofToml? strict
    updateMethod := ← orNone Spelled.ofToml? updateMethod
    priority := ← orNone WrittenPriority.ofToml? priority
    commitMessage := ← orNone Spelled.ofToml? commitMessage
    botAccount := ← orNone text? botAccount
    updateBotAccount := ← orNone text? updateBotAccount
    mergeBotAccount := ← orNone text? mergeBotAccount }

/-- The choices that are meant. What is not written has its default. -/
def normalize (w : WrittenMerge) : Except ConfigError MergeConfig := do
  let fallback : MergeConfig := {}
  let strict ← match w.strict with
    | none => pure fallback.strict
    | some strict => strict.normalize
  let priority ← match w.priority with
    | none => pure fallback.priority
    | some priority => priority.normalize
  return {
    method := w.method.getD fallback.method
    rebaseFallback := w.rebaseFallback.getD fallback.rebaseFallback
    strict
    updateMethod := w.updateMethod.getD fallback.updateMethod
    priority
    botAccount := w.botAccount
    updateBotAccount := w.updateBotAccount
    mergeBotAccount := w.mergeBotAccount
    commitMessage := w.commitMessage.getD fallback.commitMessage }

end WrittenMerge

/-- An entry for a field that may be absent. -/
def optionalEntry (key : String) (v : Option Toml) : List (String × Toml) :=
  match v with
  | none => []
  | some v => [(key, v)]

/-- The document form of the choices about merging. -/
def MergeConfig.toToml (c : MergeConfig) : Toml :=
  .table
    ([("method", Spelled.toToml c.method), ("rebase_fallback", Spelled.toToml c.rebaseFallback),
        ("strict", Spelled.toToml c.strict), ("strict_method", Spelled.toToml c.updateMethod),
        ("priority", .integer c.priority.weight.toNat)] ++
      optionalEntry "bot_account" (c.botAccount.map .text) ++
      optionalEntry "update_bot_account" (c.updateBotAccount.map .text) ++
      optionalEntry "merge_bot_account" (c.mergeBotAccount.map .text) ++
      [("commit_message", Spelled.toToml c.commitMessage)])

/-- The entry for a limit. -/
def limitEntry (minutes : Option UInt32) : List (String × Toml) :=
  optionalEntry "max_wait_minutes" (minutes.map fun n => .integer n.toNat)

namespace BranchSettings

/-- The document form. -/
def toToml (s : BranchSettings) : Toml :=
  .table (limitEntry s.maxWaitMinutes)

/-- The limits of a branch read from a document. -/
def ofToml? (t : Toml) : Option BranchSettings := do
  let [maxWait] ← t.fields? [("max_wait_minutes", .optional)] | none
  return { maxWaitMinutes := ← orNone uint32? maxWait }

end BranchSettings

namespace QueueSettings

/-- The document form. -/
def toToml (s : QueueSettings) : Toml :=
  .table
    (limitEntry s.maxWaitMinutes ++
      optionalEntry "branches"
        (if s.branches.isEmpty then none
          else some (.table (s.branches.entries.map fun e => (e.1, e.2.toToml)))))

/-- The branches of a document. -/
def tomlBranches? (t : Toml) : Option (NameMap BranchSettings) :=
  (t.entries? BranchSettings.ofToml?).map NameMap.ofList

/-- The limits read from a document. -/
def ofToml? (t : Toml) : Option QueueSettings := do
  let [maxWait, branches] ←
    t.fields? [("max_wait_minutes", .optional), ("branches", .defaulted)] | none
  return {
    maxWaitMinutes := ← orNone uint32? maxWait
    branches := ← orElse .empty tomlBranches? branches }

end QueueSettings

namespace EntitlementSettings

/-- The document form. -/
def toToml (s : EntitlementSettings) : Toml :=
  .table
    [("cache_validity_seconds", .integer s.cacheValiditySeconds.toNat),
      ("cache_retention_seconds", .integer s.cacheRetentionSeconds.toNat)]

/-- The settings read from a document. -/
def ofToml? (t : Toml) : Option EntitlementSettings := do
  let [validity, retention] ←
    t.fields? [("cache_validity_seconds", .defaulted), ("cache_retention_seconds", .defaulted)]
    | none
  let fallback : EntitlementSettings := {}
  return {
    cacheValiditySeconds := ← orElse fallback.cacheValiditySeconds uint32? validity
    cacheRetentionSeconds := ← orElse fallback.cacheRetentionSeconds uint32? retention }

end EntitlementSettings

namespace ReportingSettings

/-- The document form. -/
def toToml (s : ReportingSettings) : Toml :=
  .table [("bot_identities", .array (s.botIdentities.map .text))]

/-- The settings read from a document. -/
def ofToml? (t : Toml) : Option ReportingSettings := do
  let [bots] ← t.fields? [("bot_identities", .defaulted)] | none
  return { botIdentities := ← orElse [defaultBot] (list? text?) bots }

end ReportingSettings

/-! ### Policies -/

/-- A policy as it is written. -/
structure WrittenPolicy where
  merge : WrittenMerge := {}
  queue : QueueSettings := {}
  entitlements : EntitlementSettings := {}
  reporting : ReportingSettings := {}

namespace WrittenPolicy

/-- The fields, in order. -/
def shape : Json.Shape :=
  [("merge", .defaulted), ("queue", .defaulted), ("entitlements", .defaulted),
    ("reporting", .defaulted)]

/-- A policy read from a document. -/
def ofToml? (t : Toml) : Option WrittenPolicy := do
  let [merge, queue, entitlements, reporting] ← t.fields? shape | none
  return {
    merge := ← orElse {} WrittenMerge.ofToml? merge
    queue := ← orElse {} QueueSettings.ofToml? queue
    entitlements := ← orElse {} EntitlementSettings.ofToml? entitlements
    reporting := ← orElse {} ReportingSettings.ofToml? reporting }

/-- The policy that is meant. Limits are looked at first, then the choices about merging. -/
def normalize (w : WrittenPolicy) : Except ConfigError Policy := do
  w.queue.validate
  let merge ← w.merge.normalize
  return { merge, queue := w.queue, entitlements := w.entitlements, reporting := w.reporting }

end WrittenPolicy

namespace Policy

/-- The document form. -/
def toToml (p : Policy) : Toml :=
  .table
    [("merge", p.merge.toToml), ("queue", p.queue.toToml),
      ("entitlements", p.entitlements.toToml), ("reporting", p.reporting.toToml)]

/-- The policy of a document. -/
def ofToml (t : Toml) : Except Error Policy :=
  match WrittenPolicy.ofToml? t with
  | none => .error .notPolicy
  | some written => written.normalize.mapError .config

/-- The policy that a text denotes. -/
def ofText (text : String) : Except Error Policy :=
  match Toml.ofText? text with
  | none => .error .notPolicy
  | some t => ofToml t

/-- The policy as a text. -/
def render (p : Policy) : String :=
  p.toToml.render

end Policy

end MergeTrain
