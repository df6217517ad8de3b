import MergeTrain.Proofs.Policy.Bounds
import MergeTrain.Proofs.Spelled
import MergeTrain.Proofs.Toml.Document

/-!
# Policies read back

A policy is read in many spellings and written in one. Reading looks at the fields of a document one
by one and normalises them, writing lays the policy down field by field, and nothing but agreement
in every field keeps the two from drifting apart: a name of a field, a word for a mode, a section
that is left out when it is empty.

A policy that was read is within its bounds. Within its bounds it is read back from its document,
and this needs nothing about texts: any way of writing documents would do that is read back as the
same document. The way that documents are written here is one, for every policy: its document is
made of tables, its values are words, numbers of sixty-four bits and lists of texts, and the names
of accounts and branches may be any texts.

## Main definitions

* `MergeConfig.written`, `Policy.written` — what is read from the document of a policy.

## Main results

* `Policy.ofToml?_toToml` — a policy is read back from its document, before it is normalised.
* `Policy.WithinBounds.ofToml_toToml` — and after, within its bounds.
* `Policy.tabular` — its document is one that is read back from its text.
* `Policy.reads_back_what_it_writes` — so a policy that was read is read back from its text.
-/

namespace MergeTrain

open Toml

/-! ### Fields -/

namespace Toml

theorem orNone_toToml {α : Type} [Spelled α] [LawfulSpelled α] (a : α) :
    orNone Spelled.ofToml? (some (Spelled.toToml a)) = some (some a) := by
  simp [orNone, Spelled.toToml, Spelled.ofToml?, Spelled.ofText?, Spelled.lookup_words]

theorem orNone_text?_map (s : Option String) : orNone text? (s.map .text) = some s := by
  cases s <;> rfl

theorem uint32?_toNat (n : UInt32) : uint32? (.integer n.toNat) = some n := by
  have hlt := n.toNat_lt
  simp [uint32?]
  omega

theorem orNone_uint32?_map (n : Option UInt32) :
    orNone uint32? (n.map fun n => .integer n.toNat) = some n := by
  cases n with
  | none => rfl
  | some n => simp [orNone, uint32?_toNat]

theorem orElse_some {α : Type} (fallback : α) (read : Toml → Option α) (v : Toml) :
    orElse fallback read (some v) = read v :=
  rfl

theorem list?_text?_map (texts : List String) :
    list? text? (.array (texts.map .text)) = some texts := by
  induction texts with
  | nil => rfl
  | cons s texts ih => simp_all [list?, text?]

end Toml

/-! ### Choices about merging -/

namespace MergeConfig

/-- The choices as they are written. -/
def written (c : MergeConfig) : WrittenMerge where
  method := some c.method
  rebaseFallback := some c.rebaseFallback
  strict := some (.word (Spelled.text c.strict))
  updateMethod := some c.updateMethod
  priority := some (.weight c.priority.weight.toNat)
  commitMessage := some c.commitMessage
  botAccount := c.botAccount
  updateBotAccount := c.updateBotAccount
  mergeBotAccount := c.mergeBotAccount

theorem fields?_toToml (c : MergeConfig) :
    c.toToml.fields? WrittenMerge.shape =
      some [some (Spelled.toToml c.method), some (Spelled.toToml c.rebaseFallback),
        some (Spelled.toToml c.strict), some (Spelled.toToml c.updateMethod),
        some (.integer c.priority.weight.toNat), some (Spelled.toToml c.commitMessage),
        c.botAccount.map .text, c.updateBotAccount.map .text, c.mergeBotAccount.map .text] := by
  obtain ⟨method, fallback, strict, update, priority, bot, updateBot, mergeBot, message⟩ := c
  cases bot <;> cases updateBot <;> cases mergeBot <;> rfl

theorem ofToml?_toToml (c : MergeConfig) : WrittenMerge.ofToml? c.toToml = some c.written := by
  have hmethod := orNone_toToml c.method
  have hfallback := orNone_toToml c.rebaseFallback
  have hstrict : orNone WrittenStrict.ofToml? (some (Spelled.toToml c.strict)) =
      some c.written.strict := rfl
  have hupdate := orNone_toToml c.updateMethod
  have hpriority : orNone WrittenPriority.ofToml? (some (.integer c.priority.weight.toNat)) =
      some c.written.priority := rfl
  have hmessage := orNone_toToml c.commitMessage
  rw [WrittenMerge.ofToml?, fields?_toToml]
  simp only [Option.bind_eq_bind, Option.bind_some, hmethod, hfallback, hstrict, hupdate, hpriority,
    hmessage, orNone_text?_map]
  rfl

/-- Every mode is written in a word that is read as it, so only the priority can be refused. -/
theorem normalize_written (c : MergeConfig) (hpriority : c.priority.WithinBounds) :
    c.written.normalize = .ok c := by
  have hstrict : StrictMode.ofWord (Spelled.text c.strict) = .ok c.strict := by
    cases c.strict <;> rfl
  simp only [WrittenMerge.normalize, written, WrittenStrict.normalize, hstrict,
    WrittenPriority.normalize, hpriority.ofInt_toNat]
  rfl

end MergeConfig

/-! ### Other sections -/

theorem BranchSettings.ofToml?_toToml (s : BranchSettings) : ofToml? s.toToml = some s := by
  have hfields : s.toToml.fields? [("max_wait_minutes", .optional)] =
      some [s.maxWaitMinutes.map fun n => .integer n.toNat] := by
    obtain ⟨_ | n⟩ := s <;> rfl
  rw [ofToml?, hfields]
  simp [orNone_uint32?_map]

namespace QueueSettings

theorem tomlBranches?_table (branches : NameMap BranchSettings) :
    tomlBranches? (.table (branches.entries.map fun e => (e.1, e.2.toToml))) = some branches := by
  have hread : ∀ l : List (String × BranchSettings),
      (l.map fun e => (e.1, e.2.toToml)).mapM
        (fun e => (BranchSettings.ofToml? e.2).map fun s => (e.1, s)) = some l := by
    intro l
    induction l with
    | nil => rfl
    | cons e l ih => simp [BranchSettings.ofToml?_toToml, ih]
  simp [tomlBranches?, entries?, hread, NameMap.ofList_entries]

/-- The table of the branches, which is left out if there are none. -/
def branchTable? (s : QueueSettings) : Option Toml :=
  if s.branches.isEmpty then none
  else some (.table (s.branches.entries.map fun e => (e.1, e.2.toToml)))

theorem toToml_eq (s : QueueSettings) :
    s.toToml =
      .table (limitEntry s.maxWaitMinutes ++ optionalEntry "branches" s.branchTable?) :=
  rfl

theorem fields?_toToml (s : QueueSettings) :
    s.toToml.fields? [("max_wait_minutes", .optional), ("branches", .defaulted)] =
      some [s.maxWaitMinutes.map fun n => .integer n.toNat, s.branchTable?] := by
  rw [toToml_eq]
  cases s.maxWaitMinutes <;> cases s.branchTable? <;> rfl

theorem orElse_branchTable? (s : QueueSettings) :
    orElse .empty tomlBranches? s.branchTable? = some s.branches := by
  unfold branchTable?
  split
  next hempty =>
    have hentries : s.branches.entries = [] := List.isEmpty_iff.mp hempty
    exact congrArg some (NameMap.ext hentries.symm)
  next => exact tomlBranches?_table s.branches

theorem ofToml?_toToml (s : QueueSettings) : ofToml? s.toToml = some s := by
  rw [ofToml?, fields?_toToml]
  simp [orNone_uint32?_map, orElse_branchTable?]

end QueueSettings

namespace EntitlementSettings

/-- The settings read from fields of any kind. Stated for the fields of a document only, it would
have the kernel compare numbers with the bound on them. -/
theorem ofToml?_of_fields {t : Toml} {validity retention : Option Toml} {s : EntitlementSettings}
    (hfields : t.fields?
      [("cache_validity_seconds", .defaulted), ("cache_retention_seconds", .defaulted)] =
        some [validity, retention])
    (hvalidity : ∀ fallback, orElse fallback uint32? validity = some s.cacheValiditySeconds)
    (hretention : ∀ fallback, orElse fallback uint32? retention = some s.cacheRetentionSeconds) :
    ofToml? t = some s := by
  rw [ofToml?, hfields]
  simp only [Option.bind_eq_bind, Option.bind_some, hvalidity, hretention, Option.pure_def]

theorem ofToml?_toToml (s : EntitlementSettings) : ofToml? s.toToml = some s :=
  ofToml?_of_fields rfl
    (fun _ => (orElse_some _ _ _).trans (uint32?_toNat s.cacheValiditySeconds))
    (fun _ => (orElse_some _ _ _).trans (uint32?_toNat s.cacheRetentionSeconds))

end EntitlementSettings

theorem ReportingSettings.ofToml?_toToml (s : ReportingSettings) : ofToml? s.toToml = some s := by
  have hfields : s.toToml.fields? [("bot_identities", .defaulted)] =
      some [some (.array (s.botIdentities.map .text))] := rfl
  rw [ofToml?, hfields]
  simp [orElse, list?_text?_map]

/-! ### Policies -/

/-- A policy read from sections of any kind, as for the settings of the cache. -/
theorem WrittenPolicy.ofToml?_of_fields {t : Toml}
    {merge queue entitlements reporting : Option Toml} {w : WrittenPolicy}
    (hfields : t.fields? shape = some [merge, queue, entitlements, reporting])
    (hmerge : ∀ fallback, orElse fallback WrittenMerge.ofToml? merge = some w.merge)
    (hqueue : ∀ fallback, orElse fallback QueueSettings.ofToml? queue = some w.queue)
    (hentitlements : ∀ fallback,
      orElse fallback EntitlementSettings.ofToml? entitlements = some w.entitlements)
    (hreporting : ∀ fallback,
      orElse fallback ReportingSettings.ofToml? reporting = some w.reporting) :
    ofToml? t = some w := by
  rw [ofToml?, hfields]
  simp only [Option.bind_eq_bind, Option.bind_some, hmerge, hqueue, hentitlements, hreporting,
    Option.pure_def]

namespace Policy

/-- The policy as it is written. -/
def written (p : Policy) : WrittenPolicy where
  merge := p.merge.written
  queue := p.queue
  entitlements := p.entitlements
  reporting := p.reporting

theorem ofToml?_toToml (p : Policy) : WrittenPolicy.ofToml? p.toToml = some p.written :=
  WrittenPolicy.ofToml?_of_fields rfl
    (fun _ => (orElse_some _ _ _).trans p.merge.ofToml?_toToml)
    (fun _ => (orElse_some _ _ _).trans p.queue.ofToml?_toToml)
    (fun _ => (orElse_some _ _ _).trans p.entitlements.ofToml?_toToml)
    (fun _ => (orElse_some _ _ _).trans p.reporting.ofToml?_toToml)

theorem WithinBounds.normalize_written {p : Policy} (h : p.WithinBounds) :
    p.written.normalize = .ok p := by
  have hvalid : p.queue.validate = .ok () :=
    p.queue.validate_eq_ok_iff.mpr ⟨h.maxWait, h.branches⟩
  have hmerge : p.merge.written.normalize = .ok p.merge := p.merge.normalize_written h.priority
  simp only [WrittenPolicy.normalize, written, hvalid, hmerge]
  rfl

/-- **A policy within its bounds is read back from its document.** -/
theorem WithinBounds.ofToml_toToml {p : Policy} (h : p.WithinBounds) : ofToml p.toToml = .ok p := by
  rw [ofToml, ofToml?_toToml]
  simp only [h.normalize_written]
  rfl

end Policy

/-! ### Documents -/

namespace Toml

theorem isValue_integer (n : UInt32) : IsValue (.integer n.toNat) := by
  have hlt := n.toNat_lt
  simp only [IsValue, IsItem, Text.isInt64, Bool.and_eq_true, decide_eq_true_eq]
  omega

theorem isValue_of_mem_optionalEntry {key : String} {v : Option Toml}
    (hv : ∀ w ∈ v, IsValue w) : ∀ e ∈ optionalEntry key v, IsValue e.2 := by
  intro e he
  cases v with
  | none => cases he
  | some w =>
    obtain rfl := List.mem_singleton.mp he
    exact hv w rfl

theorem isValue_of_mem_limitEntry {limit : Option UInt32} :
    ∀ e ∈ limitEntry limit, IsValue e.2 := by
  refine isValue_of_mem_optionalEntry fun w hw => ?_
  obtain ⟨n, -, rfl⟩ := Option.mem_map.mp hw
  exact isValue_integer n

theorem nodup_limitEntry (limit : Option UInt32) : ((limitEntry limit).map Prod.fst).Nodup := by
  cases limit <;> simp [limitEntry, optionalEntry]

end Toml

theorem MergeConfig.tabular (c : MergeConfig) (depth : Nat) :
    ∃ entries, c.toToml = .table entries ∧ Tabular (depth + 1) entries := by
  have hword : ∀ {α : Type} [Spelled α] (a : α), IsValue (Spelled.toToml a) := fun _ => trivial
  have haccount : ∀ (key : String) (account : Option String),
      ∀ e ∈ optionalEntry key (account.map .text), IsValue e.2 := by
    refine fun key account => isValue_of_mem_optionalEntry fun w hw => ?_
    obtain ⟨s, -, rfl⟩ := Option.mem_map.mp hw
    trivial
  refine ⟨_, rfl, Tabular.of_values ?_ ?_ depth⟩
  · cases c.botAccount <;> cases c.updateBotAccount <;> cases c.mergeBotAccount <;>
      simp [optionalEntry]
  · simp only [List.forall_mem_append]
    exact ⟨⟨⟨⟨by simp [hword, isValue_integer], haccount _ _⟩, haccount _ _⟩, haccount _ _⟩,
      by simp [hword]⟩

namespace QueueSettings

theorem tabular_branches (s : QueueSettings) (depth : Nat) :
    Tabular (depth + 2) (s.branches.entries.map fun e => (e.1, e.2.toToml)) := by
  have hlimits : ∀ e ∈ s.branches.entries.map fun e => (e.1, limitEntry e.2.maxWaitMinutes),
      Tabular (depth + 1) e.2 := by
    rw [List.forall_mem_map]
    exact fun e _ => Tabular.of_values (nodup_limitEntry _) isValue_of_mem_limitEntry depth
  have htable := Tabular.mk [] _ (by simpa [Function.comp_def] using s.branches.nodup_keys)
    (by simp) hlimits
  simpa [Function.comp_def, BranchSettings.toToml] using htable

theorem tabular (s : QueueSettings) (depth : Nat) :
    ∃ entries, s.toToml = .table entries ∧ Tabular (depth + 3) entries := by
  refine ⟨_, s.toToml_eq, ?_⟩
  unfold branchTable?
  split
  next =>
    simpa [optionalEntry] using
      Tabular.of_values (nodup_limitEntry _) isValue_of_mem_limitEntry (depth + 2)
  next =>
    have hkeys : ((limitEntry s.maxWaitMinutes).map Prod.fst ++ ["branches"]).Nodup := by
      cases s.maxWaitMinutes <;> simp [limitEntry, optionalEntry]
    exact Tabular.mk _ [("branches", _)] hkeys isValue_of_mem_limitEntry
      (by simpa using s.tabular_branches depth)

end QueueSettings

theorem EntitlementSettings.tabular (s : EntitlementSettings) (depth : Nat) :
    ∃ entries, s.toToml = .table entries ∧ Tabular (depth + 1) entries := by
  refine ⟨_, rfl, Tabular.of_values (by simp) ?_ depth⟩
  simp [isValue_integer]

theorem ReportingSettings.tabular (s : ReportingSettings) (depth : Nat) :
    ∃ entries, s.toToml = .table entries ∧ Tabular (depth + 1) entries := by
  refine ⟨_, rfl, Tabular.of_values (by simp) ?_ depth⟩
  simp [IsValue, IsItem]

namespace Policy

theorem tabular (p : Policy) :
    ∃ entries, p.toToml = .table entries ∧ Tabular depthLimit entries := by
  obtain ⟨merge, hmerge, hmergeTable⟩ := p.merge.tabular 78
  obtain ⟨queue, hqueue, hqueueTable⟩ := p.queue.tabular 76
  obtain ⟨entitlements, hentitlements, hentitlementsTable⟩ := p.entitlements.tabular 78
  obtain ⟨reporting, hreporting, hreportingTable⟩ := p.reporting.tabular 78
  have htable : Tabular 80 _ := Tabular.mk [] [("merge", merge), ("queue", queue),
    ("entitlements", entitlements), ("reporting", reporting)] (by simp) (by simp) (by simp [*])
  refine ⟨_, ?_, htable⟩
  simp [toToml, *]

/-- **The text of a policy is read back as its document.** -/
theorem ofText?_render (p : Policy) : Toml.ofText? p.render = some p.toToml := by
  obtain ⟨entries, htable, htabular⟩ := p.tabular
  rw [render, htable]
  exact htabular.ofText?_render

/-- **A policy that was read is read back from what it is written as.** It is within its bounds, and
its document is made of tables, words, numbers and lists of texts, so that it can be written. The
policy is read back from its document, the document from its text, and hence the policy from the
text. -/
theorem reads_back_what_it_writes {text : String} {p : Policy} (h : ofText text = .ok p) :
    p.WithinBounds ∧ (∃ entries, p.toToml = .table entries ∧ Tabular depthLimit entries) ∧
      ofToml p.toToml = .ok p ∧ Toml.ofText? p.render = some p.toToml ∧
        ofText p.render = .ok p := by
  have hbounds : p.WithinBounds := by
    unfold ofText at h
    split at h
    next => cases h
    next => exact withinBounds_of_ofToml h
  refine ⟨hbounds, p.tabular, hbounds.ofToml_toToml, p.ofText?_render, ?_⟩
  rw [ofText, p.ofText?_render]
  exact hbounds.ofToml_toToml

/-- Older words for a mode and a priority, an account and a branch that need escapes. -/
theorem older_spellings_survive :
    let text := "[merge]\nstrict = \"smart+fastpath\"\npriority = \"high\"\n" ++
      "bot_account = \"octo\\tbot\"\n\n" ++
      "[queue.branches.\"release \\\"1\\\"\"]\nmax_wait_minutes = 60\n"
    let p : Policy :=
      { merge := { strict := .fastTrack, priority := .high, botAccount := some "octo\tbot" }
        queue := { branches := .ofList [("release \"1\"", { maxWaitMinutes := some 60 })] } }
    ofText text = .ok p ∧ p.WithinBounds ∧
      (∃ entries, p.toToml = .table entries ∧ Tabular depthLimit entries) ∧
        ofToml p.toToml = .ok p ∧ Toml.ofText? p.render = some p.toToml ∧
          ofText p.render = .ok p := by
  intro text p
  have hread : ofText text = .ok p := by decide +kernel
  exact ⟨hread, reads_back_what_it_writes hread⟩

end Policy

end MergeTrain
