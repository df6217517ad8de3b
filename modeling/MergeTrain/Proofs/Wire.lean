import MergeTrain.EntitlementCache
import MergeTrain.Platform
import MergeTrain.Policy.Json
import MergeTrain.Proofs.Except
import MergeTrain.Proofs.Instant.Rfc3339
import MergeTrain.Proofs.Json.Fields
import MergeTrain.Proofs.Json.Reader
import MergeTrain.Proofs.Spelled

/-!
# Records read back from their wire forms

What is written to the wire has to be read there as the same record: by this program or by another,
which may leave out a field that is `null`. Writing lays a record down field by field and reading
looks each field up by its name, and the two lists of names are kept apart. They agree if every
field is found under the name it is written under and is read as the type it is written as.

The types are few: texts, truth values, numbers, words for alternatives, instants, and lists and
maps of these. Each is read back by itself. A record is then read back one field after the other,
whatever is left out of it, and so is a record of records.

The text of a record is read back as well, since no record is written with a number or a string
that has no text of its own.

## Main definitions

* `Json.ReadsBack` — the values of a type are read back, from values and from texts.

## Main results

* `PullSnapshot.readsAs`, `MergeRequest.readsAs`, `CachedSubscription.readsAs`,
  `QueueSettings.readsAs` — each record, read back from a value.
* `records_read_back` — and from a text.
-/

namespace MergeTrain

open Json

/-! ### Values -/

namespace Json

theorem readsAs_text (s : String) : ReadsAs text? (.string s) s :=
  .of_eq rfl nofun

theorem readsAs_bool (b : Bool) : ReadsAs bool? (.bool b) b :=
  .of_eq rfl nofun

/-- Numbers of sixty-four bits are read back up to the greatest. -/
theorem readsAs_uint64 (n : UInt64) : ReadsAs uint64? (.nat n.toNat) n := by
  have hlt := n.toNat_lt
  refine .of_eq ?_ nofun
  simp [Json.nat, uint64?, natBelow?, UInt64.size]
  omega

theorem readsAs_uint32 (n : UInt32) : ReadsAs uint32? (.nat n.toNat) n := by
  have hlt := n.toNat_lt
  refine .of_eq ?_ nofun
  simp [Json.nat, uint32?, natBelow?, UInt32.size]
  omega

theorem readsAs_spelled {α : Type} [Spelled α] [LawfulSpelled α] (a : α) :
    ReadsAs Spelled.ofJson? (Spelled.toJson a) a :=
  .of_eq (Spelled.lookup_words a) nofun

end Json

/-! ### Identities -/

theorem Owner.readsAs (o : Owner) : ReadsAs ofJson? o.toJson o := by
  intro w hw
  obtain ⟨_, hfields, _ | ⟨hid, _ | ⟨hlogin, _ | _⟩⟩⟩ :=
    exists_fields?_of_abridged [("id", .required), ("login", .required)] false
      (by simp [IsRecord, Json.nat]) (by decide) hw
  have hid := FieldReadsAs.required (readsAs_uint64 o.id) nofun _ hid
  have hlogin := FieldReadsAs.required (readsAs_text o.login) nofun _ hlogin
  rw [ofJson?, hfields]
  refine (bind_eq_of_eq_some hid _).trans ?_
  exact bind_eq_of_eq_some hlogin _

theorem PullRef.readsAs (p : PullRef) : ReadsAs ofJson? p.toJson p := by
  intro w hw
  obtain ⟨_, hfields, _ | ⟨howner, _ | ⟨hrepo, _ | ⟨hnumber, _ | ⟨hhead, _ | ⟨hbase, _ | _⟩⟩⟩⟩⟩⟩ :=
    exists_fields?_of_abridged shape false
      (by simp [IsRecord, shape, Owner.toJson, Json.nat]) (by decide) hw
  have howner := FieldReadsAs.required p.owner.readsAs nofun _ howner
  have hrepo := FieldReadsAs.required (readsAs_text p.repo) nofun _ hrepo
  have hnumber := FieldReadsAs.required (readsAs_uint64 p.number) nofun _ hnumber
  have hhead := FieldReadsAs.required (readsAs_text p.headSha) nofun _ hhead
  have hbase := FieldReadsAs.required (readsAs_text p.baseRef) nofun _ hbase
  rw [ofJson?, hfields]
  refine (bind_eq_of_eq_some howner _).trans ?_
  refine (bind_eq_of_eq_some hrepo _).trans ?_
  refine (bind_eq_of_eq_some hnumber _).trans ?_
  refine (bind_eq_of_eq_some hhead _).trans ?_
  exact bind_eq_of_eq_some hbase _

/-! ### Snapshots and requests -/

theorem PullSnapshot.readsAs (s : PullSnapshot) : ReadsAs ofJson? s.toJson s := by
  intro w hw
  obtain ⟨_, hfields, _ | ⟨hpull, _ | ⟨htitle, _ | ⟨hbody, _ | ⟨hstate, _ | ⟨hdraft, _ |
      ⟨hmerged, _ | ⟨hmergedBy, _ | ⟨hcommit, _ | ⟨hmergeability, _ | ⟨hrebaseable, _ |
      ⟨hfiles, _ | ⟨hworkflow, _ | _⟩⟩⟩⟩⟩⟩⟩⟩⟩⟩⟩⟩⟩ :=
    exists_fields?_of_abridged shape false
      (by simp [IsRecord, shape, PullRef.toJson, Spelled.toJson]) (by decide) hw
  have hpull := FieldReadsAs.required s.pull.readsAs nofun _ hpull
  have htitle := FieldReadsAs.required (readsAs_text s.title) nofun _ htitle
  have hbody := FieldReadsAs.orNone readsAs_text nofun s.body _ hbody
  have hstate := FieldReadsAs.required (readsAs_spelled s.state) nofun _ hstate
  have hdraft := FieldReadsAs.orElse false (readsAs_bool s.isDraft) nofun _ hdraft
  have hmerged := FieldReadsAs.orElse false (readsAs_bool s.merged) nofun _ hmerged
  have hmergedBy := FieldReadsAs.orNone readsAs_text nofun s.mergedBy _ hmergedBy
  have hcommit := FieldReadsAs.orNone readsAs_text nofun s.mergeCommitSha _ hcommit
  have hmergeability := FieldReadsAs.required (readsAs_spelled s.mergeability) nofun _ hmergeability
  have hrebaseable := FieldReadsAs.orElse true (readsAs_bool s.rebaseable) nofun _ hrebaseable
  have hfiles := FieldReadsAs.orElse 0 (readsAs_uint64 s.changedFiles) nofun _ hfiles
  have hworkflow := FieldReadsAs.orElse false (readsAs_bool s.workflowChanged) nofun _ hworkflow
  rw [ofJson?, hfields]
  refine (bind_eq_of_eq_some hpull _).trans ?_
  refine (bind_eq_of_eq_some htitle _).trans ?_
  refine (bind_eq_of_eq_some hbody _).trans ?_
  refine (bind_eq_of_eq_some hstate _).trans ?_
  refine (bind_eq_of_eq_some hdraft _).trans ?_
  refine (bind_eq_of_eq_some hmerged _).trans ?_
  refine (bind_eq_of_eq_some hmergedBy _).trans ?_
  refine (bind_eq_of_eq_some hcommit _).trans ?_
  refine (bind_eq_of_eq_some hmergeability _).trans ?_
  refine (bind_eq_of_eq_some hrebaseable _).trans ?_
  refine (bind_eq_of_eq_some hfiles _).trans ?_
  exact bind_eq_of_eq_some hworkflow _

theorem MergeRequest.readsAs (r : MergeRequest) : ReadsAs ofJson? r.toJson r := by
  intro w hw
  obtain ⟨_, hfields, _ | ⟨hpull, _ | ⟨hmethod, _ | ⟨htitle, _ | ⟨hmessage, _ | ⟨hactor,
      _ | _⟩⟩⟩⟩⟩⟩ :=
    exists_fields?_of_abridged shape false
      (by simp [IsRecord, shape, PullRef.toJson, Spelled.toJson]) (by decide) hw
  have hpull := FieldReadsAs.required r.pull.readsAs nofun _ hpull
  have hmethod := FieldReadsAs.required (readsAs_spelled r.method) nofun _ hmethod
  have htitle := FieldReadsAs.orNone readsAs_text nofun r.commitTitle _ htitle
  have hmessage := FieldReadsAs.orNone readsAs_text nofun r.commitMessage _ hmessage
  have hactor := FieldReadsAs.orNone readsAs_text nofun r.actor _ hactor
  rw [ofJson?, hfields]
  refine (bind_eq_of_eq_some hpull _).trans ?_
  refine (bind_eq_of_eq_some hmethod _).trans ?_
  refine (bind_eq_of_eq_some htitle _).trans ?_
  refine (bind_eq_of_eq_some hmessage _).trans ?_
  exact bind_eq_of_eq_some hactor _

/-! ### Subscriptions -/

theorem Subscription.readsAs (s : Subscription) : ReadsAs ofJson? s.toJson s := by
  intro w hw
  obtain ⟨_, hfields, _ | ⟨howner, _ | ⟨hactive, _ | ⟨hreason, _ | ⟨hfeatures, _ | _⟩⟩⟩⟩⟩ :=
    exists_fields?_of_abridged shape false (by simp [IsRecord, shape, Json.nat]) (by decide) hw
  have hlist : ReadsAs (list? Spelled.ofJson?) (.array (s.features.toList.map Spelled.toJson))
      s.features.toList := readsAs_list Spelled.lookup_words s.features.toList
  have howner := FieldReadsAs.required (readsAs_uint64 s.ownerId) nofun _ howner
  have hactive := FieldReadsAs.required (readsAs_bool s.active) nofun _ hactive
  have hreason := FieldReadsAs.required (readsAs_text s.reason) nofun _ hreason
  have hfeatures := FieldReadsAs.required hlist nofun _ hfeatures
  rw [ofJson?, hfields]
  refine (bind_eq_of_eq_some howner _).trans ?_
  refine (bind_eq_of_eq_some hactive _).trans ?_
  refine (bind_eq_of_eq_some hreason _).trans ?_
  refine (bind_eq_of_eq_some hfeatures _).trans ?_
  rw [FeatureSet.ofList_toList]
  rfl

theorem CachedSubscription.readsAs (c : CachedSubscription) : ReadsAs ofJson? c.toJson c := by
  intro w hw
  obtain ⟨_, hfields, _ | ⟨hsubscription, _ | ⟨hstored, _ | _⟩⟩⟩ :=
    exists_fields?_of_abridged [("subscription", .required), ("stored_at", .required)] false
      (by simp [IsRecord, Subscription.toJson]) (by decide) hw
  have htime : ReadsAs (fun j => j.text?.bind Instant.ofText?) (.string c.storedAt.toText)
      c.storedAt := by
    refine .of_eq ?_ nofun
    simp only [text?, Option.bind_some, Instant.ofText?_toText]
  have hsubscription := FieldReadsAs.required c.subscription.readsAs nofun _ hsubscription
  have hstored := FieldReadsAs.required htime nofun _ hstored
  rw [ofJson?, hfields]
  refine (bind_eq_of_eq_some hsubscription _).trans ?_
  exact bind_eq_of_eq_some hstored _

/-! ### Limits of branches -/

theorem BranchSettings.readsAs (s : BranchSettings) : ReadsAs ofJson? s.toJson s := by
  intro w hw
  obtain ⟨_, hfields, _ | ⟨hmaxWait, _ | _⟩⟩ :=
    exists_fields?_of_abridged [("max_wait_minutes", .optional)] true
      (by simp [IsRecord]) (by decide) hw
  have hmaxWait := FieldReadsAs.orNone readsAs_uint32 nofun s.maxWaitMinutes _ hmaxWait
  rw [ofJson?, hfields]
  exact bind_eq_of_eq_some hmaxWait _

namespace QueueSettings

theorem readsAs_branches (branches : NameMap BranchSettings) :
    ReadsAs branches? (.object (branches.entries.map fun e => (e.1, e.2.toJson))) branches := by
  intro w hw
  rw [branches?, readsAs_entries BranchSettings.readsAs nofun branches.entries w hw]
  exact congrArg some branches.ofList_entries

/-- The fields are found, also when the branches are left out because there are none. -/
theorem exists_fields (s : QueueSettings) {w : Json} (hw : Abridged s.toJson w) :
    ∃ maxWait branches,
      w.fields? [("max_wait_minutes", .optional), ("branches", .defaulted)] true =
        some [maxWait, branches] ∧
      orNone uint32? maxWait = some s.maxWaitMinutes ∧
      orElse .empty branches? branches = some s.branches := by
  by_cases hnone : s.branches.isEmpty
  · -- The object has an entry less than the shape has fields, so it is no value of the whole record.
    have hempty : s.branches = .empty := NameMap.ext (List.isEmpty_iff.mp hnone)
    have hentry : s.branchesEntry = [] := if_pos hnone
    rw [toJson, hentry] at hw
    obtain ⟨kept, rfl, hkept⟩ := hw.exists_entries
    obtain ⟨maxWait, hfound, hmaxWait⟩ :=
      hkept.exists_field? (p := .optional) (List.nodup_singleton _) List.mem_cons_self nofun
    have habsent : field? kept "branches" .defaulted = some none :=
      hkept.field?_eq_none (by simp) nofun
    refine ⟨maxWait, none, ?_, FieldReadsAs.orNone readsAs_uint32 nofun _ _ hmaxWait, ?_⟩
    · rw [hkept.fields?_eq true (by simp)]
      simp [hfound, habsent]
    · rw [hempty]
      rfl
  · have hentry : s.branchesEntry =
        [("branches", .object (s.branches.entries.map fun e => (e.1, e.2.toJson)))] :=
      if_neg hnone
    rw [toJson, hentry] at hw
    obtain ⟨_, hfields, _ | ⟨hmaxWait, _ | ⟨hbranches, _ | _⟩⟩⟩ :=
      exists_fields?_of_abridged [("max_wait_minutes", .optional), ("branches", .defaulted)] true
        (by simp [IsRecord]) (by decide) hw
    exact ⟨_, _, hfields, FieldReadsAs.orNone readsAs_uint32 nofun _ _ hmaxWait,
      FieldReadsAs.orElse .empty (readsAs_branches s.branches) nofun _ hbranches⟩

theorem readsAs (s : QueueSettings) : ReadsAs ofJson? s.toJson s := by
  intro w hw
  obtain ⟨_, _, hfields, hmaxWait, hbranches⟩ := s.exists_fields hw
  rw [ofJson?, hfields]
  refine (bind_eq_of_eq_some hmaxWait _).trans ?_
  exact bind_eq_of_eq_some hbranches _

end QueueSettings

/-! ### Texts -/

namespace Json

mutual

/-- What is left of a value with one text has one text. -/
theorem Abridged.isPlain {v w : Json} (h : Abridged v w) (hv : IsPlain v) : IsPlain w := by
  cases h with
  | same => exact hv
  | object h => exact AbridgedEntries.entriesPlain h hv

theorem AbridgedEntries.entriesPlain {entries kept : List (String × Json)}
    (h : AbridgedEntries entries kept) (hplain : EntriesPlain entries) : EntriesPlain kept := by
  cases h with
  | nil => trivial
  | keep hw h => exact ⟨hw.isPlain hplain.1, AbridgedEntries.entriesPlain h hplain.2⟩
  | leaveOut h => exact AbridgedEntries.entriesPlain h hplain.2

end

variable {α : Type} {encode : α → Json} {decode : Json → Option α}

/-- Every value is read back from the value it is written as and from the text of it, also when
entries that hold `null` are left out. -/
def ReadsBack (encode : α → Json) (decode : Json → Option α) : Prop :=
  ∀ a w, Abridged (encode a) w → decode w = some a ∧ (read? (render w)).bind decode = some a

theorem readsBack_of_readsAs (hplain : ∀ a, IsPlain (encode a))
    (h : ∀ a, ReadsAs decode (encode a) a) : ReadsBack encode decode := by
  intro a w hw
  refine ⟨h a w hw, ?_⟩
  rw [read?_render (hw.isPlain (hplain a))]
  exact h a w hw

end Json

theorem PullRef.isPlain (p : PullRef) : IsPlain p.toJson := by
  simp [toJson, IsPlain, EntriesPlain, Owner.toJson, Json.nat]

theorem PullSnapshot.isPlain (s : PullSnapshot) : IsPlain s.toJson := by
  have htext : ∀ text, IsPlain (ofOption Json.string text) := isPlain_ofOption fun _ => by trivial
  simp [toJson, IsPlain, EntriesPlain, s.pull.isPlain, htext, Json.nat, Spelled.toJson]

theorem MergeRequest.isPlain (r : MergeRequest) : IsPlain r.toJson := by
  have htext : ∀ text, IsPlain (ofOption Json.string text) := isPlain_ofOption fun _ => by trivial
  simp [toJson, IsPlain, EntriesPlain, r.pull.isPlain, htext, Spelled.toJson]

theorem CachedSubscription.isPlain (c : CachedSubscription) : IsPlain c.toJson := by
  have hfeatures : ItemsPlain (c.subscription.features.toList.map Spelled.toJson) :=
    itemsPlain_map (fun _ => by trivial) _
  simp [toJson, IsPlain, EntriesPlain, Subscription.toJson, hfeatures, Json.nat]

theorem QueueSettings.isPlain (s : QueueSettings) : IsPlain s.toJson := by
  have hnumber : ∀ n : Option UInt32, IsPlain (ofOption (fun n => .nat n.toNat) n) :=
    isPlain_ofOption fun _ => by trivial
  have hbranch : ∀ b : BranchSettings, IsPlain b.toJson := fun b => ⟨hnumber _, trivial⟩
  rw [toJson, branchesEntry]
  split
  · exact ⟨hnumber _, trivial⟩
  · exact ⟨hnumber _, entriesPlain_map hbranch _, trivial⟩

/-- **Records are read back from their wire forms**: snapshots and requests, remembered
subscriptions with their features and times, and limits of any branches. -/
theorem records_read_back :
    ReadsBack PullSnapshot.toJson PullSnapshot.ofJson? ∧
    ReadsBack MergeRequest.toJson MergeRequest.ofJson? ∧
    ReadsBack CachedSubscription.toJson CachedSubscription.ofJson? ∧
    ReadsBack QueueSettings.toJson QueueSettings.ofJson? :=
  ⟨readsBack_of_readsAs PullSnapshot.isPlain PullSnapshot.readsAs,
    readsBack_of_readsAs MergeRequest.isPlain MergeRequest.readsAs,
    readsBack_of_readsAs CachedSubscription.isPlain CachedSubscription.readsAs,
    readsBack_of_readsAs QueueSettings.isPlain QueueSettings.readsAs⟩

/-- A request with the greatest numbers, and with nothing that is optional. -/
def plainRequest : MergeRequest where
  pull :=
    { owner := { id := 18446744073709551615, login := "acme" }, repo := "widgets",
      number := 18446744073709551615, headSha := "sha1", baseRef := "main" }
  method := .merge

theorem plainRequest_read_back :
    MergeRequest.ofJson?
        (.object
          [("pull",
            .object
              [("owner", .object [("id", .int 18446744073709551615), ("login", .string "acme")]),
                ("repo", .string "widgets"), ("number", .int 18446744073709551615),
                ("head_sha", .string "sha1"), ("base_ref", .string "main")]),
            ("method", .string "merge")]) =
      some plainRequest :=
  (records_read_back.2.1 plainRequest _
    (.object (.keep (.same _) (.keep (.same _) (.leaveOut (.leaveOut (.leaveOut .nil))))))).1

end MergeTrain
