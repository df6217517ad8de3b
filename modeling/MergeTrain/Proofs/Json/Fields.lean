import Mathlib.Data.List.Forall2
import MergeTrain.Json.Fields

/-!
# Records read back from objects

An optional field that is absent is written as `null`, but another writer may leave it out, and both
have to be read as the same record. So a record is not read back from one value: it is read back
from the object that is written and from every object that comes of it by leaving out entries that
hold `null`, in the record and in the records inside it.

Leaving out entries brings no new ones and keeps the order, and the names of a record's fields
differ. Hence each field is found under its name, once, with what was written there; or it is not
found, and then it was `null`. That is all that reading a field needs to know.

## Main definitions

* `Abridged`, `AbridgedEntries` — a value without some of the entries that hold `null`.
* `ReadsAs` — a value is read as something, abridged or not.
* `Kept`, `FieldReadsAs` — the same for the value of a field, which may be left out.

## Main results

* `exists_fields?_of_abridged` — the fields of a record, found in an abridged object.
* `FieldReadsAs.required`, `FieldReadsAs.orElse`, `FieldReadsAs.orNone` — the ways to read one.
-/

namespace MergeTrain.Json

variable {α : Type} {v w : Json} {entries kept : List (String × Json)}

mutual

/-- A value without some of the entries that hold `null`, its own and those of the objects in it,
at any depth. -/
inductive Abridged : Json → Json → Prop where
  | same (v : Json) : Abridged v v
  | object {entries kept : List (String × Json)} (h : AbridgedEntries entries kept) :
    Abridged (.object entries) (.object kept)

/-- The entries of an object without some of those that hold `null`. -/
inductive AbridgedEntries : List (String × Json) → List (String × Json) → Prop where
  | nil : AbridgedEntries [] []
  | keep {name : String} {v w : Json} {entries kept : List (String × Json)} (hv : Abridged v w)
    (h : AbridgedEntries entries kept) :
    AbridgedEntries ((name, v) :: entries) ((name, w) :: kept)
  | leaveOut {name : String} {entries kept : List (String × Json)}
    (h : AbridgedEntries entries kept) : AbridgedEntries ((name, .null) :: entries) kept

end

theorem AbridgedEntries.same : (entries : List (String × Json)) → AbridgedEntries entries entries
  | [] => .nil
  | (_, v) :: entries => .keep (.same v) (AbridgedEntries.same entries)

theorem Abridged.exists_entries (h : Abridged (.object entries) w) :
    ∃ kept, w = .object kept ∧ AbridgedEntries entries kept := by
  cases h with
  | same => exact ⟨entries, rfl, .same entries⟩
  | object h => exact ⟨_, rfl, h⟩

/-- What is no object stays as it is. -/
theorem Abridged.eq (h : Abridged v w) (hv : ∀ entries, v ≠ .object entries) : w = v := by
  cases h with
  | same => rfl
  | object => exact absurd rfl (hv _)

theorem Abridged.ne_null (h : Abridged v w) (hv : v ≠ .null) : w ≠ .null := by
  cases h with
  | same => exact hv
  | object => exact nofun

/-- A value is read as `a`, whether or not entries that hold `null` are left out. -/
def ReadsAs (read : Json → Option α) (v : Json) (a : α) : Prop :=
  ∀ w, Abridged v w → read w = some a

variable {read : Json → Option α} {encode : α → Json} {a : α}

/-- What is no object is read as it stands. -/
theorem ReadsAs.of_eq (h : read v = some a) (hv : ∀ entries, v ≠ .object entries) :
    ReadsAs read v a := by
  intro w hw
  rw [hw.eq hv, h]

theorem readsAs_list (h : ∀ a, read (encode a) = some a) (values : List α) :
    ReadsAs (list? read) (.array (values.map encode)) values := by
  refine .of_eq ?_ nofun
  rw [list?]
  induction values with
  | nil => rfl
  | cons a values ih =>
    rw [List.map_cons, List.mapM_cons, h a, ih]
    rfl

/-- No entry of a map is left out if none of its values is written as `null`. -/
theorem readsAs_entries (h : ∀ a, ReadsAs read (encode a) a) (hne : ∀ a, encode a ≠ .null)
    (values : List (String × α)) :
    ReadsAs (entries? read) (.object (values.map fun e => (e.1, encode e.2))) values := by
  intro w hw
  obtain ⟨kept, rfl, hkept⟩ := hw.exists_entries
  rw [entries?]
  clear hw
  induction values generalizing kept with
  | nil =>
    cases hkept
    rfl
  | cons e values ih =>
    rw [List.map_cons] at hkept
    generalize hv : encode e.2 = v at hkept
    cases hkept with
    | keep hw hkept =>
      rw [List.mapM_cons, ih _ hkept, h e.2 _ (hv ▸ hw)]
      rfl
    | leaveOut => exact absurd hv (hne e.2)

/-! ### Fields -/

/-- What is found of a field with a value. -/
inductive Kept : Json → Option Json → Prop where
  | there {v w : Json} (h : Abridged v w) : Kept v (some w)
  | leftOut : Kept .null none

/-- A field is read as `a`, whether or not it is left out. -/
def FieldReadsAs (read : Option Json → Option α) (v : Json) (a : α) : Prop :=
  ∀ field, Kept v field → read field = some a

theorem FieldReadsAs.required (h : ReadsAs read v a) (hv : v ≠ .null) :
    FieldReadsAs (Json.required read) v a := by
  rintro _ (hw | _)
  · exact h _ hw
  · exact absurd rfl hv

theorem FieldReadsAs.orElse (fallback : α) (h : ReadsAs read v a) (hv : v ≠ .null) :
    FieldReadsAs (Json.orElse fallback read) v a := by
  rintro _ (hw | _)
  · exact h _ hw
  · exact absurd rfl hv

theorem optional?_of_ne_null (hw : w ≠ .null) : w.optional? read = (read w).map some := by
  cases w with
  | null => exact absurd rfl hw
  | _ => rfl

/-- An optional field is absent if it is `null`, and if it is not there. -/
theorem FieldReadsAs.orNone (h : ∀ a, ReadsAs read (encode a) a)
    (hne : ∀ a, encode a ≠ .null) (value : Option α) :
    FieldReadsAs (Json.orNone read) (ofOption encode value) value := by
  intro field hfield
  cases value with
  | none =>
    cases hfield with
    | there hw => rw [hw.eq (by nofun)]; rfl
    | leftOut => rfl
  | some a =>
    obtain ⟨w, rfl, hw⟩ : ∃ w, field = some w ∧ Abridged (encode a) w := by
      have hsome : ofOption encode (some a) ≠ .null := hne a
      generalize hv : ofOption encode (some a) = v at hfield hsome
      cases hfield with
      | there hw => exact ⟨_, rfl, by rwa [← hv] at hw⟩
      | leftOut => exact absurd rfl hsome
    rw [Json.orNone, optional?_of_ne_null (hw.ne_null (hne a)), h a w hw]
    rfl

/-! ### Records -/

/-- No entry of an abridged object has a name that the object does not have. -/
theorem AbridgedEntries.names_subset (h : AbridgedEntries entries kept) :
    ∀ e ∈ kept, e.1 ∈ entries.map Prod.fst := by
  induction entries generalizing kept with
  | nil => cases h; simp
  | cons e entries ih =>
    cases h with
    | keep hv h =>
      intro e he
      rcases List.mem_cons.mp he with rfl | he
      · exact List.mem_cons_self
      · exact List.mem_cons_of_mem _ (ih h e he)
    | leaveOut h => exact fun e he => List.mem_cons_of_mem _ (ih h e he)

theorem AbridgedEntries.filter_eq_nil {name : String} (h : AbridgedEntries entries kept)
    (hname : name ∉ entries.map Prod.fst) : (kept.filter fun e => e.1 == name) = [] := by
  rw [List.filter_eq_nil_iff]
  intro e he heq
  exact hname (beq_iff_eq.mp heq ▸ h.names_subset e he)

/-- **A field is found once under its name**, or was `null` and is not found. -/
theorem AbridgedEntries.exists_field? {name : String} {p : Presence}
    (h : AbridgedEntries entries kept) (hnames : (entries.map Prod.fst).Nodup)
    (hmem : (name, v) ∈ entries) (hp : p = .required → v ≠ .null) :
    ∃ field, field? kept name p = some field ∧ Kept v field := by
  induction entries generalizing kept with
  | nil => cases hmem
  | cons e entries ih =>
    rw [List.map_cons, List.nodup_cons] at hnames
    rcases List.mem_cons.mp hmem with rfl | hlater
    · have hrest := fun kept (h : AbridgedEntries entries kept) => h.filter_eq_nil hnames.1
      cases h with
      | @keep _ _ w _ kept hw h =>
        have hfound : (((name, w) :: kept).filter fun e => e.1 == name) = [(name, w)] := by
          rw [List.filter_cons, if_pos (beq_self_eq_true name), hrest kept h]
        refine ⟨some w, ?_, .there hw⟩
        rw [field?, hfound]
      | leaveOut h =>
        refine ⟨none, ?_, .leftOut⟩
        rw [field?, hrest kept h]
        exact if_neg fun hrequired => hp hrequired rfl
    · cases h with
      | @keep other _ w _ kept hw h =>
        obtain ⟨field, hfield, hkept⟩ := ih h hnames.2 hlater
        have hother : ¬other = name := by
          rintro rfl
          exact hnames.1 (List.mem_map.mpr ⟨_, hlater, rfl⟩)
        refine ⟨field, ?_, hkept⟩
        rw [field?, List.filter_cons, if_neg (by simpa using hother)]
        exact hfield
      | leaveOut h => exact ih h hnames.2 hlater

theorem AbridgedEntries.field?_eq_none {name : String} {p : Presence}
    (h : AbridgedEntries entries kept) (hname : name ∉ entries.map Prod.fst)
    (hp : p ≠ .required) : field? kept name p = some none := by
  rw [field?, h.filter_eq_nil hname]
  exact if_neg hp

/-- The fields of an object are sought one by one if it has no entries but those of the shape. -/
theorem AbridgedEntries.fields?_eq {shape : Shape} (closed : Bool)
    (h : AbridgedEntries entries kept)
    (hknown : ∀ e ∈ entries, e.1 ∈ shape.map Prod.fst) :
    (Json.object kept).fields? shape closed = shape.mapM fun f => field? kept f.1 f.2 := by
  have hnone : (kept.any fun e => !shape.any (·.1 == e.1)) = false := by
    rw [List.any_eq_false]
    intro e he
    obtain ⟨e', he', hname⟩ := List.mem_map.mp (h.names_subset e he)
    have hmem : e.1 ∈ shape.map Prod.fst := hname ▸ hknown e' he'
    simpa using hmem
  rw [fields?, hnone, Bool.and_false, if_neg Bool.false_ne_true]

/-- A value of a record: its fields have the names of its shape, in order, and none that is required
is `null`. -/
def IsRecord (shape : Shape) (entries : List (String × Json)) : Prop :=
  List.Forall₂ (fun f e => f.1 = e.1 ∧ (f.2 = .required → e.2 ≠ .null)) shape entries

theorem IsRecord.map_fst {shape : Shape} (h : IsRecord shape entries) :
    shape.map Prod.fst = entries.map Prod.fst := by
  induction h with
  | nil => rfl
  | cons hhead _ ih => rw [List.map_cons, List.map_cons, hhead.1, ih]

/-- The fields of a part of a record are found in the order of its shape. -/
theorem AbridgedEntries.exists_mapM {shape : Shape} {part : List (String × Json)}
    (h : AbridgedEntries entries kept) (hnames : (entries.map Prod.fst).Nodup)
    (hrecord : IsRecord shape part) (hpart : ∀ e ∈ part, e ∈ entries) :
    ∃ fields, shape.mapM (fun f => field? kept f.1 f.2) = some fields ∧
      List.Forall₂ Kept (part.map Prod.snd) fields := by
  induction hrecord with
  | nil => exact ⟨[], rfl, .nil⟩
  | @cons f e shape part hhead _ ih =>
    obtain ⟨he, hlater⟩ := List.forall_mem_cons.mp hpart
    obtain ⟨field, hfield, hkept⟩ := h.exists_field? hnames he hhead.2
    obtain ⟨fields, hfields, hall⟩ := ih hlater
    refine ⟨field :: fields, ?_, .cons hkept hall⟩
    rw [List.mapM_cons, hhead.1, hfield, hfields]
    rfl

/-- **The fields of a record are found in every abridged form of it**, each with its value or, if
that is `null`, perhaps not there. -/
theorem exists_fields?_of_abridged (shape : Shape) (closed : Bool)
    (hrecord : IsRecord shape entries) (hnames : (shape.map Prod.fst).Nodup)
    (h : Abridged (.object entries) w) :
    ∃ fields, w.fields? shape closed = some fields ∧
      List.Forall₂ Kept (entries.map Prod.snd) fields := by
  obtain ⟨kept, rfl, hkept⟩ := h.exists_entries
  have hfst := hrecord.map_fst
  obtain ⟨fields, hfields, hall⟩ :=
    hkept.exists_mapM (hfst ▸ hnames) hrecord fun _ he => he
  refine ⟨fields, ?_, hall⟩
  rw [hkept.fields?_eq closed fun e he => hfst ▸ List.mem_map_of_mem he, hfields]

end MergeTrain.Json
