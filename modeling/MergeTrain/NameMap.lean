/-!
# Maps from names

A finite map whose keys are texts. Its entries are kept in increasing order of their keys, so equal
maps are equal as values and have one listing.

## Main definitions

* `NameMap` — the map.
* `NameMap.empty` — the map without entries.
* `NameMap.insert`, `NameMap.ofList` — later entries replace earlier ones of the same key.
* `NameMap.get?` — the value of a key.
-/

namespace MergeTrain

/-- A finite map from texts. -/
structure NameMap (β : Type) where
  entries : List (String × β) := []
  sorted : entries.Pairwise (fun a b => a.1 < b.1) := by exact List.Pairwise.nil

namespace NameMap

variable {β : Type}

/-- The map without entries. -/
def empty : NameMap β :=
  {}

/-- Put an entry into a list in increasing order, replacing an entry of the same key. -/
def insertEntry (key : String) (value : β) : List (String × β) → List (String × β)
  | [] => [(key, value)]
  | e :: rest =>
    if key < e.1 then (key, value) :: e :: rest
    else if key = e.1 then (key, value) :: rest
    else e :: insertEntry key value rest

theorem mem_insertEntry {key : String} {value : β} {entries : List (String × β)} {e : String × β}
    (h : e ∈ insertEntry key value entries) : e = (key, value) ∨ e ∈ entries := by
  induction entries with
  | nil => simpa [insertEntry] using h
  | cons head rest ih =>
    simp only [insertEntry] at h
    split at h
    · simpa using h
    · split at h
      · rcases List.mem_cons.mp h with h | h
        · exact .inl h
        · exact .inr (List.mem_cons_of_mem _ h)
      · rcases List.mem_cons.mp h with h | h
        · exact .inr (h ▸ List.mem_cons_self)
        · exact (ih h).imp id (List.mem_cons_of_mem _)

theorem insertEntry_sorted (key : String) (value : β) {entries : List (String × β)}
    (h : entries.Pairwise (fun a b => a.1 < b.1)) :
    (insertEntry key value entries).Pairwise (fun a b => a.1 < b.1) := by
  induction entries with
  | nil => simp [insertEntry]
  | cons head rest ih =>
    rw [List.pairwise_cons] at h
    simp only [insertEntry]
    split
    · next lt =>
      refine List.pairwise_cons.mpr ⟨fun e he => ?_, List.pairwise_cons.mpr h⟩
      rcases List.mem_cons.mp he with rfl | he
      · exact lt
      · exact String.lt_trans lt (h.1 e he)
    · next notLt =>
      split
      · next eq => exact List.pairwise_cons.mpr ⟨fun e he => eq ▸ h.1 e he, h.2⟩
      · next ne =>
        refine List.pairwise_cons.mpr ⟨fun e he => ?_, ih h.2⟩
        rcases mem_insertEntry he with rfl | he
        · exact Classical.byContradiction fun ge =>
            ne (String.le_antisymm (String.not_lt.mp ge) (String.not_lt.mp notLt))
        · exact h.1 e he

/-- The map with `value` at `key`. -/
def insert (m : NameMap β) (key : String) (value : β) : NameMap β :=
  ⟨insertEntry key value m.entries, insertEntry_sorted key value m.sorted⟩

/-- The map of some entries; the last entry of a key counts. -/
def ofList (entries : List (String × β)) : NameMap β :=
  entries.foldl (fun m e => m.insert e.1 e.2) empty

/-- The value of a key. -/
def get? (m : NameMap β) (key : String) : Option β :=
  m.entries.lookup key

/-- Whether the map has no entry. -/
def isEmpty (m : NameMap β) : Bool :=
  m.entries.isEmpty

/-- The keys, in increasing order. -/
def keys (m : NameMap β) : List String :=
  m.entries.map Prod.fst

theorem ext {m n : NameMap β} (h : m.entries = n.entries) : m = n := by
  cases m; cases n; cases h; rfl

instance [DecidableEq β] : DecidableEq (NameMap β) := fun m n =>
  if h : m.entries = n.entries then .isTrue (ext h) else .isFalse fun e => h (e ▸ rfl)

instance : Inhabited (NameMap β) :=
  ⟨empty⟩

end NameMap

end MergeTrain
