import Mathlib.Data.List.Basic
import Mathlib.Data.List.Nodup
import MergeTrain.NameMap

/-!
# Lists with keys

In a list in which no key comes twice, what is found under a key is what stands there with it. The
entries of a map from names are such a list, and they are all that the map is.

## Main results

* `find?_eq_some_of_nodup` — for a list whose items can be told by a function of them.
* `lookup_eq_some_iff_mem`, `lookup_eq_none_iff_not_mem` — for a list of pairs.
* `NameMap.get?_eq_some_iff` — what is found in a map is one of its entries.
* `NameMap.get?_insert` — what is found after an entry is put in.
* `NameMap.ofList_entries` — a map is the map of its entries.
-/

namespace MergeTrain

theorem find?_eq_some_of_nodup {α κ : Type} [DecidableEq κ] {f : α → κ} {l : List α}
    (h : (l.map f).Nodup) {a : α} (ha : a ∈ l) : (l.find? fun b => f b == f a) = some a := by
  cases hfound : l.find? fun b => f b == f a with
  | none => exact absurd (beq_self_eq_true (f a)) (List.find?_eq_none.mp hfound a ha)
  | some b =>
    have hsame : f b = f a := by simpa using List.find?_some hfound
    rw [List.inj_on_of_nodup_map h (List.mem_of_find?_eq_some hfound) ha hsame]

theorem lookup_eq_none_iff_not_mem {κ β : Type} [DecidableEq κ] {l : List (κ × β)} {k : κ} :
    l.lookup k = none ↔ k ∉ l.map Prod.fst := by
  rw [List.lookup_eq_none_iff]
  constructor
  · rintro h hmem
    obtain ⟨p, hp, rfl⟩ := List.mem_map.mp hmem
    exact absurd (h p hp) (by simp)
  · intro h p hp
    exact bne_iff_ne.mpr fun heq => h (heq ▸ List.mem_map_of_mem hp)

theorem lookup_eq_some_iff_mem {κ β : Type} [DecidableEq κ] {l : List (κ × β)}
    (h : (l.map Prod.fst).Nodup) {k : κ} {v : β} : l.lookup k = some v ↔ (k, v) ∈ l := by
  rw [List.lookup_eq_some_iff]
  constructor
  · rintro ⟨before, after, rfl, -⟩
    simp
  · intro hmem
    obtain ⟨before, after, rfl⟩ := List.append_of_mem hmem
    refine ⟨before, after, rfl, fun p hp => bne_iff_ne.mpr ?_⟩
    rw [List.map_append, List.nodup_append] at h
    exact Ne.symm (h.2.2 p.1 (List.mem_map_of_mem hp) k (by simp))

theorem lookup_cons_eq_ite {κ β : Type} [DecidableEq κ] (e : κ × β) (l : List (κ × β)) (k : κ) :
    (e :: l).lookup k = if k = e.1 then some e.2 else l.lookup k := by
  obtain ⟨key, value⟩ := e
  by_cases h : k = key
  · rw [if_pos h, h, List.lookup_cons_self]
  · have hne : (k == key) = false := beq_eq_false_iff_ne.mpr h
    rw [if_neg h, List.lookup_cons, hne]

/-! ### Maps from names -/

namespace NameMap

variable {β : Type}

theorem nodup_keys (m : NameMap β) : (m.entries.map Prod.fst).Nodup := by
  rw [List.Nodup, List.pairwise_map]
  exact m.sorted.imp fun hlt heq => absurd (heq ▸ hlt) (String.lt_irrefl _)

theorem get?_eq_some_iff {m : NameMap β} {key : String} {value : β} :
    m.get? key = some value ↔ (key, value) ∈ m.entries :=
  lookup_eq_some_iff_mem m.nodup_keys

theorem mem_keys_iff {m : NameMap β} {name : String} :
    name ∈ m.keys ↔ (m.get? name).isSome = true := by
  rw [Option.isSome_iff_ne_none, Ne, get?, lookup_eq_none_iff_not_mem, not_not, keys]

theorem lookup_insertEntry (key name : String) (value : β) (entries : List (String × β)) :
    (insertEntry key value entries).lookup name =
      if name = key then some value else entries.lookup name := by
  induction entries with
  | nil => exact lookup_cons_eq_ite (key, value) [] name
  | cons e entries ih =>
    rw [insertEntry]
    split
    · exact lookup_cons_eq_ite (key, value) (e :: entries) name
    · split
      · next heq =>
        rw [lookup_cons_eq_ite, lookup_cons_eq_ite, ← heq]
        split <;> rfl
      · next hne =>
        rw [lookup_cons_eq_ite, lookup_cons_eq_ite, ih]
        by_cases hname : name = e.1
        · have hother : name ≠ key := fun hkey => hne (hkey.symm.trans hname)
          rw [if_pos hname, if_neg hother, if_pos hname]
        · rw [if_neg hname, if_neg hname]

/-- An entry that is put in is found under its key, and changes nothing else. -/
theorem get?_insert (m : NameMap β) (key name : String) (value : β) :
    (m.insert key value).get? name = if name = key then some value else m.get? name :=
  lookup_insertEntry key name value m.entries

theorem insertEntry_of_forall_lt {key : String} {value : β} {entries : List (String × β)}
    (h : ∀ e ∈ entries, e.1 < key) : insertEntry key value entries = entries ++ [(key, value)] := by
  induction entries with
  | nil => rfl
  | cons e entries ih =>
    obtain ⟨he, hrest⟩ := List.forall_mem_cons.mp h
    have hnotlt : ¬key < e.1 := fun hlt => String.lt_irrefl _ (String.lt_trans hlt he)
    have hne : key ≠ e.1 := fun heq => String.lt_irrefl _ (heq ▸ he)
    simp [insertEntry, hnotlt, hne, ih hrest]

theorem entries_foldl_insert {l : List (String × β)} {m : NameMap β}
    (h : (m.entries ++ l).Pairwise (fun a b => a.1 < b.1)) :
    (l.foldl (fun m e => m.insert e.1 e.2) m).entries = m.entries ++ l := by
  induction l generalizing m with
  | nil => simp
  | cons e l ih =>
    have hlast : ∀ b ∈ m.entries, b.1 < e.1 := fun b hb =>
      (List.pairwise_append.mp h).2.2 b hb e List.mem_cons_self
    have hinsert : (m.insert e.1 e.2).entries = m.entries ++ [e] := insertEntry_of_forall_lt hlast
    rw [List.foldl_cons, ih (by simpa [hinsert] using h), hinsert, List.append_assoc]
    rfl

theorem ofList_entries (m : NameMap β) : ofList m.entries = m :=
  NameMap.ext (entries_foldl_insert (m := empty) m.sorted)

end NameMap

end MergeTrain
