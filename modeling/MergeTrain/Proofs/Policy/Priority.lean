import MergeTrain.Proofs.Decimal
import MergeTrain.Proofs.Policy.Bounds
import MergeTrain.Proofs.Priority

/-!
# Priorities as they are written

A priority is written as one of three names, or in digits with at most one sign in front. Every
other text is unknown, and so is a number that does not fit in sixty-four bits. A number that fits
but is no weight is out of range, which is a different complaint: it names the number.

The two ways of writing never meet, since a name does not consist of digits. So one case is told
from the others by the text alone, and a priority is read back from what is shown of it, be that its
name or its number.

## Main definitions

* `Priority.Named` — the names, and the weights that they stand for.

## Main results

* `Priority.ofInt_eq_ok_iff`, `Priority.ofInt_eq_error_iff` — the numbers that are weights.
* `Priority.ofText_text` — what is shown of a weight within its bounds is read as it.
* `Priority.reads_exactly` — every text, and what comes of it.
-/

namespace MergeTrain.Priority

open Text

variable {text : String} {p : Priority} {value : Int} {e : ConfigError}

/-- The names of weights. -/
inductive Named : String → Priority → Prop where
  | low : Named "low" ⟨1000⟩
  | medium : Named "medium" ⟨2000⟩
  | high : Named "high" ⟨3000⟩

theorem ofAlias?_eq_some_iff : ofAlias? text = some p ↔ Named text p := by
  rw [ofAlias?, lookup_eq_some_iff_mem (by decide)]
  constructor
  · intro h
    simp only [aliases, List.mem_cons, Prod.mk.injEq, List.not_mem_nil, or_false] at h
    rcases h with ⟨rfl, rfl⟩ | ⟨rfl, rfl⟩ | ⟨rfl, rfl⟩
    · exact .low
    · exact .medium
    · exact .high
  · rintro (_ | _ | _) <;> decide

theorem ofAlias?_eq_none_iff : ofAlias? text = none ↔ ¬∃ p, Named text p := by
  simp only [Option.eq_none_iff_forall_ne_some, Ne, ofAlias?_eq_some_iff, not_exists]

/-! ### Numbers -/

theorem ofInt_eq_ok_iff : ofInt value = .ok p ↔
    1 ≤ value ∧ value ≤ 10000 ∧ (p.weight.toNat : Int) = value := by
  constructor
  · intro h
    have hp := withinBounds_of_ofInt h
    rw [ofInt] at h
    split at h
    · next hbounds =>
      cases h
      have hmax : (highest.weight.toNat : Int) = 10000 := rfl
      have hweight : (UInt32.ofNat value.toNat).toNat = value.toNat := by
        rw [UInt32.toNat_ofNat']
        omega
      show 1 ≤ value ∧ value ≤ 10000 ∧ ((UInt32.ofNat value.toNat).toNat : Int) = value
      rw [hweight]
      omega
    · cases h
  · rintro ⟨hleast, hmost, rfl⟩
    exact WithinBounds.ofInt_toNat ⟨by omega, by omega⟩

theorem ofInt_eq_error_iff : ofInt value = .error e ↔
    ¬(1 ≤ value ∧ value ≤ 10000) ∧ e = .priorityOutOfRange value := by
  have hmax : (highest.weight.toNat : Int) = 10000 := rfl
  rw [ofInt, hmax]
  split
  · next h => simp [h]
  · next h => simp [h, eq_comm]

/-! ### Texts -/

/-- No name is a number. -/
theorem Named.not_denotesInt (h : Named text p) : ¬DenotesInt text.toList value := by
  rw [← readInt?_eq_some_iff]
  cases h <;> simp [readInt?, readNat?, isDigit]

theorem ofText_of_named (h : Named text p) : ofText text = .ok p := by
  rw [ofText, ofAlias?_eq_some_iff.mpr h]

theorem ofText_of_denotes (h : DenotesInt text.toList value) (hfits : FitsInt64 value) :
    ofText text = ofInt value := by
  have hnone : ofAlias? text = none := ofAlias?_eq_none_iff.mpr fun ⟨_, hp⟩ => hp.not_denotesInt h
  rw [ofText, hnone]
  simp only [readInt64?_eq_some_iff.mpr ⟨h, hfits⟩]

theorem ofText_of_neither (hname : ¬∃ p, Named text p)
    (hnumber : ¬∃ v, DenotesInt text.toList v ∧ FitsInt64 v) :
    ofText text = .error (.unknownPriority text) := by
  rw [ofText, ofAlias?_eq_none_iff.mpr hname]
  simp only [readInt64?_eq_none_iff.mpr hnumber]

/-- A text is a name, or a number that fits in sixty-four bits, or neither. -/
theorem named_or_denotes_or_neither (text : String) :
    (∃ p, Named text p) ∨ (∃ v, DenotesInt text.toList v ∧ FitsInt64 v) ∨
      (¬∃ p, Named text p) ∧ ¬∃ v, DenotesInt text.toList v ∧ FitsInt64 v := by
  by_cases hname : ∃ p, Named text p
  · exact .inl hname
  · by_cases hnumber : ∃ v, DenotesInt text.toList v ∧ FitsInt64 v
    · exact .inr (.inl hnumber)
    · exact .inr (.inr ⟨hname, hnumber⟩)

theorem ofText_eq_ok_iff : ofText text = .ok p ↔ Named text p ∨
    ∃ v, DenotesInt text.toList v ∧ 1 ≤ v ∧ v ≤ 10000 ∧ (p.weight.toNat : Int) = v := by
  constructor
  · intro h
    rcases named_or_denotes_or_neither text with ⟨q, hq⟩ | ⟨v, hv, hfits⟩ | ⟨hname, hnumber⟩
    · rw [ofText_of_named hq] at h
      cases h
      exact .inl hq
    · rw [ofText_of_denotes hv hfits, ofInt_eq_ok_iff] at h
      exact .inr ⟨v, hv, h⟩
    · rw [ofText_of_neither hname hnumber] at h
      cases h
  · rintro (h | ⟨v, hv, hleast, hmost, hp⟩)
    · exact ofText_of_named h
    · have hfits : FitsInt64 v := ⟨by omega, by omega⟩
      rw [ofText_of_denotes hv hfits]
      exact ofInt_eq_ok_iff.mpr ⟨hleast, hmost, hp⟩

theorem ofText_eq_error_iff : ofText text = .error e ↔
    (∃ v, DenotesInt text.toList v ∧ FitsInt64 v ∧ ¬(1 ≤ v ∧ v ≤ 10000) ∧
        e = .priorityOutOfRange v) ∨
      (¬∃ p, Named text p) ∧ (¬∃ v, DenotesInt text.toList v ∧ FitsInt64 v) ∧
        e = .unknownPriority text := by
  constructor
  · intro h
    rcases named_or_denotes_or_neither text with ⟨q, hq⟩ | ⟨v, hv, hfits⟩ | ⟨hname, hnumber⟩
    · rw [ofText_of_named hq] at h
      cases h
    · rw [ofText_of_denotes hv hfits, ofInt_eq_error_iff] at h
      exact .inl ⟨v, hv, hfits, h⟩
    · rw [ofText_of_neither hname hnumber] at h
      cases h
      exact .inr ⟨hname, hnumber, rfl⟩
  · rintro (⟨v, hv, hfits, hrange, rfl⟩ | ⟨hname, hnumber, rfl⟩)
    · rw [ofText_of_denotes hv hfits]
      exact ofInt_eq_error_iff.mpr ⟨hrange, rfl⟩
    · exact ofText_of_neither hname hnumber

/-- **What is shown of a weight within its bounds is read as it**, be it a name or a number. -/
theorem ofText_text (h : p.WithinBounds) : ofText p.text = .ok p := by
  obtain ⟨hleast, hmost⟩ := h
  rw [text]
  cases halias : p.alias? with
  | some name =>
    exact ofText_of_named (ofAlias?_eq_some_iff.mp (ofAlias?_of_alias? halias))
  | none =>
    refine ofText_eq_ok_iff.mpr (.inr ⟨p.weight.toNat, ?_, by omega, by omega, rfl⟩)
    rw [Option.getD_none, toList_toString_nat]
    exact .unsigned (isNumeral_toDigits _)

/-- **Every text of a priority, and what comes of it.** It is read if it is a name, or digits with
at most one sign in front whose number is a weight. A number of sixty-four bits that is no weight is
out of range, and everything else is unknown. A weight that is read from some text is read from what
is shown of it. -/
theorem reads_exactly (text : String) (p : Priority) :
    (ofText text = .ok p ↔ Named text p ∨
      ∃ v, DenotesInt text.toList v ∧ 1 ≤ v ∧ v ≤ 10000 ∧ (p.weight.toNat : Int) = v) ∧
    (∀ e, ofText text = .error e ↔
      (∃ v, DenotesInt text.toList v ∧ FitsInt64 v ∧ ¬(1 ≤ v ∧ v ≤ 10000) ∧
          e = .priorityOutOfRange v) ∨
        (¬∃ q, Named text q) ∧ (¬∃ v, DenotesInt text.toList v ∧ FitsInt64 v) ∧
          e = .unknownPriority text) ∧
    ((∃ written, ofText written = .ok p) ↔ ofText p.text = .ok p) := by
  refine ⟨ofText_eq_ok_iff, fun e => ofText_eq_error_iff, ?_⟩
  constructor
  · rintro ⟨written, hread⟩
    exact ofText_text (withinBounds_of_ofText hread)
  · intro hshown
    exact ⟨p.text, hshown⟩

/-- The greatest number of sixty-four bits is out of range, and the next one is unknown. -/
example : ofText "9223372036854775807" = .error (.priorityOutOfRange 9223372036854775807) ∧
    ofText "9223372036854775808" = .error (.unknownPriority "9223372036854775808") ∧
    ofText "+0010000" = .ok highest :=
  ⟨rfl, rfl, rfl⟩

end MergeTrain.Priority
