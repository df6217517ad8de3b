import Mathlib.Data.Nat.Digits.Defs
import MergeTrain.Proofs.Text

/-!
# Numbers in digits

What a row of digits is worth does not depend on how it is read: every digit counts by its place,
and zeros in front count for nothing. A reader that goes from left to right comes to the same
number.

An integer is written as such a row, with at most one sign in front. This says which texts are read
as integers and as which, so there is nothing else that the reader takes: no blanks, no separators,
no second sign, and no sign alone.

## Main definitions

* `Text.IsNumeral`, `Text.DenotesInt` — what digits, and digits with a sign, stand for.
* `Text.FitsInt64` — the integers of sixty-four bits.

## Main results

* `Text.natOfDigits_replicate_zero_append` — zeros in front.
* `Text.readInt?_eq_some_iff`, `Text.readInt64?_eq_some_iff` — the integers that are read.
-/

namespace MergeTrain.Text

variable {s t : List Char} {n : Nat} {v : Int}

/-! ### Digits -/

/-- One or more digits and their number, in which each counts by its place. -/
structure IsNumeral (s : List Char) (n : Nat) : Prop where
  nonempty : s ≠ []
  digits : ∀ c ∈ s, isDigit c = true
  value : n = Nat.ofDigits 10 (s.reverse.map digitValue)

theorem natOfDigits_concat (s : List Char) (c : Char) :
    natOfDigits (s ++ [c]) = 10 * natOfDigits s + digitValue c := by
  rw [natOfDigits, List.foldl_append]
  rfl

/-- Reading from left to right gives every digit the weight of its place. -/
theorem natOfDigits_eq_ofDigits (s : List Char) :
    natOfDigits s = Nat.ofDigits 10 (s.reverse.map digitValue) := by
  induction s using List.reverseRecOn with
  | nil => rfl
  | append_singleton s c ih =>
    rw [natOfDigits_concat, ih, List.reverse_concat, List.map_cons, Nat.ofDigits_cons,
      Nat.add_comm]

theorem IsNumeral.natOfDigits_eq (h : IsNumeral s n) : natOfDigits s = n := by
  rw [natOfDigits_eq_ofDigits, h.value]

/-- Zeros in front count for nothing. -/
theorem natOfDigits_replicate_zero_append (count : Nat) (s : List Char) :
    natOfDigits (List.replicate count '0' ++ s) = natOfDigits s := by
  induction count with
  | zero => rfl
  | succ count ih => rw [List.replicate_succ, List.cons_append, ← ih]; rfl

theorem readNat?_eq_some_iff : readNat? s = some n ↔ IsNumeral s n := by
  constructor
  · intro h
    rw [readNat?] at h
    split at h
    · cases h
    · next hread =>
      obtain ⟨hne, hdigits⟩ : s ≠ [] ∧ ∀ c ∈ s, isDigit c = true := by simpa using hread
      exact ⟨hne, hdigits, by rw [← natOfDigits_eq_ofDigits, Option.some.inj h]⟩
  · rintro ⟨hne, hdigits, rfl⟩
    rw [readNat?, if_neg (by simpa using ⟨hne, hdigits⟩), natOfDigits_eq_ofDigits]

theorem isNumeral_toDigits (n : Nat) : IsNumeral (Nat.toDigits 10 n) n where
  nonempty := Nat.toDigits_ne_nil
  digits := fun _ => isDigit_of_mem_toDigits
  value := by rw [← natOfDigits_eq_ofDigits, natOfDigits_toDigits]

/-! ### Integers -/

/-- A text that denotes an integer: digits, with at most one sign in front. -/
inductive DenotesInt : List Char → Int → Prop where
  | unsigned {s : List Char} {n : Nat} (h : IsNumeral s n) : DenotesInt s n
  | positive {s : List Char} {n : Nat} (h : IsNumeral s n) : DenotesInt ('+' :: s) n
  | negative {s : List Char} {n : Nat} (h : IsNumeral s n) : DenotesInt ('-' :: s) (-n)

/-- A sign is no digit, so that a text is a numeral after a sign or without one, never both. -/
theorem IsNumeral.head_ne (h : IsNumeral s n) (rest : List Char) :
    s ≠ '+' :: rest ∧ s ≠ '-' :: rest := by
  constructor
  · rintro rfl
    exact absurd (h.digits '+' List.mem_cons_self) (by decide)
  · rintro rfl
    exact absurd (h.digits '-' List.mem_cons_self) (by decide)

/-- **The texts that are read as integers**, and what they are read as. -/
theorem readInt?_eq_some_iff : readInt? s = some v ↔ DenotesInt s v := by
  constructor
  · intro h
    unfold readInt? at h
    split at h
    all_goals obtain ⟨n, hread, rfl⟩ := Option.map_eq_some_iff.mp h
    · exact .positive (readNat?_eq_some_iff.mp hread)
    · exact .negative (readNat?_eq_some_iff.mp hread)
    · exact .unsigned (readNat?_eq_some_iff.mp hread)
  · intro h
    cases h with
    | unsigned h =>
      rw [readInt?.eq_3 _ (fun rest => (h.head_ne rest).1) (fun rest => (h.head_ne rest).2),
        readNat?_eq_some_iff.mpr h]
      rfl
    | positive h => rw [readInt?, readNat?_eq_some_iff.mpr h]; rfl
    | negative h => rw [readInt?, readNat?_eq_some_iff.mpr h]; rfl

/-- An integer of sixty-four bits. -/
def FitsInt64 (v : Int) : Prop :=
  -2 ^ 63 ≤ v ∧ v < 2 ^ 63

theorem isInt64_iff : isInt64 v = true ↔ FitsInt64 v := by
  simp only [isInt64, FitsInt64, Bool.and_eq_true, decide_eq_true_eq]
  omega

theorem readInt64?_eq_some_iff : readInt64? s = some v ↔ DenotesInt s v ∧ FitsInt64 v := by
  rw [readInt64?, Option.filter_eq_some_iff, readInt?_eq_some_iff, isInt64_iff]

theorem readInt64?_eq_none_iff : readInt64? s = none ↔ ¬∃ v, DenotesInt s v ∧ FitsInt64 v := by
  simp only [Option.eq_none_iff_forall_ne_some, Ne, readInt64?_eq_some_iff, not_exists]

end MergeTrain.Text
