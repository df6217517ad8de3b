import MergeTrain.Priority
import MergeTrain.Proofs.Keyed
import MergeTrain.Proofs.Text

/-!
# Priorities as they are shown

A priority is shown by its name if it has one, else by its number. No number looks like a name, so a
priority is known by what is shown of it.

## Main results

* `Priority.text_injective` — different priorities are shown differently.
* `Priority.isDigit_or_isLower_of_mem_text` — the characters that occur.
-/

namespace MergeTrain.Priority

variable {p q : Priority} {name : String}

theorem ofAlias?_of_alias? (h : p.alias? = some name) : ofAlias? name = some p := by
  obtain ⟨⟨name', p'⟩, hfound, rfl⟩ := Option.map_eq_some_iff.mp h
  have hp : p' = p := by simpa using List.find?_some hfound
  rw [ofAlias?, lookup_eq_some_iff_mem (by decide), ← hp]
  exact List.mem_of_find?_eq_some hfound

/-- No number looks like a name. -/
theorem ofAlias?_toString (n : Nat) : ofAlias? (toString n) = none := by
  rw [ofAlias?, lookup_eq_none_iff_not_mem]
  intro hmem
  have hnames : ((aliases.map Prod.fst).all fun name => name.toList.any fun c => !Text.isDigit c)
      = true := by
    decide
  obtain ⟨c, hc, hno⟩ := List.any_eq_true.mp (List.all_eq_true.mp hnames _ hmem)
  rw [Text.toList_toString_nat] at hc
  rw [Text.isDigit_of_mem_toDigits hc] at hno
  cases hno

/-- What is meant by what is shown. -/
def ofShown (text : String) : Priority :=
  (ofAlias? text).getD ⟨.ofNat (Text.natOfDigits text.toList)⟩

theorem ofShown_text (p : Priority) : ofShown p.text = p := by
  rw [text, ofShown]
  cases h : p.alias? with
  | some name => rw [Option.getD_some, ofAlias?_of_alias? h, Option.getD_some]
  | none =>
    rw [Option.getD_none, ofAlias?_toString, Option.getD_none, Text.toList_toString_nat,
      Text.natOfDigits_toDigits, UInt32.ofNat_toNat]

/-- **Different priorities are shown differently.** -/
theorem text_injective : Function.Injective text :=
  Function.LeftInverse.injective ofShown_text

theorem isDigit_or_isLower_of_mem_text {c : Char} (h : c ∈ p.text.toList) :
    Text.isDigit c = true ∨ c.isLower = true := by
  rw [text] at h
  cases halias : p.alias? with
  | some name =>
    rw [halias, Option.getD_some] at h
    have hnames : (aliases.all fun pair => pair.1.toList.all Char.isLower) = true := by decide
    obtain ⟨pair, hfound, rfl⟩ := Option.map_eq_some_iff.mp halias
    have hname := List.all_eq_true.mp hnames pair (List.mem_of_find?_eq_some hfound)
    exact .inr (List.all_eq_true.mp hname c h)
  | none =>
    rw [halias, Option.getD_none, Text.toList_toString_nat] at h
    exact .inl (Text.isDigit_of_mem_toDigits h)

end MergeTrain.Priority
