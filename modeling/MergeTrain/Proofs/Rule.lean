import MergeTrain.Proofs.Condition
import MergeTrain.Rule

/-!
# Rules that can be evaluated

A rule is evaluated from texts: those of its conditions, and those of the conditions that the pull
request does not meet. This fails in two ways. A text may denote no condition, and a missing one may
be none of the rule. Missing conditions are looked up by their texts without the blanks around them,
and such texts are what conditions bear, so both can be told from the texts alone.

## Main definitions

* `Rule.Consistent` — texts that a rule can be evaluated from.

## Main results

* `Rule.exists_ofTexts_iff` — a rule is evaluated exactly from consistent texts.
-/

namespace MergeTrain

namespace Rule

/-- A condition is found if some condition bears the text, blanks aside. -/
theorem exists_find_iff {name text : String} {conditions : List Condition} :
    (∃ c, find name conditions text = .ok c) ↔ ∃ c ∈ conditions, c.text = Text.trimmed text := by
  rw [find]
  cases hfound : conditions.find? fun c => c.text == Text.trimmed text with
  | none => simpa using hfound
  | some c =>
    have hc := List.find?_some hfound
    exact ⟨fun _ => ⟨c, List.mem_of_find?_eq_some hfound, by simpa using hc⟩, fun _ => ⟨c, rfl⟩⟩

variable {name : String} {conditions missing : List String} {rule : Rule}

/-- What a rule is evaluated from, and in which order. -/
theorem ofTexts_eq_ok_iff : ofTexts name conditions missing = .ok rule ↔
    ∃ read, conditions.mapM Condition.ofText = .ok read ∧
      ∃ found, missing.mapM (find name read) = .ok found ∧ rule = ⟨name, read, found⟩ := by
  simp only [ofTexts, bind_eq_ok_iff, pure_eq_ok_iff]

/-- The texts of conditions and of missing ones make up a rule: all of the former denote conditions,
and the latter are among them, blanks aside. -/
structure Consistent (conditions missing : List String) : Prop where
  denote : ∀ text ∈ conditions, ∃ c, Condition.ofText text = .ok c
  among : ∀ text ∈ missing, ∃ other ∈ conditions, Text.trimmed other = Text.trimmed text

/-- **A rule is evaluated exactly from consistent texts**, whatever its name. -/
theorem exists_ofTexts_iff (name : String) :
    (∃ rule, ofTexts name conditions missing = .ok rule) ↔ Consistent conditions missing := by
  simp only [ofTexts_eq_ok_iff]
  constructor
  · rintro ⟨rule, read, hread, found, hfound, -⟩
    refine ⟨exists_mapM_eq_ok_iff.mp ⟨read, hread⟩, fun text htext => ?_⟩
    obtain ⟨c, hc, hbears⟩ :=
      exists_find_iff.mp (exists_mapM_eq_ok_iff.mp ⟨found, hfound⟩ text htext)
    obtain ⟨other, hother, hof⟩ := (mem_of_mapM_eq_ok hread).mp hc
    exact ⟨other, hother, (Condition.text_of_ofText hof).symm.trans hbears⟩
  · intro h
    obtain ⟨read, hread⟩ := exists_mapM_eq_ok_iff.mpr h.denote
    have hfind : ∀ text ∈ missing, ∃ c, find name read text = .ok c := by
      intro text htext
      obtain ⟨other, hother, hsame⟩ := h.among text htext
      obtain ⟨c, hc⟩ := h.denote other hother
      exact exists_find_iff.mpr ⟨c, (mem_of_mapM_eq_ok hread).mpr ⟨other, hother, hc⟩,
        (Condition.text_of_ofText hc).trans hsame⟩
    obtain ⟨found, hfound⟩ := exists_mapM_eq_ok_iff.mpr hfind
    exact ⟨_, read, hread, found, hfound, rfl⟩

end Rule

end MergeTrain
