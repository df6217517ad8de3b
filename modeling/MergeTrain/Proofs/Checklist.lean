import MergeTrain.Proofs.Rule
import MergeTrain.Report.Waiting

/-!
# What a checklist shows

A report on a waiting pull request lists the conditions of its rule. What the list shows can be told
from the texts that the rule was evaluated from: there is one item for each text of a condition, in
their order and with the blanks around it dropped, and its box is empty if and only if the same text
is among those of the missing conditions. A condition given twice has two items, which agree.

The argument is that a condition bears its text without the blanks around it, whether it is one of
the rule or one that was looked up as missing. A box is drawn by comparing what conditions bear.

## Main definitions

* `Rule.itemOf`, `Rule.checklistOf` — an item and the list, from texts alone.

## Main results

* `Rule.map_text_missing` — the texts that the missing conditions of a rule bear.
* `Rule.checklistItem_eq` — the item of a condition is that of its text.
* `Rule.checklist_eq` — the list of a rule is that of its texts.
* `Rule.lists_as_read` — when a rule can be evaluated, and what both reports then show.
-/

namespace MergeTrain.Rule

variable {name text : String} {conditions missing : List String} {found : List Condition}
  {c : Condition} {rule : Rule}

/-- The item for a text of a condition, given the texts of the missing ones. -/
def itemOf (missing : List String) (text : String) : String :=
  "\n- [" ++ (if Text.trimmed text ∈ missing.map Text.trimmed then " " else "X") ++ "] `" ++
    Text.trimmed text ++ "`"

/-- The list for the texts of conditions, given those of the missing ones. -/
def checklistOf (conditions missing : List String) : String :=
  "\n\nRequired conditions for merge:\n" ++ String.join (conditions.map (itemOf missing))

/-! ### What conditions bear -/

theorem text_of_find (h : find name found text = .ok c) : c.text = Text.trimmed text := by
  rw [find] at h
  split at h
  next c' hfound =>
    cases h
    simpa using List.find?_some hfound
  next => cases h

/-- The missing conditions of a rule bear the texts that they were looked up by. -/
theorem map_text_missing (h : ofTexts name conditions missing = .ok rule) :
    rule.missing.map Condition.text = missing.map Text.trimmed := by
  obtain ⟨read, -, found, hfound, rfl⟩ := ofTexts_eq_ok_iff.mp h
  exact map_eq_of_mapM_eq_ok hfound fun _ _ => text_of_find

/-! ### The list -/

/-- A box is empty if what is shown beside it is among the missing texts. -/
theorem isMissing_iff (h : ofTexts name conditions missing = .ok rule) :
    rule.isMissing c = true ↔ c.text ∈ missing.map Text.trimmed := by
  rw [← map_text_missing h]
  simp [isMissing]

theorem checklistItem_eq (h : ofTexts name conditions missing = .ok rule)
    (hread : Condition.ofText text = .ok c) : checklistItem rule c = itemOf missing text := by
  simp only [checklistItem, itemOf, isMissing_iff h, Condition.text_of_ofText hread]

/-- **The list of a rule is that of the texts** that it was evaluated from. -/
theorem checklist_eq (h : ofTexts name conditions missing = .ok rule) :
    checklist (some rule) = checklistOf conditions missing := by
  obtain ⟨read, hread, found, -, hrule⟩ := ofTexts_eq_ok_iff.mp h
  have hconditions : rule.conditions = read := by rw [hrule]
  have hitems : rule.conditions.map (checklistItem rule) = conditions.map (itemOf missing) := by
    rw [hconditions]
    exact map_eq_of_mapM_eq_ok hread fun _ _ => checklistItem_eq h
  -- the texts begin with the same words, which are not to be evaluated
  exact congrArg (fun items => "\n\nRequired conditions for merge:\n" ++ String.join items) hitems

/-- **What is read is what is shown.** A rule can be evaluated from texts if and only if those of
its conditions all denote conditions and each missing text is one of them, blanks around it aside.
Then both reports that show a list end with one that has exactly one item for each condition, in
order, with the text of the condition, and with an empty box if and only if that text is missing. -/
theorem lists_as_read (name : String) (conditions missing : List String) :
    ((∃ rule, ofTexts name conditions missing = .ok rule) ↔
      (∀ text ∈ conditions, ∃ c, Condition.ofText text = .ok c) ∧
        ∀ text ∈ missing, ∃ other ∈ conditions, Text.trimmed other = Text.trimmed text) ∧
    ∀ rule, ofTexts name conditions missing = .ok rule → ∀ entitlements queue owner,
      (strictStatus entitlements queue owner false (some rule)).summary =
        (strictStatus entitlements queue owner false none).summary ++
          checklistOf conditions missing ∧
      ∀ number strict isBehind,
        (waitingStatus entitlements queue number owner strict isBehind (some rule)).summary =
          (waitingStatus entitlements queue number owner strict isBehind none).summary ++
            checklistOf conditions missing := by
  refine ⟨(exists_ofTexts_iff name).trans ⟨fun h => ⟨h.denote, h.among⟩, fun h => ⟨h.1, h.2⟩⟩,
    fun rule hrule entitlements queue owner => ?_⟩
  have hnone : checklist none = "" := rfl
  simp only [strictStatus, waitingStatus, StatusReport.pending, checklist_eq hrule, hnone,
    String.append_empty, if_neg Bool.false_ne_true, implies_true, and_self]

/-- A condition that is given twice, and missing under yet another spelling, has two empty boxes. -/
theorem label_is_missing_twice :
    ∃ rule, ofTexts "automerge" ["label=ready", " check-success=ci", "label=ready "]
        ["  label=ready"] = .ok rule ∧
      (waitingStatus (Subscription.free 42).entitlements
          { repository := "acme/widgets", branch := "main" } 1 ⟨42, "acme"⟩ .continuous false
          (some rule)).summary =
        "\n\nRequired conditions for merge:\n\n- [ ] `label=ready`\n- [X] `check-success=ci`" ++
          "\n- [ ] `label=ready`" := by
  obtain ⟨hread, hshow⟩ := lists_as_read "automerge"
    ["label=ready", " check-success=ci", "label=ready "] ["  label=ready"]
  obtain ⟨rule, hrule⟩ := hread.mpr
    ⟨by simpa using ⟨⟨_, rfl⟩, ⟨_, rfl⟩, ⟨_, rfl⟩⟩, by decide +kernel⟩
  refine ⟨rule, hrule, ?_⟩
  rw [(hshow rule hrule _ _ _).2]
  decide +kernel

end MergeTrain.Rule
