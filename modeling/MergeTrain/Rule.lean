import MergeTrain.Condition

/-!
# Rules

A rule as its evaluation left it: its conditions, and those among them that the pull request does
not meet. Conditions are told apart by their text.

## Main definitions

* `Rule` — a rule and its missing conditions.
* `Rule.ofTexts` — the rule with given texts.
* `Rule.isMissing` — whether a condition is missing.
-/

namespace MergeTrain

/-- A rule after its evaluation on a pull request. -/
structure Rule where
  name : String := ""
  conditions : List Condition := []
  /-- The conditions that the pull request does not meet. -/
  missing : List Condition := []

namespace Rule

/-- The condition among `conditions` whose text is `text`, blanks around it aside. -/
def find (name : String) (conditions : List Condition) (text : String) :
    Except ConfigError Condition :=
  match conditions.find? fun c => c.text == Text.trimmed text with
  | some c => .ok c
  | none => .error (.notInRule text name)

/-- The rule with conditions of these texts. Every missing one must be a condition of the rule. -/
def ofTexts (name : String) (conditions missing : List String) : Except ConfigError Rule := do
  let conditions ← conditions.mapM Condition.ofText
  let missing ← missing.mapM (find name conditions)
  return { name, conditions, missing }

/-- Whether a condition is missing. -/
def isMissing (r : Rule) (c : Condition) : Bool :=
  r.missing.any fun m => m.text == c.text

end Rule

end MergeTrain
