import MergeTrain.Error
import MergeTrain.Pattern.Match
import MergeTrain.Pattern.Parser
import MergeTrain.Text.Blank
import MergeTrain.Text.Search

/-!
# Conditions

A condition names an attribute and tests its value: `label=ready`, `author!=bot`, `title~=^fix`, or
a bare `conflict`, which asks for any value at all. Of the three signs the one looked for first is
`~=`, then `!=`, then `=`, wherever they stand in the text.

## Main definitions

* `Condition` — an attribute, a test and the text that they come from.
* `Condition.ofText` — the condition that a text denotes.
* `Condition.holds` — whether a value of an attribute passes.
-/

namespace MergeTrain

open Text

/-- What a condition asks of a value. -/
inductive ValueTest where
  | equals (value : String)
  | differs (value : String)
  /-- The pattern occurs in the value. -/
  | fits (pattern : Pattern)
  /-- The value is not empty. -/
  | present

/-- Whether a value passes. -/
def ValueTest.passes (test : ValueTest) (value : String) : Bool :=
  match test with
  | .equals expected => value == expected
  | .differs unwanted => value != unwanted
  | .fits pattern => pattern.occursIn value
  | .present => !value.isEmpty

/-- One value of one attribute. -/
structure Subject where
  attr : String
  value : String
  deriving DecidableEq, Repr

/-- A condition of a rule. -/
structure Condition where
  /-- The condition as written, without the blanks around it. -/
  text : String
  attr : String
  test : ValueTest

namespace Condition

/-- The attribute and the test of a text without blanks around it. -/
def parts (source : List Char) : Except ConfigError (List Char × ValueTest) :=
  match cut? ['~', '='] source with
  | some (attr, value) =>
    match Pattern.ofText? (String.ofList (trim value)) with
    | some pattern => .ok (attr, .fits pattern)
    | none => .error (.invalidPattern (String.ofList source))
  | none =>
    match cut? ['!', '='] source with
    | some (attr, value) => .ok (attr, .differs (String.ofList (trim value)))
    | none =>
      match cut? ['='] source with
      | some (attr, value) => .ok (attr, .equals (String.ofList (trim value)))
      | none => .ok (source, .present)

/-- The condition that a text denotes. -/
def ofText (text : String) : Except ConfigError Condition := do
  let source := trim text.toList
  if source.isEmpty then throw .emptyCondition
  let (attr, test) ← parts source
  let attr := trim attr
  if attr.isEmpty then throw (.missingAttribute (String.ofList source))
  return { text := String.ofList source, attr := String.ofList attr, test }

/-- The condition that the check of a given name ends well. -/
def checkSuccess (name : String) : Condition :=
  { text := "check-success=" ++ name, attr := "check-success", test := .equals name }

/-- Whether a condition holds of a subject: its attribute is the one meant and its value passes. -/
def holds (c : Condition) (subject : Subject) : Bool :=
  subject.attr == c.attr && c.test.passes subject.value

/-- Whether a condition holds of a value of the attribute that it names. -/
def accepts (c : Condition) (value : String) : Bool :=
  c.holds { attr := c.attr, value }

/-- Whether a condition is about a check or a commit status. -/
def isCheckRelated (c : Condition) : Bool :=
  ["check-", "status-"].any fun lead => lead.toList.isPrefixOf c.attr.toList

end Condition

end MergeTrain
