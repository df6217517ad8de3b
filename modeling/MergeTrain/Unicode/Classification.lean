import MergeTrain.Text.Decimal
import MergeTrain.Unicode.CharSet

/-!
# Tables of characters

Many properties of the standard sort all characters into classes, each with a code of a few
letters. Neighbours mostly share a class, so a table is a list of runs, written as the length of
each run followed by its code. Smaller sets are written as ranges of hexadecimal codes.

## Main definitions

* `Run`, `Runs` — characters in a row with one code.
* `Classification` — a table with the names of its classes.
* `Classification.set?` — the characters that the name of a class stands for.
* `decodeRanges` — a set from the text of its ranges.
-/

namespace MergeTrain.Unicode

/-! ### Runs -/

/-- Characters in a row with one code. -/
structure Run where
  range : CodeRange
  code : String

/-- The runs of all characters, in increasing order. -/
abbrev Runs := List Run

/-- A table being read, the latest run first. -/
structure RunReader where
  /-- The first character of the next run. -/
  first : Nat := 0
  length : Nat := 0
  code : String := ""
  runs : Runs := []

/-- Read one character of a table whose codes have `width` letters. -/
def RunReader.step (width : Nat) (r : RunReader) (c : Char) : RunReader :=
  if Text.isDigit c then { r with length := 10 * r.length + Text.digitValue c }
  else
    let code := r.code.push c
    if code.length < width then { r with code }
    else
      { first := r.first + r.length
        runs := ⟨⟨r.first, r.first + r.length - 1⟩, code⟩ :: r.runs }

/-- The table that a text denotes. -/
def decodeRuns (width : Nat) (text : String) : Runs :=
  (text.toList.foldl (RunReader.step width) {}).runs.reverse

/-- The characters with one of some codes. -/
def Runs.having (runs : Runs) (codes : List String) : CharSet :=
  .ofRanges ((runs.filter fun run => codes.contains run.code).map Run.range)

/-- A property that sorts all characters into classes. -/
structure Classification where
  runs : Runs
  /-- The names of classes, in the form that `looseName` gives to names, with the codes of the
  classes that they stand for. -/
  names : List (List String × List String)

namespace Classification

/-- The codes that a name stands for. -/
def codes? (c : Classification) (name : String) : Option (List String) :=
  (c.names.find? fun entry => entry.1.contains name).map Prod.snd

/-- The characters that a name stands for. -/
def set? (c : Classification) (name : String) : Option CharSet :=
  (c.codes? name).map c.runs.having

end Classification

/-! ### Ranges -/

/-- The value of hexadecimal digits in upper case. -/
def hexNat (word : String) : Nat :=
  word.toList.foldl
    (fun n c => 16 * n + if Text.isDigit c then c.toNat - 48 else c.toNat - 55) 0

/-- A range from its text: a code, or two with a hyphen between. A slash after the two means that
only every other character counts. -/
def decodeRange? (word : String) : Option (CodeRange × Bool) :=
  match word.splitOn "-" with
  | [one] => some (⟨hexNat one, hexNat one⟩, false)
  | [first, last] =>
    match last.splitOn "/" with
    | [last] => some (⟨hexNat first, hexNat last⟩, false)
    | last :: _ => some (⟨hexNat first, hexNat last⟩, true)
    | [] => none
  | _ => none

/-- Every other code of a range, from the first on. -/
def everyOther (r : CodeRange) : List CodeRange :=
  (List.range ((r.last - r.first) / 2 + 1)).map fun i => ⟨r.first + 2 * i, r.first + 2 * i⟩

/-- The set of the ranges of a text, with blanks between them. -/
def decodeRanges (text : String) : CharSet :=
  .ofRanges ((text.splitOn " ").flatMap fun word =>
    match decodeRange? word with
    | some (r, false) => [r]
    | some (r, true) => everyOther r
    | none => [])

end MergeTrain.Unicode
