/-!
# Blank characters

Which characters count as blank, and texts without the blanks at their ends. Texts are lists of
characters here and become `String` only where a value is stored.

## Main definitions

* `isBlank` — Unicode's `White_Space` property.
* `trimStart`, `trim` — a text without the blanks at its start, or at both ends.
-/

namespace MergeTrain.Text

/-- The characters with Unicode's `White_Space` property. -/
def isBlank (c : Char) : Bool :=
  let n := c.toNat
  (0x9 ≤ n && n ≤ 0xD) || n == 0x20 || n == 0x85 || n == 0xA0 || n == 0x1680 ||
    (0x2000 ≤ n && n ≤ 0x200A) || n == 0x2028 || n == 0x2029 || n == 0x202F || n == 0x205F ||
    n == 0x3000

/-- Drop the blanks at the start. -/
def trimStart (s : List Char) : List Char :=
  s.dropWhile isBlank

/-- Drop the blanks at the end. -/
def trimEnd (s : List Char) : List Char :=
  (s.reverse.dropWhile isBlank).reverse

/-- Drop the blanks at both ends. -/
def trim (s : List Char) : List Char :=
  trimEnd (trimStart s)

/-- A text of blanks only. -/
def isBlankText (s : List Char) : Bool :=
  s.all isBlank

/-- A string without the blanks at its ends. -/
def trimmed (s : String) : String :=
  String.ofList (trim s.toList)

end MergeTrain.Text
