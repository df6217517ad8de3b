/-!
# Letters without regard to case

Only two characters outside ASCII differ from an ASCII letter by case alone: the long s and the
Kelvin sign. So a text of ASCII letters can be recognised in any spelling without a table.
-/

namespace MergeTrain.Text

/-- The lower case ASCII letter that `c` is a spelling of, or `c` itself. -/
def plainLetter (c : Char) : Char :=
  if c = Char.ofNat 0x17F then 's'
  else if c = Char.ofNat 0x212A then 'k'
  else c.toLower

/-- What follows `lead`, a text in lower case ASCII, whatever the case in which `s` spells it. -/
def afterAnyCase? : List Char → List Char → Option (List Char)
  | [], s => some s
  | _ :: _, [] => none
  | l :: lead, c :: s => if plainLetter c = l then afterAnyCase? lead s else none

end MergeTrain.Text
