/-!
# Decimal digits

Reading numbers written in ASCII digits. Nothing else is accepted: no blanks, no separators, no
digits of other scripts.
-/

namespace MergeTrain.Text

/-- An ASCII digit. -/
def isDigit (c : Char) : Bool :=
  '0' ≤ c && c ≤ '9'

/-- The value of an ASCII digit. -/
def digitValue (c : Char) : Nat :=
  c.toNat - 48

/-- The number that a list of digits denotes, most significant first. -/
def natOfDigits (digits : List Char) : Nat :=
  digits.foldl (fun n c => 10 * n + digitValue c) 0

/-- One or more digits. -/
def readNat? (s : List Char) : Option Nat :=
  if s.isEmpty || !s.all isDigit then none else some (natOfDigits s)

/-- An optional single sign, then one or more digits. -/
def readInt? : List Char → Option Int
  | '+' :: digits => (readNat? digits).map Int.ofNat
  | '-' :: digits => (readNat? digits).map fun n => -Int.ofNat n
  | digits => (readNat? digits).map Int.ofNat

/-- A number that fits in sixty-four bits with a sign. -/
def isInt64 (n : Int) : Bool :=
  -9223372036854775808 ≤ n && n ≤ 9223372036854775807

/-- A signed number of at most sixty-four bits. -/
def readInt64? (s : List Char) : Option Int :=
  (readInt? s).filter isInt64

end MergeTrain.Text
