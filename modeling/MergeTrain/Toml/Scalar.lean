import MergeTrain.Instant.Calendar
import MergeTrain.Json.Token
import MergeTrain.Text.Decimal
import MergeTrain.Text.Search
import MergeTrain.Toml.Basic

/-!
# Words and numbers in TOML

The values that are written without quotes or brackets: `true` and `false`, integers in four bases,
numbers with a fraction or an exponent, dates and times. Each form is recognised on a whole word.

## Main definitions

* `integer?`, `isReal`, `isMoment` — the forms.
* `scalar?` — the value of a word.
-/

namespace MergeTrain.Toml

open Text

/-! ### Integers -/

/-- The digits of a number; single underscores may stand between them. -/
def digitGroups? (isDigit : Char → Bool) : List Char → Option (List Char)
  | [] => none
  | [c] => if isDigit c then some [c] else none
  | c :: '_' :: rest => if isDigit c then (digitGroups? isDigit rest).map (c :: ·) else none
  | c :: rest => if isDigit c then (digitGroups? isDigit rest).map (c :: ·) else none

/-- The value of a digit in bases up to sixteen. -/
def digit? (base : Nat) (c : Char) : Option Nat :=
  (Json.hexValue? c).filter fun n => n < base

/-- A number without a sign, in a given base. -/
def natInBase? (base : Nat) (s : List Char) : Option Nat := do
  let digits ← digitGroups? (fun c => (digit? base c).isSome) s
  return digits.foldl (fun n c => base * n + (digit? base c).getD 0) 0

/-- A number without a sign, in base ten and without needless zeros in front. -/
def decimal? (s : List Char) : Option Nat :=
  match s with
  | '0' :: _ :: _ => none
  | _ => natInBase? 10 s

/-- A text without the sign at its start, if it has one there. -/
def unsigned : List Char → List Char
  | '+' :: rest => rest
  | '-' :: rest => rest
  | rest => rest

/-- An integer of any size. -/
def anyInteger? : List Char → Option Int
  | '0' :: 'x' :: rest => (natInBase? 16 rest).map Int.ofNat
  | '0' :: 'o' :: rest => (natInBase? 8 rest).map Int.ofNat
  | '0' :: 'b' :: rest => (natInBase? 2 rest).map Int.ofNat
  | '-' :: rest => (decimal? rest).map fun n => -Int.ofNat n
  | s => (decimal? (unsigned s)).map Int.ofNat

/-- An integer of sixty-four bits. -/
def integer? (s : List Char) : Option Int :=
  (anyInteger? s).filter isInt64

/-! ### Numbers with a fraction or an exponent -/

/-- What stands after the digits before it, from the first character that `stop` accepts. -/
def splitAt (stop : Char → Bool) (s : List Char) : List Char × List Char :=
  (s.takeWhile fun c => !stop c, s.dropWhile fun c => !stop c)

/-- An exponent with its letter, or nothing. -/
def exponent? : List Char → Option Int
  | [] => some 0
  | _ :: '-' :: rest => (digitGroups? isDigit rest).map fun ds => -Int.ofNat (natOfDigits ds)
  | _ :: rest => (digitGroups? isDigit (unsigned rest)).map fun ds => Int.ofNat (natOfDigits ds)

/-- The digits of a number with a fraction or an exponent, and the power of ten that the last of
them counts. -/
def digitsAndPower? (s : List Char) : Option (List Char × Int) := do
  let (whole, rest) := splitAt (fun c => c == '.' || c == 'e' || c == 'E') s
  if (decimal? whole).isNone then none
  let digits ← digitGroups? isDigit whole
  match rest with
  | [] => none
  | '.' :: rest =>
    let (fraction, exponent) := splitAt (fun c => c == 'e' || c == 'E') rest
    let more ← digitGroups? isDigit fraction
    return (digits ++ more, (← exponent? exponent) - more.length)
  | exponent => return (digits, ← exponent? exponent)

/-- The least number that is nearer to infinity than to any number of double precision. It has 309
digits. -/
def leastInfinite : Nat :=
  Nat.pow 2 1024 - Nat.pow 2 970

/-- Whether a number stands for infinity in double precision. -/
def isInfinite (digits : List Char) (power : Int) : Bool :=
  let digits := digits.dropWhile (· == '0')
  let length := digits.length + power
  !digits.isEmpty && 308 < length &&
    (309 < length ||
      leastInfinite * Nat.pow 10 (-power).toNat ≤ natOfDigits digits * Nat.pow 10 power.toNat)

/-- A number with a fraction or an exponent, or one of the special numbers. Infinity has to be
written as such, unless it is negative. -/
def isReal (s : List Char) : Bool :=
  let u := unsigned s
  u == "inf".toList || u == "nan".toList ||
    (digitsAndPower? u).any fun (digits, power) => s.head? == some '-' || !isInfinite digits power

/-! ### Dates and times -/

/-- Two digits that make a number in a range. -/
def isPair (least most : Nat) (a b : Char) : Bool :=
  isDigit a && isDigit b &&
    let n := natOfDigits [a, b]
    least ≤ n && n ≤ most

/-- What follows a date. -/
def afterDate? : List Char → Option (List Char)
  | a :: b :: c :: d :: '-' :: e :: f :: '-' :: g :: h :: rest =>
    let leap := Calendar.isLeap (natOfDigits [a, b, c, d])
    if [a, b, c, d].all isDigit && isPair 1 12 e f &&
        isPair 1 (Calendar.monthLength leap (natOfDigits [e, f])) g h then
      some rest
    else none
  | _ => none

/-- What follows a time of the day. -/
def afterTime? : List Char → Option (List Char)
  | a :: b :: ':' :: c :: d :: ':' :: e :: f :: rest =>
    if isPair 0 23 a b && isPair 0 59 c d && isPair 0 60 e f then
      match rest with
      | '.' :: digits =>
        if digits.head?.any isDigit then some (digits.dropWhile isDigit) else none
      | _ => some rest
    else none
  | _ => none

/-- Nothing, or the distance from Coordinated Universal Time. -/
def isOffset : List Char → Bool
  | [] => true
  | ['Z'] => true
  | ['z'] => true
  | [sign, a, b, ':', c, d] => (sign == '+' || sign == '-') && isPair 0 23 a b && isPair 0 59 c d
  | _ => false

/-- A date, a time, or both; a letter or a blank stands between them. -/
def isMoment (s : List Char) : Bool :=
  match afterDate? s with
  | some [] => true
  | some (mark :: rest) =>
    (mark == 'T' || mark == 't' || mark == ' ') && (afterTime? rest).any isOffset
  | none => afterTime? s == some []

/-! ### Words -/

/-- A character of a word. -/
def isWordChar (c : Char) : Bool :=
  c.isAlphanum || c == '_' || c == '-' || c == '+' || c == '.' || c == ':'

/-- The value of a word. -/
def scalar? (s : List Char) : Option Toml :=
  if s == "true".toList then some (.bool true)
  else if s == "false".toList then some (.bool false)
  else
    match integer? s with
    | some n => some (.integer n)
    | none => if isReal s || isMoment s then some (.other (String.ofList s)) else none

/-- The word at the start of a text. A time may follow a date after a blank. -/
def word (s : List Char) : List Char :=
  let first := s.takeWhile isWordChar
  match afterDate? first, s.drop first.length with
  | some [], ' ' :: rest =>
    let second := rest.takeWhile isWordChar
    if (afterTime? second).any isOffset then first ++ ' ' :: second else first
  | _, _ => first

end MergeTrain.Toml
