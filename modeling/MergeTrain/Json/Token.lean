import MergeTrain.Text.Decimal

/-!
# JSON tokens

The scanner is a machine that takes one character at a time, so it needs no bound on the length of
a text. It knows the lexical rules only; the order of tokens is the reader's affair.

## Main definitions

* `Token` — brackets, commas, colons and scalar values.
* `Scan` — where the scanner stands.
* `Scan.step`, `tokens?` — one character, and a whole text.
-/

namespace MergeTrain.Json

open Text

/-- A lexical unit. -/
inductive Token where
  | openBrace
  | closeBrace
  | openBracket
  | closeBracket
  | colon
  | comma
  | null
  | bool (value : Bool)
  | int (value : Int)
  | real (text : String)
  | string (text : String)
  | halfPair
  deriving DecidableEq

/-- A string being scanned. -/
structure Quote where
  /-- The characters so far, last first. -/
  done : List Char := []
  /-- The first half of a surrogate pair, when it was the last thing read. -/
  high : Option Nat := none
  /-- Whether some half was left without the other. -/
  broken : Bool := false

/-- Where the scanner stands. -/
inductive Scan where
  | between
  | quote (q : Quote)
  | escape (q : Quote)
  /-- After `\u`, with the digits still to come and the value so far. -/
  | unicode (q : Quote) (left : Nat) (value : Nat)
  /-- In a number, its characters last first. -/
  | number (done : List Char)
  /-- In a word, its characters last first. -/
  | word (done : List Char)

namespace Quote

/-- Add a character. A first half waiting before it stays alone. -/
def push (q : Quote) (c : Char) : Quote :=
  { done := c :: q.done, high := none, broken := q.broken || q.high.isSome }

/-- Add a sixteen-bit unit, joining the two halves of a pair. -/
def pushUnit (q : Quote) (unit : Nat) : Quote :=
  let isHigh := 0xD800 ≤ unit && unit < 0xDC00
  let isLow := 0xDC00 ≤ unit && unit < 0xE000
  match q.high with
  | some high =>
    if isLow then
      { done := Char.ofNat (0x10000 + (high - 0xD800) * 0x400 + (unit - 0xDC00)) :: q.done
        high := none
        broken := q.broken }
    else { done := q.done, high := if isHigh then some unit else none, broken := true }
  | none =>
    if isHigh then { done := q.done, high := some unit, broken := q.broken }
    else if isLow then { done := q.done, high := none, broken := true }
    else { done := Char.ofNat unit :: q.done, high := none, broken := q.broken }

/-- The finished string. -/
def token (q : Quote) : Token :=
  if q.broken || q.high.isSome then .halfPair else .string (String.ofList q.done.reverse)

end Quote

/-- A fraction: a point and one or more digits, or nothing. -/
def afterFraction? : List Char → Option (List Char)
  | '.' :: rest =>
    if (rest.takeWhile isDigit).isEmpty then none else some (rest.dropWhile isDigit)
  | rest => some rest

/-- The digits of an exponent, which must end the number. -/
def isExponentDigits : List Char → Bool
  | '+' :: digits => !digits.isEmpty && digits.all isDigit
  | '-' :: digits => !digits.isEmpty && digits.all isDigit
  | digits => !digits.isEmpty && digits.all isDigit

/-- The token of a number without its sign: no leading zero, and digits on both sides of a point.
-/
def unsignedNumber? (negative : Bool) (s : List Char) : Option Token := do
  let whole := s.takeWhile isDigit
  let rest := s.dropWhile isDigit
  let written := String.ofList (if negative then '-' :: s else s)
  if whole.isEmpty || (whole.length > 1 && whole.head? == some '0') then none
  else if rest.isEmpty then
    let n := natOfDigits whole
    if negative then if n == 0 then some (.real written) else some (.int (-Int.ofNat n))
    else some (.int (Int.ofNat n))
  else
    match ← afterFraction? rest with
    | [] => some (.real written)
    | e :: exponent =>
      if (e == 'e' || e == 'E') && isExponentDigits exponent then some (.real written) else none

/-- The token of a number. -/
def number? : List Char → Option Token
  | '-' :: s => unsignedNumber? true s
  | s => unsignedNumber? false s

/-- The token of a word. -/
def word? (s : List Char) : Option Token :=
  match String.ofList s with
  | "null" => some .null
  | "true" => some (.bool true)
  | "false" => some (.bool false)
  | _ => none

/-- The characters that numbers are made of. -/
def isNumberChar (c : Char) : Bool :=
  isDigit c || c == '+' || c == '-' || c == '.' || c == 'e' || c == 'E'

/-- The value of a hexadecimal digit. -/
def hexValue? (c : Char) : Option Nat :=
  if isDigit c then some (c.toNat - 48)
  else if 'a' ≤ c && c ≤ 'f' then some (c.toNat - 87)
  else if 'A' ≤ c && c ≤ 'F' then some (c.toNat - 55)
  else none

/-- What a one-letter escape stands for. -/
def escaped? : Char → Option Char
  | '\"' => some '\"'
  | '\\' => some '\\'
  | '/' => some '/'
  | 'b' => some '\x08'
  | 'f' => some '\x0c'
  | 'n' => some '\n'
  | 'r' => some '\r'
  | 't' => some '\t'
  | _ => none

namespace Scan

/-- A character outside of all scalars. -/
def start (c : Char) : Option (Scan × List Token) :=
  if c == ' ' || c == '\t' || c == '\n' || c == '\r' then some (between, [])
  else if c == '\x7b' then some (between, [.openBrace])
  else if c == '\x7d' then some (between, [.closeBrace])
  else if c == '[' then some (between, [.openBracket])
  else if c == ']' then some (between, [.closeBracket])
  else if c == ':' then some (between, [.colon])
  else if c == ',' then some (between, [.comma])
  else if c == '\"' then some (quote {}, [])
  else if c == '-' || isDigit c then some (number [c], [])
  else if 'a' ≤ c && c ≤ 'z' then some (word [c], [])
  else none

/-- What follows the end of a number or a word: its token, then the character that ended it. -/
def resume (token : Option Token) (c : Char) : Option (Scan × List Token) := do
  let t ← token
  let (next, more) ← start c
  some (next, t :: more)

/-- One character: where the scanner stands after it, and the tokens that it completes. -/
def step : Scan → Char → Option (Scan × List Token)
  | between, c => start c
  | quote q, c =>
    if c == '\"' then some (between, [q.token])
    else if c == '\\' then some (escape q, [])
    else if c.toNat < 0x20 then none
    else some (quote (q.push c), [])
  | escape q, c =>
    if c == 'u' then some (unicode q 4 0, []) else (escaped? c).map fun d => (quote (q.push d), [])
  | unicode q left value, c => do
    let value := 16 * value + (← hexValue? c)
    if left ≤ 1 then some (quote (q.pushUnit value), []) else some (unicode q (left - 1) value, [])
  | number done, c =>
    if isNumberChar c then some (number (c :: done), []) else resume (number? done.reverse) c
  | word done, c =>
    if 'a' ≤ c && c ≤ 'z' then some (word (c :: done), []) else resume (word? done.reverse) c

/-- The tokens that the end of the text completes. -/
def finish : Scan → Option (List Token)
  | between => some []
  | number done => (number? done.reverse).map ([·])
  | word done => (word? done.reverse).map ([·])
  | _ => none

/-- The tokens of a text, from where the scanner stands; `found` holds the earlier ones, last
first. -/
def run (found : List Token) : Scan → List Char → Option (List Token)
  | at_, [] => at_.finish.map fun last => (last.reverse ++ found).reverse
  | at_, c :: rest =>
    match at_.step c with
    | some (next, more) => run (more.reverse ++ found) next rest
    | none => none

end Scan

/-- The tokens of a text. -/
def tokens? (s : List Char) : Option (List Token) :=
  Scan.run [] .between s

end MergeTrain.Json
