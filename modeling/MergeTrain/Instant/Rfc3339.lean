import MergeTrain.Instant.Basic
import MergeTrain.Text.Blank
import MergeTrain.Text.Decimal

/-!
# Instants as text

The text of an instant is an RFC 3339 date and time. One form is written: in UTC, with the fewest
of three, six or nine fraction digits that are exact. A wider form is read: blanks between parts, a
space for the `T`, single digits, long years with a sign, any offset.

## Main definitions

* `Instant.toText` — the written form.
* `Instant.ofText?` — the instant that a text denotes.
-/

namespace MergeTrain.Instant

open Text Calendar

/-! ### Writing -/

/-- A number with at least `width` digits. -/
def padded (width n : Nat) : List Char :=
  let digits := (toString n).toList
  List.replicate (width - digits.length) '0' ++ digits

/-- A year: four digits, and a sign unless it has just those. -/
def yearText (year : Int) : List Char :=
  if 0 ≤ year && year ≤ 9999 then padded 4 year.toNat
  else if year < 0 then '-' :: padded 4 year.natAbs
  else '+' :: padded 4 year.natAbs

/-- A fraction of a second: nothing, or a point and three, six or nine digits. -/
def fractionText (nanos : Nat) : List Char :=
  if nanos == 0 then []
  else if nanos % 1000000 == 0 then '.' :: padded 3 (nanos / 1000000)
  else if nanos % 1000 == 0 then '.' :: padded 6 (nanos / 1000)
  else '.' :: padded 9 nanos

/-- The written form, as characters. -/
def toChars (t : Instant) : List Char :=
  let date := Date.ofDays (t.seconds / 86400 + epochDay)
  let second := t.secondOfDay.toNat
  let extra := if t.inLeapSecond then 1 else 0
  yearText date.year ++ '-' :: padded 2 date.month ++ '-' :: padded 2 date.day ++
    'T' :: padded 2 (second / 3600) ++ ':' :: padded 2 (second / 60 % 60) ++
    ':' :: padded 2 (second % 60 + extra) ++
    fractionText (t.nanos - extra * nanosPerSecond) ++ ['Z']

/-- The written form. -/
def toText (t : Instant) : String :=
  String.ofList t.toChars

/-! ### Reading

Each reader takes the text that is left and gives back what it found and the rest.
-/

/-- From one to `most` digits. -/
def readDigits? (most : Nat) (s : List Char) : Option (Nat × List Char) :=
  let digits := (s.takeWhile isDigit).take most
  if digits.isEmpty then none else some (natOfDigits digits, s.drop digits.length)

/-- One or two digits after blanks, not above `most`. -/
def readPart? (most : Nat) (s : List Char) : Option (Nat × List Char) :=
  (readDigits? 2 (trimStart s)).filter fun found => found.1 ≤ most

/-- A given character after blanks. -/
def readMark? (mark : Char) (s : List Char) : Option (List Char) :=
  match trimStart s with
  | c :: rest => if c = mark then some rest else none
  | [] => none

/-- A year after blanks: up to four digits, or a sign and any number of them. -/
def readYear? (s : List Char) : Option (Int × List Char) :=
  match trimStart s with
  | '-' :: rest => (readDigits? rest.length rest).map fun found => (-Int.ofNat found.1, found.2)
  | '+' :: rest => (readDigits? rest.length rest).map fun found => (Int.ofNat found.1, found.2)
  | rest => (readDigits? 4 rest).map fun found => (Int.ofNat found.1, found.2)

/-- A fraction in nanoseconds. Digits after the ninth are dropped. -/
def readFraction? : List Char → Option (Nat × List Char)
  | '.' :: rest =>
    let digits := rest.takeWhile isDigit
    if digits.isEmpty then none
    else
      let kept := digits.take 9
      some (natOfDigits kept * Nat.pow 10 (9 - kept.length), rest.dropWhile isDigit)
  | rest => some (0, rest)

/-- An offset from UTC in seconds: `Z`, `UTC`, or a sign, two digits of hours and two of minutes,
with colons or blanks between them. -/
def readOffset? : List Char → Option (Int × List Char)
  | [] => none
  | c :: rest =>
    let sign : Option Int :=
      if c = '+' then some 1 else if c = '-' || c = Char.ofNat 0x2212 then some (-1) else none
    match sign, rest with
    | none, u :: t :: left =>
      if c.toUpper = 'U' && u.toUpper = 'T' && t.toUpper = 'C' then some (0, left)
      else if c = 'Z' || c = 'z' then some (0, rest)
      else none
    | none, _ => if c = 'Z' || c = 'z' then some (0, rest) else none
    | some sign, h₁ :: h₂ :: rest =>
      match rest.dropWhile fun c => c = ':' || isBlank c with
      | m₁ :: m₂ :: left =>
        if [h₁, h₂, m₁, m₂].all isDigit && m₁ ≤ '5' then
          let seconds : Int := natOfDigits [h₁, h₂] * 3600 + natOfDigits [m₁, m₂] * 60
          some (sign * seconds, left)
        else none
      | _ => none
    | some _, _ => none

/-- The instant at a local date and time, `second` being sixty in a leap second. -/
def ofLocal? (date : Date) (hour minute second nanos : Nat) (offset : Int) : Option Instant :=
  let leap := second == 60
  let ofDay := hour * 3600 + minute * 60 + (if leap then 59 else second)
  let atLocal := (date.toDays - epochDay) * 86400 + ofDay
  if date.isValid && -86400 < offset && offset < 86400 &&
      earliest ≤ atLocal && atLocal ≤ latest then
    ofParts? (atLocal - offset) (nanos + if leap then nanosPerSecond else 0)
  else none

/-- The instant that a text denotes, with blanks around it. -/
def ofText? (text : String) : Option Instant := do
  let (year, s) ← readYear? text.toList
  let (month, s) ← readPart? 12 (← readMark? '-' s)
  let (day, s) ← readPart? 31 (← readMark? '-' s)
  let s ← match s with
    | c :: rest => if c = 'T' || c = 't' || c = ' ' then some rest else none
    | [] => none
  let (hour, s) ← readPart? 23 s
  let (minute, s) ← readPart? 59 (← readMark? ':' s)
  let (second, s) ← readPart? 60 (← readMark? ':' s)
  let (nanos, s) ← readFraction? s
  let (offset, s) ← readOffset? (trimStart s)
  if isBlankText s then ofLocal? ⟨year, month, day⟩ hour minute second nanos offset else none

end MergeTrain.Instant
