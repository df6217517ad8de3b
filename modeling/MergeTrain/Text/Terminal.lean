import MergeTrain.Text.Octets

/-!
# Text for terminals

What is left of a text when everything that controls a terminal is taken out of it: escape
sequences, and control characters other than the four blank ones. A text is printed in pieces. An
escape sequence may go on from one piece to the next; but once a blank control character has been
shown in the middle of it, the rest of the piece is shown too.

## Main definitions

* `Terminal` — where a terminal stands in an escape sequence.
* `Terminal.step` — one character.
* `plain` — what is left of some pieces.
-/

namespace MergeTrain.Text

/-- Where a terminal stands. -/
inductive Terminal where
  | ground
  /-- After an escape character. -/
  | escape
  /-- After an escape character and characters that only lead up to the last of the sequence. -/
  | leading
  /-- In the parameters of a control sequence. -/
  | control
  /-- In a command that ends at a bell. -/
  | title
  /-- In a command to a device: before its parameters, among them, or after characters that only
  lead up to its name. -/
  | device
  | deviceParameters
  | deviceLeading
  /-- In the body of a command, which ends at an octet of its own. -/
  | body
  deriving DecidableEq

namespace Terminal

/-- A blank character of ASCII that controls the cursor. -/
def isBlankControl (c : Char) : Bool :=
  c == '\t' || c == '\n' || c == '\x0c' || c == '\r'

/-- A character of ASCII that is shown when no escape sequence is open. -/
def isPrintable (c : Char) : Bool :=
  (0x20 ≤ c.toNat && c.toNat < 0x7F) || isBlankControl c

/-- Whether a character is one of some range. -/
def isWithin (least most : Nat) (c : Char) : Bool :=
  least ≤ c.toNat && c.toNat ≤ most

/-- Whether a blank control character is shown here. -/
def showsBlanks : Terminal → Bool
  | ground | escape | leading | control => true
  | _ => false

/-- Where a character of ASCII leads that is not shown. -/
def next (t : Terminal) (c : Char) : Terminal :=
  match t with
  | ground => ground
  | escape =>
    if c == '[' then control
    else if c == ']' then title
    else if c == 'P' then device
    else if c == 'X' || c == '^' || c == '_' then body
    else if isWithin 0x20 0x2F c then leading
    else if isWithin 0x30 0x7E c then ground
    else escape
  | leading => if isWithin 0x30 0x7E c then ground else leading
  | control => if isWithin 0x40 0x7E c then ground else control
  | title => if c.toNat == 0x07 then ground else title
  | device =>
    if isWithin 0x20 0x2F c then deviceLeading
    else if isWithin 0x30 0x3F c then deviceParameters
    else if isWithin 0x40 0x7E c then body
    else device
  | deviceParameters =>
    if isWithin 0x20 0x2F c then deviceLeading
    else if isWithin 0x3C 0x7E c then body
    else deviceParameters
  | deviceLeading => if isWithin 0x30 0x7E c then body else deviceLeading
  | body => body

/-- The octet that ends the body of a command, even within a character. -/
def endOctet : Nat :=
  0x9C

/-- One character, given whether the one before it in its piece is shown: whether it is shown
itself, and where the terminal stands then. -/
def step (t : Terminal) (showing : Bool) (c : Char) : Bool × Terminal :=
  if 0x80 ≤ c.toNat then
    if showing || t == ground then (true, ground)
    else if t == body && (octetsOf c.toNat).contains endOctet then (false, ground)
    else (false, t)
  else if c.toNat == 0x1B then (false, escape)
  else if c.toNat == 0x18 || c.toNat == 0x1A then (false, ground)
  else if showing || t == ground then (isPrintable c, t)
  else if isBlankControl c && t.showsBlanks then (true, t)
  else (false, t.next c)

/-- The characters of a piece that are shown, and where the terminal stands then. -/
def shown : Terminal → Bool → List Char → List Char × Terminal
  | t, _, [] => ([], t)
  | t, showing, c :: rest =>
    let (visible, t) := t.step showing c
    let (more, t) := shown t visible rest
    (if visible then c :: more else more, t)

/-- The characters of some pieces that are shown. -/
def shownOf : Terminal → List String → List Char
  | _, [] => []
  | t, piece :: rest =>
    let (chars, t) := t.shown false piece.toList
    chars ++ shownOf t rest

end Terminal

/-- What a terminal shows of a text in pieces. -/
def plain (pieces : List String) : String :=
  String.ofList (Terminal.ground.shownOf pieces)

end MergeTrain.Text
