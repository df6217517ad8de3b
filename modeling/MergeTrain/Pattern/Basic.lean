import MergeTrain.Pattern.AsciiSet
import MergeTrain.Text.Octets
import MergeTrain.Unicode.Property

/-!
# Patterns

Regular expressions over characters. Besides what they match, two things count: how many octets a
match takes, and which conditions hold wherever a match starts or ends.

## Main definitions

* `Pattern`, `Boundary` — the expressions.
* `Pattern.minLength`, `Pattern.maxLength` — the octets of the shortest and the longest match.
* `Pattern.startsAt`, `Pattern.endsAt` — the conditions on the ends of a match.
-/

namespace MergeTrain

namespace Pattern

open Unicode

/-- A condition on a place in a text. -/
inductive Boundary where
  | textStart
  | textEnd
  /-- The start or end of a line; with `returns`, carriage returns end lines too. -/
  | lineStart (returns : Bool)
  | lineEnd (returns : Bool)
  /-- A place between a character of a word and something else; with `ascii`, words are of ASCII
  characters. -/
  | word (ascii : Bool)
  | notWord (ascii : Bool)
  | wordStart (ascii : Bool)
  | wordEnd (ascii : Bool)
  /-- A place with no character of a word before it, or none after it. -/
  | wordStartHalf (ascii : Bool)
  | wordEndHalf (ascii : Bool)
  deriving DecidableEq, Repr

namespace Boundary

/-- Whether a character is one of a word. -/
def isWord (ascii : Bool) : Option Char → Bool
  | none => false
  | some c => if ascii then asciiWordChars.has c else wordChars.has c

/-- Whether the condition holds between two characters; `none` is an end of the text. -/
def holds (before after : Option Char) : Boundary → Bool
  | textStart => before.isNone
  | textEnd => after.isNone
  | lineStart returns =>
    before.isNone || before == some '\n' ||
      (returns && before == some '\r' && after != some '\n')
  | lineEnd returns =>
    after.isNone || (after == some '\n' && !(returns && before == some '\r')) ||
      (returns && after == some '\r')
  | word ascii => isWord ascii before != isWord ascii after
  | notWord ascii => isWord ascii before == isWord ascii after
  | wordStart ascii => !isWord ascii before && isWord ascii after
  | wordEnd ascii => isWord ascii before && !isWord ascii after
  | wordStartHalf ascii => !isWord ascii before
  | wordEndHalf ascii => !isWord ascii after

end Boundary

end Pattern

/-- A regular expression. -/
inductive Pattern where
  | empty
  /-- Given characters, one after the other. -/
  | text (cs : List Char)
  /-- One character of a set. -/
  | chars (set : Unicode.CharSet)
  | boundary (b : Pattern.Boundary)
  /-- A group whose match is remembered. Groups are numbered from one on. -/
  | group (number : Nat) (p : Pattern)
  | seq (a b : Pattern)
  | alt (a b : Pattern)
  /-- At least `least` and at most `most` matches in a row. Whether more of them are preferred does
  not matter for where the pattern occurs. -/
  | repeated (p : Pattern) (least : Nat) (most : Option Nat) (greedy : Bool)
  deriving DecidableEq, Repr

namespace Pattern

/-! ### The length of matches -/

/-- The number of octets of a text. -/
def textLength (text : List Char) : Nat :=
  text.foldl (fun n c => n + Text.octetCount c.toNat) 0

/-- The octets of the shortest match, or `none` if some part has no match. -/
def minLength : Pattern → Option Nat
  | empty | boundary _ => some 0
  | text cs => some (textLength cs)
  | chars set => set.ranges.head?.map fun r => Text.octetCount r.first
  | group _ p => p.minLength
  | seq a b => do return (← a.minLength) + (← b.minLength)
  | alt a b => do return min (← a.minLength) (← b.minLength)
  | repeated p least _ _ => p.minLength.map (least * ·)

/-- The octets of the longest match, or `none` if matches have no bound or some part has none. -/
def maxLength : Pattern → Option Nat
  | empty | boundary _ => some 0
  | text cs => some (textLength cs)
  | chars set => set.ranges.getLast?.map fun r => Text.octetCount r.last
  | group _ p => p.maxLength
  | seq a b => do return (← a.maxLength) + (← b.maxLength)
  | alt a b => do return max (← a.maxLength) (← b.maxLength)
  | repeated p _ most _ => do return (← most) * (← p.maxLength)

/-! ### The ends of matches -/

/-- Whether every match starts at a place with the condition, as the form of the pattern shows. -/
def startsAt (b : Boundary) : Pattern → Bool
  | boundary c => c == b
  | group _ p => p.startsAt b
  | seq p q => p.startsAt b || (p.maxLength == some 0 && q.startsAt b)
  | alt p q => p.startsAt b && q.startsAt b
  | repeated p least _ _ => 0 < least && p.startsAt b
  | _ => false

/-- Whether every match ends at a place with the condition, as the form of the pattern shows. -/
def endsAt (b : Boundary) : Pattern → Bool
  | boundary c => c == b
  | group _ p => p.endsAt b
  | seq p q => q.endsAt b || (q.maxLength == some 0 && p.endsAt b)
  | alt p q => p.endsAt b && q.endsAt b
  | repeated p least _ _ => 0 < least && p.endsAt b
  | _ => false

end Pattern

end MergeTrain
