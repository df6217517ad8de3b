import MergeTrain.Text.Octets
import MergeTrain.Unicode.CharSet

/-!
# The octets of sets

The characters of a range are those whose octets lie in some row of octet ranges: a few rows are
enough, since characters in a row mostly differ in their last octets only.

## Main definitions

* `octetRows` — the rows of octet ranges for a range of characters.
* `octetRowsOf` — the same for a set.
-/

namespace MergeTrain.Pattern

open Text Unicode

/-- The octets from `first` to `last`. -/
structure OctetRange where
  first : Nat
  last : Nat
  deriving DecidableEq, Repr

/-- Where to cut a range of characters for which one row of octet ranges is not enough: the last
character before the cut. The parts have octets of one number, and all but their last octets, the
same number for both ends, can be chosen freely. -/
def cutAfter? (a b : Nat) : Option Nat :=
  if a < 0xE000 && 0xD7FF < b then some 0xD7FF
  else
    match [0x7F, 0x7FF, 0xFFFF].find? fun last => a ≤ last && last < b with
    | some last => some last
    | none =>
      if b < 0x80 then none
      else
        [64, 4096, 262144].findSome? fun k =>
          if a / k = b / k then none
          else if a % k ≠ 0 then some (a / k * k + (k - 1))
          else if b % k ≠ k - 1 then some (b / k * k - 1)
          else none

theorem lt_codeAfter (n : Nat) : n < codeAfter n := by
  unfold codeAfter
  split <;> omega

/-- The rows of octet ranges for the characters from `a` to `b`, in increasing order. -/
def octetRows (a b : Nat) : List (List OctetRange) :=
  match cutAfter? a b with
  | none => [List.zipWith OctetRange.mk (octetsOf a) (octetsOf b)]
  | some m =>
    if a ≤ m ∧ m < b then octetRows a m ++ octetRows (codeAfter m) b else []
termination_by b - a
decreasing_by
  · omega
  · have := lt_codeAfter m
    omega

/-- The rows of octet ranges for the characters of a set, in increasing order. -/
def octetRowsOf (set : CharSet) : List (List OctetRange) :=
  set.ranges.flatMap fun r => octetRows r.first r.last

end MergeTrain.Pattern
