/-!
# Sets of characters

A set of characters is kept as the ranges of their codes, in increasing order, without two ranges
that touch. Sets with the same characters are then equal, and the number of ranges measures how
much a set takes to write down.

## Main definitions

* `CodeRange` — the codes from a first to a last.
* `CharSet` — the sets, with `CharSet.has` for membership.
* `CharSet.ofRanges` — the set of the characters in some ranges.
* `union`, `inter`, `diff`, `symmDiff`, `compl` — the operations.
-/

namespace MergeTrain.Unicode

/-- The codes from `first` to `last`. -/
structure CodeRange where
  first : Nat
  last : Nat
  deriving DecidableEq, Repr

/-- The code after `n`. The halves of surrogate pairs are no characters. -/
def codeAfter (n : Nat) : Nat :=
  if n = 0xD7FF then 0xE000 else n + 1

/-- The code before `n`. -/
def codeBefore (n : Nat) : Nat :=
  if n = 0xE000 then 0xD7FF else n - 1

/-- The greatest code of a character. -/
def greatestCode : Nat :=
  0x10FFFF

/-- A set of characters, by its ranges. -/
structure CharSet where
  ranges : List CodeRange
  deriving DecidableEq, Repr

namespace CharSet

/-- Whether a code is in one of some increasing ranges. -/
def inRanges (n : Nat) : List CodeRange → Bool
  | [] => false
  | r :: rest => r.first ≤ n && (n ≤ r.last || inRanges n rest)

/-- Whether a character is in the set. -/
def has (s : CharSet) (c : Char) : Bool :=
  inRanges c.toNat s.ranges

/-- The set without characters. -/
def empty : CharSet :=
  ⟨[]⟩

/-- The characters from `first` to `last`. -/
def range (first last : Char) : CharSet :=
  ⟨[⟨first.toNat, last.toNat⟩]⟩

/-- The set of one character. -/
def one (c : Char) : CharSet :=
  range c c

/-- Join the ranges of a list, ordered by their first codes, wherever two of them touch. -/
def joined : List CodeRange → List CodeRange
  | [] => []
  | [r] => [r]
  | r :: s :: rest =>
    if s.first ≤ r.last + 1 then joined (⟨r.first, max r.last s.last⟩ :: rest)
    else r :: joined (s :: rest)
termination_by ranges => ranges.length

/-- The characters in some ranges, whatever their order. -/
def ofRanges (ranges : List CodeRange) : CharSet :=
  ⟨joined (ranges.mergeSort fun r s => r.first ≤ s.first)⟩

/-- The characters of some sets. -/
def unions (sets : List CharSet) : CharSet :=
  ofRanges (sets.flatMap ranges)

/-- The characters of either set. -/
def union (a b : CharSet) : CharSet :=
  ofRanges (a.ranges ++ b.ranges)

/-- What two lists of increasing ranges have in common. -/
def common : List CodeRange → List CodeRange → List CodeRange
  | [], _ => []
  | _, [] => []
  | r :: rest, s :: more =>
    let later := if r.last < s.last then common rest (s :: more) else common (r :: rest) more
    if max r.first s.first ≤ min r.last s.last then
      ⟨max r.first s.first, min r.last s.last⟩ :: later
    else later
termination_by rs ss => rs.length + ss.length

/-- The characters of both sets. -/
def inter (a b : CharSet) : CharSet :=
  ⟨common a.ranges b.ranges⟩

/-- What is left of increasing ranges without others. -/
def without : List CodeRange → List CodeRange → List CodeRange
  | [], _ => []
  | rs, [] => rs
  | r :: rest, s :: more =>
    if s.last < r.first then without (r :: rest) more
    else if r.last < s.first then r :: without rest (s :: more)
    else
      let later :=
        if s.last < r.last then without (⟨codeAfter s.last, r.last⟩ :: rest) more
        else without rest (s :: more)
      if r.first < s.first then ⟨r.first, codeBefore s.first⟩ :: later else later
termination_by rs ss => rs.length + ss.length

/-- The characters of the first set that are not in the second. -/
def diff (a b : CharSet) : CharSet :=
  ⟨without a.ranges b.ranges⟩

/-- The characters that are in one of two sets and not in the other. -/
def symmDiff (a b : CharSet) : CharSet :=
  (a.union b).diff (a.inter b)

/-- What lies after `last` and between increasing ranges. Two ranges that meet at the surrogates,
which are no characters, leave the two characters next to these. -/
def gaps (last : Nat) : List CodeRange → List CodeRange
  | [] => if last < greatestCode then [⟨codeAfter last, greatestCode⟩] else []
  | r :: rest =>
    let a := codeAfter last
    let b := codeBefore r.first
    ⟨min a b, max a b⟩ :: gaps r.last rest

/-- All other characters. -/
def compl (s : CharSet) : CharSet :=
  match s.ranges with
  | [] => ⟨[⟨0, greatestCode⟩]⟩
  | r :: rest =>
    ⟨(if 0 < r.first then [⟨0, codeBefore r.first⟩] else []) ++ gaps r.last rest⟩

/-- Whether all characters are of ASCII. -/
def isAscii (s : CharSet) : Bool :=
  s.ranges.all fun r => r.last < 128

end CharSet

end MergeTrain.Unicode
