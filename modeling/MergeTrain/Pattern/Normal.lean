import MergeTrain.Pattern.Basic

/-!
# Building patterns

One set of matches can be written in many ways. Patterns are built by functions that bring what is
alike into one form, as long as a look at the parts suffices: a row of texts is one text, a choice
of characters is a set, what all branches of a choice start with comes before it.

## Main definitions

* `Pattern.ofSet` — one character of a set.
* `Pattern.sequence`, `Pattern.choice` — several patterns in a row, or one of several.
* `Pattern.times` — repetitions of a pattern.
-/

namespace MergeTrain.Pattern

open Unicode

/-- One character of a set. If there is only one, it is a text. -/
def ofSet (set : CharSet) : Pattern :=
  match set.ranges with
  | [r] => if r.first = r.last then text [Char.ofNat r.first] else chars set
  | _ => chars set

/-! ### Sequences -/

/-- The patterns that a sequence has in a row. -/
def parts : Pattern → List Pattern
  | empty => []
  | seq a b => a :: b.parts
  | p => [p]

/-- Join texts that stand next to each other. -/
def joinTexts : List Pattern → List Pattern
  | [] => []
  | p :: rest =>
    match p, joinTexts rest with
    | text a, text b :: more => text (a ++ b) :: more
    | _, more => p :: more

/-- Patterns in a row, as they are. -/
def ofParts : List Pattern → Pattern
  | [] => empty
  | [p] => p
  | p :: rest => seq p (ofParts rest)

/-- Patterns in a row. -/
def sequence (ps : List Pattern) : Pattern :=
  ofParts (joinTexts (ps.flatMap parts))

/-! ### Choices -/

/-- The branches of a choice. -/
def branches : Pattern → List Pattern
  | alt a b => a :: b.branches
  | p => [p]

/-- A choice of branches, as they are. -/
def ofBranches : List Pattern → Pattern
  | [] => chars .empty
  | [p] => p
  | p :: rest => alt p (ofBranches rest)

/-- The only character of a text. -/
def single? : Pattern → Option CharSet
  | text [c] => some (.one c)
  | _ => none

/-- The set of a pattern that is nothing else. -/
def set? : Pattern → Option CharSet
  | chars set => some set
  | _ => none

/-- A choice of branches. If all of them are characters, or all are sets, it is a set. -/
def gathered (ps : List Pattern) : Pattern :=
  match ps.flatMap branches with
  | [p] => p
  | all =>
    match (all.mapM single?).or (all.mapM set?) with
    | some sets => ofSet (.unions sets)
    | none => ofBranches all

/-- Whether a pattern is a sequence. -/
def isSeq : Pattern → Bool
  | seq _ _ => true
  | _ => false

/-- What two lists have in common at their start. -/
def commonStart : List Pattern → List Pattern → List Pattern
  | p :: ps, q :: qs => if p = q then p :: commonStart ps qs else []
  | _, _ => []

/-- What all branches start with, if all are sequences. -/
def sharedStart (all : List Pattern) : List Pattern :=
  match all with
  | first :: rest =>
    if all.all isSeq then rest.foldl (fun start p => commonStart start p.parts) first.parts else []
  | [] => []

/-- One of several patterns. What sequences have in common at their start comes before the
choice. -/
def choice (ps : List Pattern) : Pattern :=
  match gathered ps with
  | alt a b =>
    let all := (alt a b).branches
    match sharedStart all with
    | [] => alt a b
    | start =>
      let rest := all.map fun p => sequence (p.parts.drop start.length)
      sequence (start ++ [gathered rest])
  | p => p

/-! ### Repetitions -/

/-- Repetitions of a pattern. One that matches nothing but the empty text need not be repeated. -/
def times (p : Pattern) (least : Nat) (most : Option Nat) (greedy : Bool) : Pattern :=
  let isBlank := p.maxLength == some 0
  let least := if isBlank then min least 1 else least
  let most := if isBlank then some (min (most.getD 1) 1) else most
  if most = some 0 then empty
  else if least = 1 && most = some 1 then p
  else repeated p least most greedy

end MergeTrain.Pattern
