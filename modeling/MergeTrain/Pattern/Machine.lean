import MergeTrain.Pattern.Normal
import MergeTrain.Pattern.Octets
import Std.Data.HashMap

/-!
# The size of machines

A pattern is matched by a machine that reads one octet after the other, and a second one looks for
the start of a match from its end. Repetition makes small texts denote large machines, so there is
a bound on the room that a machine takes. The machine is not built here: only its states and the
room for them are counted.

Every state takes 32 octets. On top of these, a state that tells several ranges of octets apart
takes 8 octets for each, and a fork, which tries several ways, takes 4 octets for each way. The
states for a set of characters share what they have in common, as far as a table of limited size
remembers it. Its slots are found by the numbers of the states, so these are counted exactly.

## Main definitions

* `Layout` — the states of a machine so far.
* `Plan` — what has to be laid out for a pattern, and `Plan.lay` for doing so.
* `Pattern.fits` — whether both machines for a pattern keep within the bound.
-/

namespace MergeTrain

namespace Pattern

open Unicode

/-- The way in which a machine reads a text. -/
inductive Direction where
  | forward
  | backward
  deriving DecidableEq

/-- The states of a machine so far. -/
structure Layout where
  states : Nat := 0
  /-- The octets that the states take. -/
  room : Nat := 0
  /-- Whether the latest part ends in a fork, so that what follows it is one more way. -/
  forked : Bool := false

/-- The greatest room for a machine. -/
def greatestRoom : Nat :=
  10 * 1024 * 1024

namespace Layout

/-- Add states that take some room in all. -/
def add (l : Layout) (states room : Nat) : Layout :=
  ⟨l.states + states, l.room + room, false⟩

/-- Add ways to forks. -/
def ways (l : Layout) (count : Nat) : Layout :=
  { l with room := l.room + 4 * count }

/-- Join the latest part to what follows it. -/
def join (l : Layout) : Layout :=
  if l.forked then { l.ways 1 with forked := false } else l

/-- Whether the machine takes too much room. -/
def isFull (l : Layout) : Bool :=
  greatestRoom < l.room

/-- Take a step a number of times, or until the machine takes too much room. -/
def repeatStep (step : Layout → Layout) : Nat → Layout → Layout
  | 0, l => l
  | k + 1, l => if l.isFull then l else repeatStep step k (step l)

/-- Lay out a part a number of times, but at least once. -/
def copies (step : Layout → Layout) (count : Nat) (l : Layout) : Layout :=
  repeatStep (fun l => step l.join) (count - 1) (step l)

end Layout

/-! ### Sets of characters -/

/-- The states for a set of characters, with a table of those that can be shared. A state is known
by what it leads to, written as numbers. -/
structure Sharing where
  layout : Layout
  known : Std.HashMap UInt64 (List Nat × Nat) := {}

/-- The slot of a state in a table of some size. A later state takes the slot of an earlier one. -/
def slotOf (size : UInt64) (key : List Nat) : UInt64 :=
  (key.foldl (fun h n => (h ^^^ n.toUInt64) * 1099511628211) 14695981039346656037) % size

/-- Add a state that leads to some places, under its slot. -/
def Sharing.insert (s : Sharing) (slot : UInt64) (key : List Nat) (room : Nat) : Nat × Sharing :=
  let ⟨layout, known⟩ := s
  (layout.states, ⟨layout.add 1 room, known.insert slot (key, layout.states)⟩)

/-- The number of the state that leads to some places, which is added unless the table has it. -/
def shared (size : UInt64) (key : List Nat) (room : Nat) : StateM Sharing Nat :=
  modifyGet fun s =>
    let slot := slotOf size key
    match s.known[slot]? with
    | some (found, state) => if found == key then (state, s) else s.insert slot key room
    | none => s.insert slot key room

/-- The state that reads one of some rows of octet ranges and goes on to `target`. Rows that start
with one range share the state after it. `depth` bounds the length of the rows. -/
def stateFor (target : Nat) : Nat → List (List OctetRange) → StateM Sharing Nat
  | 0, _ => return target
  | depth + 1, rows => do
    if rows.all List.isEmpty then return target
    else
      let links ← (rows.splitBy fun r s => r.head? == s.head?).filterMapM fun group =>
        match group with
        | (r :: _) :: _ => do
          return some [r.first, r.last, ← stateFor target depth (group.map List.tail)]
        | _ => return none
      shared 10000 links.flatten (32 + 8 * links.length)

/-- The states that read a row of octet ranges from its end. Each is shared by what it leads to. -/
def backwardRow (target : Nat) (row : List OctetRange) : StateM Sharing Nat :=
  row.foldlM (fun next r => shared 1000 [next, r.first, r.last] 32) target

/-- The machine with the states for some rows of octet ranges. -/
def layRanges (d : Direction) (rows : List (List OctetRange)) (l : Layout) : Layout :=
  match d with
  | .forward =>
    let target := l.states
    ((stateFor target 5 rows).run { layout := l.add 1 32 }).2.layout
  | .backward =>
    let target := l.states + 1
    let l := ((rows.forM fun row => discard (backwardRow target row)).run
      { layout := l.add 2 64 }).2.layout
    l.ways rows.length

/-! ### Choices of texts -/

/-- The first octets of some rows, each once. -/
def firstOctets (rows : List (List Nat)) : List Nat :=
  (rows.filterMap List.head?).eraseDups

/-- The rows between those that are empty. -/
def chunksOf : List (List Nat) → List (List (List Nat))
  | [] => [[]]
  | [] :: rest => [] :: chunksOf rest
  | row :: rest =>
    match chunksOf rest with
    | chunk :: more => (row :: chunk) :: more
    | [] => [[row]]

/-- Rows of which at most one is empty before the first that is not. -/
def withoutRepeatedEnds (rows : List (List Nat)) : List (List Nat) :=
  match rows with
  | [] :: rest => [] :: rest.dropWhile List.isEmpty
  | rows => rows

/-- The machine with the states that read one of some rows of octets. Rows with a common start share
the states for it, unless another row ends between them. `depth` bounds the length of the rows. -/
def layRows : Nat → List (List Nat) → Layout → Layout
  | 0, _, l => l
  | depth + 1, rows, l =>
    if rows.all List.isEmpty then l
    else
      let chunks := chunksOf (withoutRepeatedEnds rows)
      let l := chunks.foldl (fun l chunk =>
        let firsts := firstOctets chunk
        let l := firsts.foldl (fun l b =>
          layRows depth
            (chunk.filterMap fun row => if row.head? == some b then some row.tail else none) l) l
        if firsts.isEmpty then l
        else (l.add 1 (if firsts.length = 1 then 32 else 32 + 8 * firsts.length)).ways 1) l
      (l.add 1 32).ways (chunks.length - 1)

/-- The octets of a pattern that is a text. -/
def octets? : Pattern → Option (List Nat)
  | text cs => some (cs.flatMap fun c => Text.octetsOf c.toNat)
  | _ => none

/-! ### Plans -/

/-- What has to be laid out for a pattern. -/
inductive Plan where
  /-- A number of states that take some room in all. -/
  | fixed (states room : Nat)
  /-- Some rows of octet ranges. -/
  | ranges (rows : List (List OctetRange))
  /-- A part between two states that remember where they are passed. -/
  | marked (p : Plan)
  | seq (a b : Plan)
  | alt (a b : Plan)
  | repeated (p : Plan) (mayBeEmpty : Bool) (least : Nat) (most : Option Nat)

/-- The plan for a set of characters. -/
def planSet (set : CharSet) : Plan :=
  if set.isAscii then .fixed 2 (64 + 8 * set.ranges.length) else .ranges (octetRowsOf set)

/-- The plan for a choice of texts. -/
def planTexts (d : Direction) (texts : List (List Nat)) : Plan :=
  let rows := if d = .forward then texts else texts.map List.reverse
  let l := layRows ((rows.map List.length).foldl max 0 + 1) rows (Layout.add {} 1 32)
  .fixed l.states l.room

/-- The plan for a pattern. A branch after the first of a choice is `later`: it is a choice only as
a part of the whole. -/
def plan (d : Direction) : Pattern → (later : Bool) → Plan
  | empty, _ | boundary _, _ => .fixed 1 32
  | text cs, _ => .fixed (textLength cs) (32 * textLength cs)
  | chars set, _ => planSet set
  | group _ p, _ => if d = .forward then .marked (p.plan d false) else p.plan d false
  | seq a b, _ =>
    if d = .forward then .seq (a.plan d false) (b.plan d false)
    else .seq (b.plan d false) (a.plan d false)
  | alt a b, later =>
    match later, (alt a b).branches.mapM octets? with
    | false, some texts => planTexts d texts
    | _, _ => .alt (a.plan d false) (b.plan d true)
  | repeated p least most _, _ =>
    .repeated (p.plan d false) (p.minLength.all (· = 0)) least most

/-! ### Machines -/

/-- Where a part stands: by itself, or as a branch of a choice after the first. -/
inductive Stand where
  | alone
  | second
  | later

/-- Finish a part. The fork of a choice, and the state in which its branches meet, come after the
second branch. -/
def Stand.finish : Stand → Layout → Layout
  | alone, l => l
  | second, l => (l.join.add 2 64).ways 2
  | later, l => l.join.ways 1

/-- The machine with the states for repetitions of a part. -/
def layRepeated (part : Layout → Layout) (mayBeEmpty : Bool) (least : Nat) (most : Option Nat)
    (l : Layout) : Layout :=
  match least, most with
  | 0, none =>
    if mayBeEmpty then ((part l).join.add 3 96).ways 4
    else { (part (l.add 1 32)).join.ways 1 with forked := true }
  | least, none => { ((l.copies part least).join.add 1 32).ways 1 with forked := true }
  | 0, some 1 => ((part (l.add 1 32)).join.add 1 32).ways 2
  | least, some most =>
    if least = most then l.copies part least
    else
      let l := if least = 0 then l.add 1 32 else (l.copies part least).join
      Layout.repeatStep (fun l => (part (l.add 1 32)).join.ways 2) (most - least) (l.add 1 32)

/-- The machine with the states for one more part. Once it takes too much room, sets and
repetitions are left out. -/
def Plan.lay (d : Direction) : Plan → Stand → Layout → Layout
  | fixed states room, stand, l => stand.finish (l.add states room)
  | ranges rows, stand, l => stand.finish (if l.isFull then l else layRanges d rows l)
  | marked p, stand, l => stand.finish ((p.lay d .alone (l.add 1 32)).join.add 1 32)
  | seq a b, stand, l => stand.finish (b.lay d .alone (a.lay d .alone l).join)
  | alt a b, .alone, l => b.lay d .second (a.lay d .alone l).join
  | alt a b, stand, l => b.lay d .later (stand.finish (a.lay d .alone l))
  | repeated p mayBeEmpty least most, stand, l =>
    stand.finish
      (if l.isFull then l else layRepeated (p.lay d .alone) mayBeEmpty least most l)

/-- The machine for a pattern. It first looks for a place to start from, unless a match can start at
one end of the text only, and it remembers where a match starts and ends when it reads forward. -/
def machine (d : Direction) (p : Pattern) : Layout :=
  let plan := p.plan d false
  match d with
  | .forward => (plan.lay d .alone ((search (p.startsAt .textStart)).add 1 32)).join.add 2 64
  | .backward => (plan.lay d .alone (search (p.endsAt .textEnd))).join.add 1 32
where
  /-- The states that come first. -/
  search (fixed : Bool) : Layout :=
    if fixed then Layout.add {} 1 32 else Layout.add {} 3 112

/-- Whether the machines for a pattern keep within the bound. -/
def fits (p : Pattern) : Bool :=
  !(p.machine .forward).isFull && !(p.machine .backward).isFull

end Pattern

end MergeTrain
