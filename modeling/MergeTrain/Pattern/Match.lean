import MergeTrain.Pattern.Basic

/-!
# Where patterns occur

A set of places in a text is kept as one number, whose bit `i` stands for the place before
character `i`. A pattern is first laid against the text, so that every part of it knows the places
where it holds. It then moves a set of places to those that it can reach.

## Main definitions

* `Walk` — a pattern that is laid against a text.
* `Pattern.against` — lay a pattern against a text.
* `Walk.reach` — from a set of places to those where a match that starts there can end.
* `Pattern.occursIn` — whether a match starts somewhere.
-/

namespace MergeTrain

namespace Pattern

/-! ### Sets of places -/

/-- A set of places in a text. -/
abbrev Places := Nat

/-- The places that satisfy a condition, among `count` from `first` on, each moved down by
`first`. -/
def placesFrom (p : Nat → Bool) (first count : Nat) : Places :=
  if count ≤ 1 then if count = 1 && p first then 1 else 0
  else
    let half := count / 2
    placesFrom p first half ||| placesFrom p (first + half) (count - half) <<< half
termination_by count
decreasing_by all_goals omega

/-- The places among the first `n` that satisfy a condition. -/
def placesWhere (n : Nat) (p : Nat → Bool) : Places :=
  placesFrom p 0 n

/-- Apply a step a number of times, or until no place is left. -/
def iterate (step : Places → Places) : Nat → Places → Places
  | 0, places => places
  | k + 1, places => if places = 0 then 0 else iterate step k (step places)

/-- The places reached by at most a number of steps. `newest` holds those to go on from. -/
def within (step : Places → Places) : Nat → Places → Places → Places
  | 0, found, _ => found
  | k + 1, found, newest =>
    let next := step newest
    let new := next ^^^ (next &&& found)
    if new = 0 then found else within step k (found ||| new) new

/-! ### Walks -/

/-- A pattern that is laid against a text. -/
inductive Walk where
  | stay
  /-- Go past `count` characters, at some places. -/
  | take (places : Places) (count : Nat)
  /-- Go on at some places only. -/
  | check (places : Places)
  | seq (a b : Walk)
  | alt (a b : Walk)
  /-- Repeat a walk `least` times, and then up to `more` times. -/
  | repeated (w : Walk) (least more : Nat)

/-- The places where a match that starts in `places` can end. -/
def Walk.reach : Walk → Places → Places
  | stay, places => places
  | take here count, places => (places &&& here) <<< count
  | check here, places => places &&& here
  | seq a b, places => b.reach (a.reach places)
  | alt a b, places => a.reach places ||| b.reach places
  | repeated w least more, places =>
    let enough := iterate w.reach least places
    within w.reach more enough enough

/-- Whether given characters stand in a text from a place on. -/
def standsAt (text : Array Char) (i : Nat) : List Char → Bool
  | [] => true
  | c :: rest => text[i]? == some c && standsAt text (i + 1) rest

/-- Lay a pattern against a text. A text of `n` characters has no more than `n + 1` places, so
repetitions beyond `n + 1` reach nothing new. -/
def against (text : Array Char) : Pattern → Walk
  | .empty => .stay
  | .text cs => .take (placesWhere text.size fun i => standsAt text i cs) cs.length
  | .chars set => .take (placesWhere text.size fun i => text[i]?.any set.has) 1
  | .boundary b =>
    .check (placesWhere (text.size + 1) fun i =>
      b.holds (if i = 0 then none else text[i - 1]?) text[i]?)
  | .group _ p => p.against text
  | .seq a b => .seq (a.against text) (b.against text)
  | .alt a b => .alt (a.against text) (b.against text)
  | .repeated p least most _ =>
    let more :=
      match most with
      | none => text.size + 1
      | some most => min (most - least) (text.size + 1)
    .repeated (p.against text) (min least (text.size + 1)) more

/-- Whether a match starts somewhere in the text. -/
def occursIn (p : Pattern) (text : String) : Bool :=
  let chars := text.toList.toArray
  (p.against chars).reach ((1 <<< (chars.size + 1)) - 1) != 0

end Pattern

end MergeTrain
