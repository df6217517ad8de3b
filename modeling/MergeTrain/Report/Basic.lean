/-!
# Status reports

What is published about a pull request: a conclusion, once there is one, a title and a summary.

## Main definitions

* `Conclusion` — how a stay in the train ends.
* `StatusReport` — a report.
* `ordinal` — a place in words.
-/

namespace MergeTrain

/-- How the stay of a pull request in the train ends. -/
inductive Conclusion where
  /-- It is merged. -/
  | success
  /-- It needs attention. -/
  | failure
  /-- It has left the train. -/
  | cancelled
  /-- It waits for someone to act. -/
  | actionRequired
  deriving DecidableEq, Repr

/-- The word for a conclusion. -/
def Conclusion.text : Conclusion → String
  | .success => "success"
  | .failure => "failure"
  | .cancelled => "cancelled"
  | .actionRequired => "action_required"

/-- What is published about a pull request. -/
structure StatusReport where
  /-- Absent while the evaluation goes on. -/
  conclusion : Option Conclusion
  title : String
  /-- Details, in Markdown. -/
  summary : String
  deriving DecidableEq, Repr

namespace StatusReport

/-- A report with a conclusion. -/
def concluded (conclusion : Conclusion) (title summary : String) : StatusReport :=
  { conclusion := some conclusion, title, summary }

/-- A report without one. -/
def pending (title summary : String) : StatusReport :=
  { conclusion := none, title, summary }

/-- Whether the report ends the stay of the pull request in the train. -/
def isTerminal (r : StatusReport) : Bool :=
  r.conclusion.isSome

/-- The conclusion in words. -/
def conclusionText (r : StatusReport) : String :=
  match r.conclusion with
  | some c => c.text
  | none => "pending"

/-- The report in one line. -/
def text (r : StatusReport) : String :=
  "[" ++ r.conclusionText ++ "] " ++ r.title

end StatusReport

/-- The ending of the ordinal of a number. -/
def ordinalEnding (n : Nat) : String :=
  if 11 ≤ n % 100 ∧ n % 100 ≤ 13 then "th"
  else
    match n % 10 with
    | 1 => "st"
    | 2 => "nd"
    | 3 => "rd"
    | _ => "th"

/-- The ordinal of a number: `1st`, `2nd`, `11th`, `23rd`. -/
def ordinal (n : Nat) : String :=
  toString n ++ ordinalEnding n

end MergeTrain
