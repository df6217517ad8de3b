import MergeTrain.CommandLine.Arguments
import MergeTrain.Policy.Toml
import MergeTrain.Scenario.Json
import MergeTrain.Simulation
import MergeTrain.Text.Lines
import MergeTrain.Text.Terminal

/-!
# Commands

What the program prints for each request, as a function of the files that it can see. A command that
fails may have printed something before.

## Main definitions

* `Files` — the files by name.
* `loadPolicy`, `loadScenario` — a file read as a policy or a scenario.
* `Printed` — what is printed, and how it ends.
* `execute` — what a request comes to.
-/

namespace MergeTrain.CommandLine

/-- What is found under the name of a file. -/
inductive FileContent where
  | absent
  /-- There is something, but no text can be read from it. -/
  | unreadable
  | text (content : String)

/-- The files by name. -/
abbrev Files := String → FileContent

/-! ### Files -/

/-- The policy of a file; the default one if the file is absent. -/
def loadPolicy (files : Files) (name : String) : Except Error Policy :=
  match files name with
  | .absent => .ok {}
  | .unreadable => .error (.config (.unreadableFile name))
  | .text content =>
    match Policy.ofText content with
    | .error .notPolicy => .error (.config (.unparsableFile name))
    | result => result

/-- The scenario of a file. -/
def loadScenario (files : Files) (name : String) : Except Error Scenario :=
  match files name with
  | .text content => Scenario.ofText content
  | _ => .error (.config (.unreadableFile name))

/-- The name of the policy file that is used when none is given. -/
def defaultPolicyFile : String :=
  "mergeq.toml"

/-! ### Output -/

/-- What is printed, line by line, and what the command failed with. A line is printed in pieces. -/
structure Printed where
  lines : List (List String) := []
  failure : Option Error := none

namespace Printed

/-- The text that is printed: each line, and a line feed, without what controls terminals. -/
def output (p : Printed) : String :=
  String.join (p.lines.map fun pieces => Text.plain (pieces ++ ["\n"]))

/-- Nothing but a failure. -/
def failed (error : Error) : Printed :=
  { failure := some error }

end Printed

/-- Numbers of pull requests in one line. -/
def listing (numbers : List UInt64) : String :=
  if numbers.isEmpty then "(empty)" else ", ".intercalate (numbers.map numberText)

/-- The sign for a conclusion. -/
def marker : Option Conclusion → String
  | some .success => "✓"
  | some .failure | some .cancelled | some .actionRequired => "✗"
  | none => "•"

/-- The lines of a summary that are not blank. -/
def summaryLines (summary : String) : List (List String) :=
  ((Text.lines summary.toList).filter fun line => !Text.isBlankText line).map fun line =>
    ["  ", String.ofList line]

/-- The lines for an outcome. -/
def outcomeLines (o : Outcome) : List (List String) :=
  [[], [marker o.report.conclusion, " ", o.report.title, " ",
      "[" ++ o.report.conclusionText ++ ", " ++ o.state.text ++ "]"]] ++
    summaryLines o.report.summary ++
    if o.expired.isEmpty then [] else [["  ", "expired from the queue:", " ", listing o.expired]]

/-- The lines for a merge that is about to be performed. -/
def mergeLines (r : MergeRequest) : List (List String) :=
  [[], ["✓", " Merging ", numberText r.pull.number, " with ", Spelled.text r.method]] ++
    (r.actor.map fun actor => ["  ", "as", " ", actor]).toList ++
    (r.commitTitle.map fun title => ["  ", "commit title:", " ", title]).toList

/-- The branches to list: those that have a queue, and the one that a pull request targets. -/
def listedBranches (registry : Registry) (pull : PullRef) : List String :=
  let branches := registry.branches pull.repository
  if branches.contains pull.baseRef then branches
  else (branches ++ [pull.baseRef]).mergeSort fun a b => a ≤ b

/-- The lines for the queues of a repository. -/
def queueLines (registry : Registry) (pull : PullRef) : List (List String) :=
  [] :: (listedBranches registry pull).map fun branch =>
    ["Queue on " ++ branch ++ ":", " ",
      listing (registry.queue ⟨pull.repository, branch⟩).numbers]

/-! ### Requests -/

/-- Check a policy file and print what it means. -/
def checkConfig (files : Files) (name : String) : Printed :=
  match files name with
  | .absent => .failed (.config (.absentFile name))
  | _ =>
    match loadPolicy files name with
    | .error error => .failed error
    | .ok policy =>
      { lines := [["✓", " ", name, " is valid"], [], ["# normalized policy"], [policy.render]] }

/-- The lines for a replay, up to its failure. -/
def replayLines (s : Simulation) (r : Replay) : List (List String) :=
  let merge := r.first.bind Outcome.merge
  [["Simulating " ++ s.pull.text ++ " (strict: " ++ Spelled.text s.policy.merge.strict ++ ")"]] ++
    (r.first.map outcomeLines).getD [] ++
    (merge.map mergeLines).getD [] ++
    (r.second.map outcomeLines).getD [] ++
    if r.failure.isSome then [] else queueLines r.registry s.pull

/-- Replay a scenario under a policy and print what happens. -/
def replay (s : Simulation) : Printed :=
  match s.prepare with
  | .error error => .failed error
  | .ok prepared =>
    let replay := prepared.replay s.scenario.ruleMatches
    { lines := replayLines s replay, failure := replay.failure }

/-- Replay the scenario of a file under the policy of a file. Without a time of its own it is
replayed at the time `clock`. -/
def simulate (files : Files) (clock : Instant) (scenario : String) (policy : Option String) :
    Printed :=
  match loadPolicy files (policy.getD defaultPolicyFile) with
  | .error error => .failed error
  | .ok policy =>
    match loadScenario files scenario with
    | .error error => .failed error
    | .ok scenario => replay { policy, scenario, now := scenario.now.getD clock }

/-- The name of the program and its version. -/
def versionText : String :=
  "mergeq 0.1.0"

/-- How the program is used. -/
def helpText : String :=
  "Merge queue decision engine\n\n" ++
    "Usage: mergeq [-v]... check-config <PATH>\n" ++
    "       mergeq [-v]... simulate <SCENARIO> [-p <POLICY>]"

/-- What the program comes to: what it prints, and its exit code. -/
structure Result where
  printed : Printed
  code : UInt32

/-- The exit code of a command: one if it failed. -/
def Result.ofPrinted (p : Printed) : Result :=
  { printed := p, code := if p.failure.isSome then 1 else 0 }

/-- What a request comes to. -/
def execute (files : Files) (clock : Instant) : Request → Result
  | .version => .ofPrinted { lines := [[versionText]] }
  | .help => .ofPrinted { lines := [[helpText]] }
  | .checkConfig path => .ofPrinted (checkConfig files path)
  | .simulate scenario policy => .ofPrinted (simulate files clock scenario policy)
  | .misuse => { printed := {}, code := 2 }

/-- The files that a request may read. -/
def Request.paths : Request → List String
  | .checkConfig path => [path]
  | .simulate scenario policy => [policy.getD defaultPolicyFile, scenario]
  | _ => []

/-- What some arguments come to. -/
def runArguments (files : Files) (clock : Instant) (arguments : List String) : Result :=
  execute files clock (Request.ofArguments arguments)

end MergeTrain.CommandLine
