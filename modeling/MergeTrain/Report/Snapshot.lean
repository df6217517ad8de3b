import MergeTrain.MergeConfig
import MergeTrain.Pull.Basic
import MergeTrain.Report.Basic

/-!
# Reports on snapshots

What the state of a pull request alone says about it. A report means that the pull request goes no
further down the train; without one its evaluation goes on.
-/

namespace MergeTrain

namespace PullSnapshot

/-- How a merged pull request was merged: by one of the accounts in `bots`, by another one, or by
an account that is not known. -/
def mergeManner (s : PullSnapshot) (bots : List String) : String :=
  match s.mergedBy with
  | none => "somehow"
  | some login => if bots.contains login then "automatically" else "manually"

/-- The report on a merged pull request. -/
def mergedReport (s : PullSnapshot) (bots : List String) : StatusReport :=
  let title := "The pull request has been merged " ++ s.mergeManner bots
  .concluded .success title (title ++ " at *" ++ s.mergeCommitSha.getD "unknown" ++ "*")

/-- The report on the platform's verdict about a merge, if that verdict stands in the way. -/
def mergeabilityReport (s : PullSnapshot) (strict : StrictMode) : Option StatusReport :=
  match s.mergeability with
  | .dirty => some (.concluded .cancelled "Merge conflict needs to be solved" "")
  | .unknown => some (.concluded .failure "Pull request state reported as `unknown`" "")
  | .behind =>
    if strict.isEnabled then none
    else
      some (.concluded .failure
        "Branch protection setting 'strict' conflicts with the merge configuration" "")
  | _ => none

/-- The report on a pull request that changes protected workflow definitions. -/
def workflowReport : StatusReport :=
  .concluded .actionRequired "Pull request must be merged manually."
    ("Automated merges are not allowed on pull requests where `.github/workflows` is changed.\n" ++
      "<br />\nThis pull request must be merged manually.")

/-- The report on a pull request that cannot go further down the train. The logins in `bots` merge
automatically. -/
def mergeReport (s : PullSnapshot) (bots : List String) (strict : StrictMode) :
    Option StatusReport :=
  if s.isDraft then some (.pending "Draft flag needs to be removed" "")
  else if s.merged then some (s.mergedReport bots)
  else if s.isClosed then
    some (.concluded .cancelled "The pull request has been closed manually" "")
  else
    (s.mergeabilityReport strict).or (if s.workflowChanged then some workflowReport else none)

end PullSnapshot

end MergeTrain
