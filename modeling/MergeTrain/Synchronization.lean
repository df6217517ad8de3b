import MergeTrain.Report.Snapshot
import MergeTrain.Report.Waiting
import MergeTrain.Session

/-!
# Synchronization

Bringing the head branch of a pull request up to date with its base branch. After a failed update
the pull request is read again: someone may have merged or closed it meanwhile.

## Main definitions

* `UpdateOutcome` — how an update went.
* `synchronize` — perform an update.
-/

namespace MergeTrain

/-- How an update went. -/
inductive UpdateOutcome where
  /-- The branch is up to date; the report says so. -/
  | updated (report : StatusReport)
  /-- The update failed because the pull request had changed; the report is on its new state. -/
  | raced (report : StatusReport)
  /-- The update failed. -/
  | fatal (title message : String)
  deriving DecidableEq, Repr

namespace UpdateOutcome

/-- What is published. -/
def report : UpdateOutcome → StatusReport
  | .updated report => report
  | .raced report => report
  | .fatal title message => .concluded .failure title message

/-- Whether the branch was updated. -/
def isUpdated : UpdateOutcome → Bool
  | .updated _ => true
  | _ => false

end UpdateOutcome

/-- What is needed to update a head branch and to report on it. -/
structure UpdateTask where
  pull : PullRef
  method : UpdateMethod
  /-- Who rewrites the branch. -/
  actor : Option String
  strict : StrictMode
  rule : Option Rule

namespace UpdateTask

/-- The call that performs the update. -/
def call (task : UpdateTask) : Call :=
  match task.method with
  | .merge => .updateBranch task.pull
  | .rebase => .rewriteBranch task.pull task.method task.actor

/-- The outcome of an update that failed, when the pull request was read again. -/
def failed (task : UpdateTask) (bots : List String) (title message : String)
    (snapshot : PullSnapshot) : UpdateOutcome :=
  match snapshot.mergeReport bots task.strict with
  | some report => .raced report
  | none => .fatal title message

end UpdateTask

/-- Perform an update. The report of a successful one tells what `queue` holds. A failure that is
not about the branch ends the operation, and so does a failure to read the pull request again. -/
def synchronize {σ : Type} (platform : Platform σ) (entitlements : Entitlements)
    (bots : List String) (queue : Queue) (task : UpdateTask) : TrainM σ UpdateOutcome := do
  match ← consult platform task.call with
  | .ok _ => return .updated (strictStatus entitlements queue task.pull.owner false task.rule)
  | .error (.branchUpdate title message) =>
    let snapshot ← ask platform (.getPull task.pull)
    return task.failed bots title message snapshot
  | .error e => throw e

end MergeTrain
