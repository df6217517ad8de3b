import MergeTrain.Check
import MergeTrain.Error
import MergeTrain.Json.Fields
import MergeTrain.MergeConfig
import MergeTrain.Pull.Json

/-!
# Platforms

All that a merge train needs from the platform that hosts the repositories, as a list of calls. Each
call fixes the type of its answer, and a platform is whatever answers calls: it may change its own
state by answering, and it may fail in any way.

## Main definitions

* `MergeRequest` — a merge that the platform is asked to perform.
* `Call`, `Call.Answer` — what a platform can be asked, and the type of each answer.
* `Platform` — something that answers calls.
-/

namespace MergeTrain

open Json

/-- A merge that the platform is asked to perform. -/
structure MergeRequest where
  pull : PullRef
  method : MergeMethod
  /-- The title of the merge commit, if the platform is not to choose it. -/
  commitTitle : Option String := none
  /-- The message of the merge commit, if the platform is not to choose it. -/
  commitMessage : Option String := none
  /-- Who merges, if not the usual account. -/
  actor : Option String := none
  deriving DecidableEq, Repr

namespace MergeRequest

/-- The wire form. -/
def toJson (r : MergeRequest) : Json :=
  .object
    [("pull", r.pull.toJson), ("method", Spelled.toJson r.method),
      ("commit_title", .ofOption .string r.commitTitle),
      ("commit_message", .ofOption .string r.commitMessage), ("actor", .ofOption .string r.actor)]

/-- The fields, in order. -/
def shape : Shape :=
  [("pull", .required), ("method", .required), ("commit_title", .optional),
    ("commit_message", .optional), ("actor", .optional)]

/-- A wire value read back. -/
def ofJson? (j : Json) : Option MergeRequest := do
  let [pull, method, commitTitle, commitMessage, actor] ← j.fields? shape false | none
  return {
    pull := ← required PullRef.ofJson? pull
    method := ← required Spelled.ofJson? method
    commitTitle := ← orNone text? commitTitle
    commitMessage := ← orNone text? commitMessage
    actor := ← orNone text? actor }

end MergeRequest

/-- What a platform can be asked. -/
inductive Call where
  /-- The present state of a pull request. -/
  | getPull (pull : PullRef)
  /-- Whether the head branch lacks commits of the base branch. -/
  | isBehind (pull : PullRef)
  /-- Whether new commits have come since the last evaluation. -/
  | haveBeenSynchronized (pull : PullRef)
  /-- The states of the checks. -/
  | getChecks (pull : PullRef)
  /-- The names of the checks that a branch requires. -/
  | requiredChecks (repository branch : String)
  /-- Merge the base branch into the head branch. -/
  | updateBranch (pull : PullRef)
  /-- Rebase the head branch, as the given account. -/
  | rewriteBranch (pull : PullRef) (method : UpdateMethod) (actor : Option String)
  | mergePull (request : MergeRequest)
  deriving DecidableEq, Repr

/-- What a call is answered with. -/
def Call.Answer : Call → Type
  | .getPull _ => PullSnapshot
  | .isBehind _ => Bool
  | .haveBeenSynchronized _ => Bool
  | .getChecks _ => CheckStates
  | .requiredChecks _ _ => List String
  | .updateBranch _ => Unit
  | .rewriteBranch _ _ _ => Unit
  | .mergePull _ => Unit

/-- Something that answers calls, with a state of its own. -/
structure Platform (σ : Type) where
  answer : (call : Call) → σ → Except Error call.Answer × σ

end MergeTrain
