import MergeTrain.Report.Basic
import MergeTrain.Text.Search

/-!
# Refused merges

Why the platform refused to merge a pull request, as far as its answer tells, and what is published
about it.

## Main definitions

* `MergeFailure` — the reasons.
* `MergeFailure.classify` — the reason behind an answer.
* `MergeFailure.report` — what is published.
-/

namespace MergeTrain

open Text

/-- Why the platform refused to merge. -/
inductive MergeFailure where
  /-- New commits have come to the head branch. -/
  | headModified
  /-- The base branch has moved: the merge is planned again. -/
  | baseModified
  /-- A required check has not reported yet. -/
  | requiredStatusPending (check message : String)
  /-- The repository does not allow the merge method. -/
  | methodForbidden (message method : String)
  /-- Branch protection refuses. -/
  | protectionNotValidated (message : String)
  | other (message : String)
  deriving DecidableEq, Repr

namespace MergeFailure

/-- The name of a check in a sentence at the start of the text that says that it is expected. -/
def expectedCheckAt? (s : List Char) : Option (List Char) := do
  let rest ← after? "Required status check \"".toList s
  let name := rest.takeWhile (· != '\"')
  let _ ← after? "\" is expected.".toList (rest.drop name.length)
  return name

/-- The name of a check in the first such sentence. -/
def expectedCheck? : List Char → Option (List Char)
  | [] => none
  | c :: rest => (expectedCheckAt? (c :: rest)).or (expectedCheck? rest)

/-- What the platform says when it does not allow a method, and what settings call the method. -/
def forbidden : List (String × String) :=
  [("Rebase merges are not allowed on this repository.", "rebase merge"),
    ("Squash merges are not allowed on this repository.", "squash merge"),
    ("Merge commits are not allowed on this repository.", "merge commits")]

/-- The reason behind an answer with a status code and a message. -/
def classify (status : UInt16) (message : String) : MergeFailure :=
  if occursIn "Head branch was modified" message then .headModified
  else if occursIn "Base branch was modified" message then .baseModified
  else if status ≠ 405 then .other message
  else
    match expectedCheck? message.toList with
    | some check => .requiredStatusPending (String.ofList check) message
    | none =>
      match forbidden.find? fun f => occursIn f.1 message with
      | some (_, method) => .methodForbidden message method
      | none => .protectionNotValidated message

/-- The statement that branch protection is in the way. -/
def protectionNotice : String :=
  "[Branch protection](https://docs.github.com/en/github/administering-a-repository/" ++
    "about-protected-branches) is enabled and is preventing the merge. "

/-- What is published, unless the merge has to be planned again. -/
def report : MergeFailure → Option StatusReport
  | .headModified =>
    some (.concluded .cancelled "Head branch was modified in the meantime"
      "The head branch was modified, the merge action has been cancelled.")
  | .baseModified => none
  | .requiredStatusPending _ message =>
    some (.pending "Waiting for the branch protection required status checks to be validated"
      (protectionNotice ++ "The pull request will be merged when the [required status check](" ++
        "https://docs.github.com/en/github/administering-a-repository/" ++
        "about-required-status-checks) validate the pull request. (detail: " ++ message ++ ")"))
  | .methodForbidden message method =>
    some (.concluded .cancelled message
      ("The repository configuration doesn't allow " ++ method ++ ". The merge `method` " ++
        "configured must be allowed in the repository configuration settings."))
  | .protectionNotValidated message =>
    some (.concluded .cancelled "Branch protection settings are not validated anymore"
      (protectionNotice ++ "The pull request will be merged when branch protection settings " ++
        "validate it once again. (detail: " ++ message ++ ")"))
  | .other message =>
    some (.concluded .failure "Failed to merge the pull request"
      ("Platform error message: `" ++ message ++ "`"))

end MergeFailure

end MergeTrain
