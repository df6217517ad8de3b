import MergeTrain.Spelled

/-!
# Pull requests

Which pull request is meant, and what the hosting platform says about it at one moment.

## Main definitions

* `Owner`, `PullRef` — the identity of a pull request at a head commit.
* `PullSnapshot` — its live state.
-/

namespace MergeTrain

/-- The account that owns a repository. -/
structure Owner where
  id : UInt64
  login : String
  deriving DecidableEq, Repr

/-- A pull request at a given head commit. -/
structure PullRef where
  owner : Owner
  /-- The name of the repository, without its owner. -/
  repo : String
  number : UInt64
  headSha : String
  /-- The branch that the pull request is to be merged into. -/
  baseRef : String
  deriving DecidableEq, Repr

/-- Write a pull request number. -/
def numberText (number : UInt64) : String :=
  "#" ++ toString number.toNat

namespace PullRef

/-- The repository with its owner. -/
def repository (pull : PullRef) : String :=
  pull.owner.login ++ "/" ++ pull.repo

/-- The pull request as people write it. -/
def text (pull : PullRef) : String :=
  pull.repository ++ numberText pull.number

end PullRef

/-- Whether a pull request is open. A merged one is closed. -/
inductive PullState where
  | isOpen
  | closed
  deriving DecidableEq, Repr

instance : Spelled PullState where
  all := [.isOpen, .closed]
  text
    | .isOpen => "open"
    | .closed => "closed"

/-- Whether the platform could merge a pull request, as it computed last. -/
inductive Mergeability where
  /-- There is a conflict with the base branch. -/
  | dirty
  /-- Not computed yet. -/
  | unknown
  /-- The head branch lacks commits of the base branch. -/
  | behind
  | clean
  /-- Mergeable, with commit statuses that do not pass. -/
  | unstable
  /-- Mergeable, with hooks that run before. -/
  | hasHooks
  /-- Branch protection refuses. -/
  | blocked
  deriving DecidableEq, Repr

instance : Spelled Mergeability where
  all := [.dirty, .unknown, .behind, .clean, .unstable, .hasHooks, .blocked]
  text
    | .dirty => "dirty"
    | .unknown => "unknown"
    | .behind => "behind"
    | .clean => "clean"
    | .unstable => "unstable"
    | .hasHooks => "has_hooks"
    | .blocked => "blocked"

/-- What the platform says about a pull request at one moment. -/
structure PullSnapshot where
  pull : PullRef
  title : String
  body : Option String := none
  state : PullState
  isDraft : Bool := false
  merged : Bool := false
  /-- The login of the account that merged it. -/
  mergedBy : Option String := none
  mergeCommitSha : Option String := none
  mergeability : Mergeability
  /-- Whether the platform can rebase it. -/
  rebaseable : Bool := true
  changedFiles : UInt64 := 0
  /-- Whether it changes a protected workflow definition. -/
  workflowChanged : Bool := false
  deriving DecidableEq, Repr

namespace PullSnapshot

/-- The number of the pull request. -/
def number (snapshot : PullSnapshot) : UInt64 :=
  snapshot.pull.number

/-- Whether the pull request is closed, merged or not. -/
def isClosed (snapshot : PullSnapshot) : Bool :=
  snapshot.state == .closed

end PullSnapshot

end MergeTrain
