import MergeTrain.Json.Basic
import MergeTrain.Priority
import MergeTrain.Spelled

/-!
# How pull requests are merged

The choices that a policy makes for a pull request, taken down when it enters a queue.

## Main definitions

* `MergeMethod`, `RebaseFallback`, `UpdateMethod`, `StrictMode`, `CommitMessageMode` — the choices.
* `MergeConfig` — all of them, with their defaults.
-/

namespace MergeTrain

/-- How a pull request is merged. -/
inductive MergeMethod where
  | squash
  | merge
  | rebase
  deriving DecidableEq, Repr

instance : Spelled MergeMethod where
  all := [.squash, .merge, .rebase]
  text
    | .squash => "squash"
    | .merge => "merge"
    | .rebase => "rebase"

/-- What is done when a rebase is asked for and the platform cannot do it. -/
inductive RebaseFallback where
  | merge
  | squash
  /-- Someone has to act. -/
  | none
  deriving DecidableEq, Repr

instance : Spelled RebaseFallback where
  all := [.merge, .squash, .none]
  text
    | .merge => "merge"
    | .squash => "squash"
    | .none => "none"

/-- How a head branch is brought up to date with its base branch. -/
inductive UpdateMethod where
  /-- The head branch is rewritten. -/
  | rebase
  /-- The base branch is merged into it. -/
  | merge
  deriving DecidableEq, Repr

instance : Spelled UpdateMethod where
  all := [.rebase, .merge]
  text
    | .rebase => "rebase"
    | .merge => "merge"

/-- How fresh a head branch must be to be merged. -/
inductive StrictMode where
  /-- It need not be up to date. -/
  | disabled
  /-- It must be up to date, whatever its place in the queue. -/
  | continuous
  /-- As `continuous`, with the place reported. -/
  | fastTrack
  /-- It must be up to date and first in the queue. -/
  | ordered
  deriving DecidableEq, Repr

instance : Spelled StrictMode where
  all := [.disabled, .continuous, .fastTrack, .ordered]
  text
    | .disabled => "disabled"
    | .continuous => "continuous"
    | .fastTrack => "fasttrack"
    | .ordered => "ordered"

namespace StrictMode

/-- Whether a head branch must be up to date. -/
def isEnabled : StrictMode → Bool
  | .disabled => false
  | _ => true

/-- Whether status titles tell the place in the queue. -/
def reportsPosition : StrictMode → Bool
  | .fastTrack | .ordered => true
  | _ => false

end StrictMode

/-- Where the message of a merge commit comes from. -/
inductive CommitMessageMode where
  /-- From a section of the pull request's body, or else from the platform. -/
  | default
  /-- From the title and the body of the pull request. -/
  | titleAndBody
  deriving DecidableEq, Repr

instance : Spelled CommitMessageMode where
  all := [.default, .titleAndBody]
  text
    | .default => "default"
    | .titleAndBody => "title+body"

/-- The choices that a policy makes for a pull request. -/
structure MergeConfig where
  method : MergeMethod := .merge
  rebaseFallback : RebaseFallback := .merge
  strict : StrictMode := .disabled
  updateMethod : UpdateMethod := .merge
  priority : Priority := .medium
  /-- An older name for `updateBotAccount`. -/
  botAccount : Option String := none
  /-- Who updates branches. -/
  updateBotAccount : Option String := none
  /-- Who merges. -/
  mergeBotAccount : Option String := none
  commitMessage : CommitMessageMode := .default
  deriving DecidableEq, Repr

namespace MergeConfig

/-- Who updates branches, under either name. -/
def updateActor (config : MergeConfig) : Option String :=
  config.updateBotAccount.or config.botAccount

/-- The wire form. -/
def toJson (c : MergeConfig) : Json :=
  .object
    [("method", Spelled.toJson c.method), ("rebase_fallback", Spelled.toJson c.rebaseFallback),
      ("strict", Spelled.toJson c.strict), ("strict_method", Spelled.toJson c.updateMethod),
      ("priority", c.priority.toJson), ("bot_account", .ofOption .string c.botAccount),
      ("update_bot_account", .ofOption .string c.updateBotAccount),
      ("merge_bot_account", .ofOption .string c.mergeBotAccount),
      ("commit_message", Spelled.toJson c.commitMessage)]

end MergeConfig

end MergeTrain
