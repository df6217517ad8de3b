import MergeTrain.Queue

/-!
# Standings

Where one pull request stands in its train: how fresh its head branch is, how strict its policy is,
and what its queue holds. From these follow the next step and the state that is reported. Nothing
here changes the queue.

## Main definitions

* `Standing` — the facts.
* `Standing.shouldUpdate`, `Standing.shouldMerge` — what they call for.
* `TrainState`, `Standing.state` — the state that is reported.
-/

namespace MergeTrain

/-- The facts that decide about one pull request. -/
structure Standing where
  number : UInt64
  /-- The head branch lacks commits of the base branch. -/
  isBehind : Bool
  strict : StrictMode
  /-- The queue of the base branch. -/
  queue : Queue

namespace Standing

/-- Whether the pull request is first in its queue. -/
def isFirst (s : Standing) : Bool :=
  s.queue.isFirst s.number

/-- Whether the pull request belongs in the queue. It always does once it is to be merged; when it
has to leave is a question of its own. -/
def shouldQueue (_ : Standing) : Bool :=
  true

/-- Whether the head branch must be brought up to date now. -/
def shouldUpdate (s : Standing) : Bool :=
  match s.strict with
  | .disabled => false
  | .continuous | .fastTrack => s.isBehind
  | .ordered => s.isBehind && s.isFirst

/-- Whether the pull request can be merged now. -/
def shouldMerge (s : Standing) : Bool :=
  match s.strict with
  | .disabled => true
  | .continuous | .fastTrack => !s.isBehind
  | .ordered => !s.isBehind && s.isFirst

end Standing

/-- The state of a pull request with respect to its train. It is worked out when it is needed and
stored nowhere. -/
inductive TrainState where
  | notQueued
  /-- It waits for its turn or for checks. -/
  | queued
  /-- Its head branch is being brought up to date. -/
  | synchronizing
  /-- It can be merged now. -/
  | mergeable
  | merged
  /-- It was removed from the train. -/
  | cancelled
  deriving DecidableEq, Repr

namespace TrainState

/-- The state in words. -/
def text : TrainState → String
  | .notQueued => "not queued"
  | .queued => "queued"
  | .synchronizing => "synchronizing"
  | .mergeable => "mergeable"
  | .merged => "merged"
  | .cancelled => "cancelled"

/-- Whether the pull request has left the train for good. -/
def isFinal : TrainState → Bool
  | .merged | .cancelled => true
  | _ => false

end TrainState

/-- The state of a pull request that is in the train, or not. -/
def Standing.state (s : Standing) (queued : Bool) : TrainState :=
  if !queued then .notQueued
  else if s.shouldMerge then .mergeable
  else if s.shouldUpdate then .synchronizing
  else .queued

end MergeTrain
