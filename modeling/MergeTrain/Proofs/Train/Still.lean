import Mathlib.Control.Monad.Basic
import MergeTrain.Proofs.Train.Effect
import MergeTrain.Train.Run

/-!
# Platforms that stand still

The least that a train can run on: a platform that knows one pull request and never changes its
mind. Theorems about trains are tried out on it, and what a train has asked it can be compared with
what was expected.

## Main definitions

* `Still` — the answers of such a platform.
* `Still.train`, `Still.evaluation` — a train on it, and an evaluation of the pull request.
* `Still.waiting` — a session in which pull requests wait.
-/

namespace MergeTrain

instance (call : Call) : DecidableEq call.Answer :=
  match call with
  | .getPull _ => inferInstanceAs (DecidableEq PullSnapshot)
  | .isBehind _ | .haveBeenSynchronized _ => inferInstanceAs (DecidableEq Bool)
  | .getChecks _ => inferInstanceAs (DecidableEq CheckStates)
  | .requiredChecks _ _ => inferInstanceAs (DecidableEq (List String))
  | .updateBranch _ | .rewriteBranch _ _ _ | .mergePull _ => inferInstanceAs (DecidableEq Unit)

deriving instance DecidableEq for Exchange

namespace Still

/-- A pull request. The platform knows the first one. -/
def pull (number : UInt64) : PullRef :=
  { owner := { id := 42, login := "acme" }, repo := "widgets", number, headSha := "sha",
    baseRef := "main" }

/-- The first pull request when nothing stands in its way. -/
def clean : PullSnapshot :=
  { pull := pull 1, title := "Change", state := .isOpen, mergeability := .clean }

end Still

/-- The answers of a platform that never changes its mind. -/
structure Still where
  snapshot : PullSnapshot := Still.clean
  isBehind : Bool := false
  /-- The answer to an update of the head branch. -/
  update : Except Error Unit := .ok ()
  /-- The answer to a merge. -/
  merge : Except Error Unit := .ok ()

namespace Still

/-- The platform. There is nothing new on it, and no check is known or required. -/
def platform (p : Still) : Platform Unit where
  answer call _ :=
    match call with
    | .getPull _ => (.ok p.snapshot, ())
    | .isBehind _ => (.ok p.isBehind, ())
    | .haveBeenSynchronized _ => (.ok false, ())
    | .getChecks _ => (.ok .empty, ())
    | .requiredChecks _ _ => (.ok [], ())
    | .updateBranch _ => (p.update, ())
    | .rewriteBranch _ _ _ => (p.update, ())
    | .mergePull _ => (p.merge, ())

/-- A train on it, for an owner who has paid for nothing. No one may wait for more than an hour. -/
def train (p : Still) : Train Unit where
  platform := p.platform
  entitlements := (Subscription.free 42).entitlements
  settings := { bots := [defaultBot], queue := { maxWaitMinutes := some 60 } }

/-- An evaluation of the pull request. -/
def evaluation (config : MergeConfig) : Evaluation :=
  { pull := pull 1, config, rule := none, now := .epoch }

/-- An hour too early to be on time. -/
def tooEarly : Instant :=
  ⟨-7200, 0, by decide⟩

/-- A pull request that has waited for two hours. -/
def lateEntry (number : UInt64) (config : MergeConfig) (arrival : Nat) : QueueEntry :=
  { pull := pull number, priority := .medium, enqueuedAt := tooEarly, config, arrival }

/-- A pull request that has just come. -/
def newEntry (number : UInt64) (config : MergeConfig) (arrival : Nat) : QueueEntry :=
  { pull := pull number, priority := .medium, enqueuedAt := .epoch, config, arrival }

/-- A pull request that came when it targeted another branch than the platform says. -/
def strayEntry (number : UInt64) (config : MergeConfig) (arrival : Nat) : QueueEntry :=
  { newEntry number config arrival with
    pull := { pull number with baseRef := "release" } }

/-- A session in which pull requests wait for the branch. -/
def waiting (entries : List QueueEntry) : Session Unit where
  registry :=
    { slots :=
        [{ key := (pull 1).queueKey, serial := 0,
           queue := { repository := "acme/widgets", branch := "main", entries,
                      arrivals := entries.length } }]
      opened := 1 }
  platform := ()

/-- To find an outcome that passes a test, try the test on the result. -/
theorem exists_outcome {result : Except Error Outcome} {test : Outcome → Bool}
    (h : result.toOption.any test = true) :
    ∃ outcome, result = .ok outcome ∧ test outcome = true := by
  cases result with
  | error error => cases h
  | ok outcome => exact ⟨outcome, rfl, h⟩

end Still

end MergeTrain
