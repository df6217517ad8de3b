import MergeTrain.Platform
import MergeTrain.Registry

/-!
# Sessions

What changes while a merge train runs: the registry of queues, the platform, and the record of what
the platform was asked and how it answered. All of it is kept when an operation fails.

## Main definitions

* `Exchange` — a call and its answer.
* `Session` — the state.
* `TrainM` — an operation on the state that may fail.
* `consult`, `ask` — a call to the platform whose failure is a value, or ends the operation.
-/

namespace MergeTrain

/-- A call and its answer. -/
structure Exchange where
  call : Call
  answer : Except Error call.Answer

/-- What changes while a merge train runs. -/
structure Session (σ : Type) where
  registry : Registry := {}
  /-- The state of the platform. -/
  platform : σ
  /-- What the platform was asked, in order. -/
  exchanges : List Exchange := []

/-- An operation that may fail. What it has changed until then stays changed. -/
abbrev TrainM (σ : Type) := ExceptT Error (StateM (Session σ))

variable {σ : Type}

/-- Make a call to the platform and put the answer on record. -/
def exchange (platform : Platform σ) (call : Call) :
    StateM (Session σ) (Except Error call.Answer) := fun s =>
  let (answer, state) := platform.answer call s.platform
  (answer, { s with platform := state, exchanges := s.exchanges ++ [⟨call, answer⟩] })

/-- Ask the platform. A failure is an answer. -/
def consult (platform : Platform σ) (call : Call) : TrainM σ (Except Error call.Answer) :=
  ExceptT.lift (exchange platform call)

/-- Ask the platform. A failure ends the operation. -/
def ask (platform : Platform σ) (call : Call) : TrainM σ call.Answer :=
  ExceptT.mk (exchange platform call)

/-- Change the registry. -/
def changeRegistry (change : Registry → Registry) : TrainM σ Unit :=
  modify fun s => { s with registry := change s.registry }

/-- The queue of the branch that a pull request targets. -/
def queueOf (pull : PullRef) : TrainM σ Queue := do
  return (← get).registry.queue pull.queueKey

/-- Change the queue of the branch that a pull request targets. -/
def changeQueue (pull : PullRef) (change : Queue → Queue) : TrainM σ Unit :=
  changeRegistry fun r => r.update pull.queueKey change

/-- Do something for a pull request, and then drop the queue of its branch if it is idle, whether
that failed or not. -/
def thenPrune {α : Type} (pull : PullRef) (body : TrainM σ α) : TrainM σ α :=
  ExceptT.mk do
    let result ← body.run
    modify fun s => { s with registry := s.registry.prune pull.queueKey }
    return result

end MergeTrain
