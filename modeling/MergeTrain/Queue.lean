import MergeTrain.Error
import MergeTrain.Instant.Basic
import MergeTrain.MergeConfig
import MergeTrain.Pull.Basic

/-!
# Queues

The pull requests waiting to be merged into one branch: greatest priority first, then the earliest
to enter, then the earliest to arrive.

## Main definitions

* `QueueEntry`, `QueueEntry.precedes` — a waiting pull request, and the order of queues.
* `Queue` — the entries in that order.
* `Queue.boundary`, `Queue.place` — the search for the place of an entry, and the entry put there.
* `Queue.insert`, `Queue.remove`, `Queue.updateConfig` — the changes.
* `Queue.expired` — who has waited too long.
-/

namespace MergeTrain

/-- A pull request waiting in a queue. -/
structure QueueEntry where
  pull : PullRef
  /-- The priority that counts for the order. -/
  priority : Priority
  enqueuedAt : Instant
  /-- The policy's choices when it entered. -/
  config : MergeConfig
  /-- How many entries the queue had taken before; given by the queue. -/
  arrival : Nat := 0
  deriving DecidableEq, Repr

namespace QueueEntry

/-- The number of the pull request. -/
def number (e : QueueEntry) : UInt64 :=
  e.pull.number

/-- Whether `a` stands before `b` in a queue. -/
def precedes (a b : QueueEntry) : Bool :=
  if a.priority = b.priority then
    if a.enqueuedAt = b.enqueuedAt then a.arrival < b.arrival
    else a.enqueuedAt.before b.enqueuedAt
  else b.priority.weight < a.priority.weight

end QueueEntry

/-- The pull requests waiting to be merged into one branch. -/
structure Queue where
  /-- The repository with its owner. -/
  repository : String
  branch : String
  /-- The entries, in the order of the queue. -/
  entries : List QueueEntry := []
  /-- How many entries the queue has taken. -/
  arrivals : Nat := 0
  deriving DecidableEq, Repr

namespace Queue

/-- How many elements of a list pass a test, found by halving: the search has come to the place
`base`, and `size` places from there are open. It takes for granted that the elements that pass
stand before those that do not. -/
def boundary {α : Type} (passes : α → Bool) (l : List α) (base size : Nat) : Nat :=
  if size ≤ 1 then
    if l[base]?.any passes then base + 1 else base
  else
    let middle := base + size / 2
    if l[middle]?.any passes then boundary passes l middle (size - size / 2)
    else boundary passes l base (size - size / 2)
termination_by size

/-- Put an entry behind all entries that stand before it. -/
def place (e : QueueEntry) (entries : List QueueEntry) : List QueueEntry :=
  entries.insertIdx (boundary (fun other => other.precedes e) entries 0 entries.length) e

/-- Whether a pull request waits in the queue. -/
def contains (q : Queue) (number : UInt64) : Bool :=
  q.entries.any fun e => e.number == number

/-- The entry of a pull request. -/
def get? (q : Queue) (number : UInt64) : Option QueueEntry :=
  q.entries.find? fun e => e.number == number

/-- The place of a pull request, counted from zero. -/
def position? (q : Queue) (number : UInt64) : Option Nat :=
  q.entries.findIdx? fun e => e.number == number

/-- Whether a pull request is at the head of the queue. -/
def isFirst (q : Queue) (number : UInt64) : Bool :=
  match q.entries with
  | [] => false
  | head :: _ => head.number == number

/-- Whether nothing waits. -/
def isEmpty (q : Queue) : Bool :=
  q.entries.isEmpty

/-- The numbers of the waiting pull requests, in order. -/
def numbers (q : Queue) : List UInt64 :=
  q.entries.map QueueEntry.number

/-- Take an entry in. It must target the queue's branch, and be new. -/
def insert (q : Queue) (e : QueueEntry) : Except Error Queue :=
  if e.pull.baseRef ≠ q.branch then .error (.wrongBranch q.branch e.pull.baseRef e.number)
  else if q.contains e.number then .error (.alreadyQueued q.branch e.number)
  else
    .ok { q with
      entries := place { e with arrival := q.arrivals } q.entries
      arrivals := q.arrivals + 1 }

/-- Let a pull request out. Nothing happens if it is not there. -/
def remove (q : Queue) (number : UInt64) : Queue :=
  { q with entries := q.entries.eraseP fun e => e.number == number }

/-- Replace the priority and the choices of a waiting pull request, and move it to its new place.
It keeps the time it entered and its arrival. -/
def updateConfig (q : Queue) (number : UInt64) (priority : Priority) (config : MergeConfig) :
    Except Error Queue :=
  match q.get? number with
  | none => .error (.pullNotQueued number)
  | some e => .ok { q with entries := place { e with priority, config } (q.remove number).entries }

/-- The pull requests that have waited longer than `limit` nanoseconds. -/
def expired (q : Queue) (now : Instant) (limit : Int) : List UInt64 :=
  (q.entries.filter fun e => limit < now.since e.enqueuedAt).map QueueEntry.number

end Queue

end MergeTrain
