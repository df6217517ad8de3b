import MergeTrain.Queue

/-!
# The registry of queues

One queue per repository and branch, opened when it is first asked for and dropped when it is empty
and nobody holds it. Every queue that is opened gets a serial number, and a handle remembers the
number of the queue that it holds: so a handle can be told from one on a later queue of the same
branch. The order of the slots carries no meaning.

## Main definitions

* `Registry` — the open queues and the handles on them.
* `Registry.open`, `Registry.update` — a queue made available, and changed.
* `Registry.prune` — drop a queue that is empty and not held.
* `Registry.removeElsewhere` — a pull request that changed its branch leaves the other queues.
* `Registry.hold`, `Registry.release` — take and drop a handle.
-/

namespace MergeTrain

/-- What a queue is registered under. -/
structure QueueKey where
  /-- The repository with its owner. -/
  repository : String
  branch : String
  deriving DecidableEq, Repr

/-- The key of the queue that a pull request belongs to. -/
def PullRef.queueKey (pull : PullRef) : QueueKey :=
  ⟨pull.repository, pull.baseRef⟩

/-- An open queue. -/
structure Slot where
  key : QueueKey
  /-- How many queues had been opened before. -/
  serial : Nat
  queue : Queue
  deriving DecidableEq, Repr

/-- A hold on one queue. -/
structure Handle where
  key : QueueKey
  /-- The serial number of the queue held. -/
  serial : Nat
  deriving DecidableEq, Repr

/-- The open queues and the handles on them. -/
structure Registry where
  slots : List Slot := []
  /-- The handles by name. -/
  handles : List (String × Handle) := []
  /-- How many queues have been opened. -/
  opened : Nat := 0
  deriving DecidableEq, Repr

namespace Registry

/-- The slot of a key. -/
def slot? (r : Registry) (key : QueueKey) : Option Slot :=
  r.slots.find? fun s => s.key == key

/-- The queue of a key. -/
def queue? (r : Registry) (key : QueueKey) : Option Queue :=
  (r.slot? key).map Slot.queue

/-- The queue of a key, or an empty one where there is none. -/
def queue (r : Registry) (key : QueueKey) : Queue :=
  (r.queue? key).getD { repository := key.repository, branch := key.branch }

/-- Open the queue of a key, unless it is open. -/
def «open» (r : Registry) (key : QueueKey) : Registry :=
  match r.slot? key with
  | some _ => r
  | none =>
    { r with
      slots := r.slots ++
        [{ key, serial := r.opened,
           queue := { repository := key.repository, branch := key.branch } }]
      opened := r.opened + 1 }

/-- Change the queue of a key, if it is open. -/
def update (r : Registry) (key : QueueKey) (change : Queue → Queue) : Registry :=
  { r with
    slots := r.slots.map fun s => if s.key = key then { s with queue := change s.queue } else s }

/-- Whether some handle is on the queue of a slot. -/
def isHeld (r : Registry) (s : Slot) : Bool :=
  r.handles.any fun h => h.2.serial == s.serial

/-- Whether a queue could be dropped: it is open and empty, and nobody holds it. -/
def isIdle (r : Registry) (key : QueueKey) : Bool :=
  match r.slot? key with
  | none => false
  | some s => s.queue.isEmpty && !r.isHeld s

/-- Drop the queue of a key if it is idle. -/
def prune (r : Registry) (key : QueueKey) : Registry :=
  if r.isIdle key then { r with slots := r.slots.filter fun s => s.key ≠ key } else r

/-- The branches of a repository that have a queue, in order. -/
def branches (r : Registry) (repository : String) : List String :=
  ((r.slots.filter fun s => s.key.repository == repository).map fun s => s.key.branch).mergeSort
    fun a b => a ≤ b

/-- Whether the queue of a slot is one that a pull request has to leave. -/
def isElsewhere (repository : String) (number : UInt64) (keep : String) (s : Slot) : Bool :=
  s.key.repository == repository && s.key.branch != keep && s.queue.contains number

/-- Let a pull request out of every queue of its repository except the one of the branch `keep`,
and drop the queues that this leaves idle. The branches that it left come first, in order. -/
def removeElsewhere (r : Registry) (repository : String) (number : UInt64) (keep : String) :
    List String × Registry :=
  let leaves := isElsewhere repository number keep
  let left := (r.slots.filter leaves).map fun s => s.key.branch
  let removed :=
    { r with
      slots := r.slots.map fun s =>
        if leaves s then { s with queue := s.queue.remove number } else s }
  (left.mergeSort fun a b => a ≤ b,
    left.foldl (fun r branch => r.prune ⟨repository, branch⟩) removed)

/-! ### Handles -/

/-- The handle of a name. -/
def handle? (r : Registry) (name : String) : Option Handle :=
  r.handles.lookup name

/-- Drop the handle of a name, if there is one. -/
def release (r : Registry) (name : String) : Registry :=
  { r with handles := r.handles.filter fun h => h.1 != name }

/-- Take a handle on the queue of a key under a name, opening the queue if needed and dropping an
earlier handle of that name. -/
def hold (r : Registry) (name : String) (key : QueueKey) : Registry :=
  let r := r.open key
  match r.slot? key with
  | none => r
  | some s =>
    let r := r.release name
    { r with handles := r.handles ++ [(name, { key, serial := s.serial })] }

/-- The slot of the queue that a handle is on. -/
def slotOf? (r : Registry) (h : Handle) : Option Slot :=
  r.slots.find? fun s => s.serial == h.serial

/-- Change the queue that a handle is on. -/
def updateHeld (r : Registry) (h : Handle) (change : Queue → Queue) : Registry :=
  { r with
    slots := r.slots.map fun s =>
      if s.serial = h.serial then { s with queue := change s.queue } else s }

end Registry

end MergeTrain
