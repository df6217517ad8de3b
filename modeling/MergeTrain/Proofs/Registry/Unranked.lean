import MergeTrain.Proofs.Registry.Others
import MergeTrain.Train.Run

/-!
# What is left without configured priorities

An entry carries two priorities. One counts for the order of its queue. The other is the one that
was configured, and it is kept with the choices of the policy. To leave the second one out of a
queue, or of a whole registry, makes no difference to anything that is done there: whatever changes
a queue changes what is left of it in the same way, and the order, the places and the times are all
there.

## Main definitions

* `QueueEntry.unranked`, `Queue.unranked`, `Registry.unranked` — without configured priorities.

## Main results

* `Queue.remove_unranked`, `Train.enqueued_unranked` — the changes to a queue.
* `Registry.update_unranked`, `Registry.prune_unranked`, `Registry.follow_unranked` — the changes to
  a registry.
-/

namespace MergeTrain

/-- The choices without the configured priority. -/
def MergeConfig.unranked (config : MergeConfig) : MergeConfig :=
  { config with priority := .medium }

namespace QueueEntry

/-- An entry without the configured priority. The one that counts stays. -/
def unranked (x : QueueEntry) : QueueEntry :=
  { x with config := x.config.unranked }

@[simp] theorem pull_unranked (x : QueueEntry) : x.unranked.pull = x.pull :=
  rfl

@[simp] theorem number_unranked (x : QueueEntry) : x.unranked.number = x.number :=
  rfl

end QueueEntry

/-! ### Queues -/

namespace Queue

variable {q : Queue}

/-- A queue without configured priorities. -/
def unranked (q : Queue) : Queue :=
  { q with entries := q.entries.map QueueEntry.unranked }

@[simp] theorem branch_unranked (q : Queue) : q.unranked.branch = q.branch :=
  rfl

@[simp] theorem contains_unranked (q : Queue) (n : UInt64) :
    q.unranked.contains n = q.contains n :=
  List.any_map

@[simp] theorem get?_unranked (q : Queue) (n : UInt64) :
    q.unranked.get? n = (q.get? n).map QueueEntry.unranked :=
  List.find?_map ..

@[simp] theorem position?_unranked (q : Queue) (n : UInt64) :
    q.unranked.position? n = q.position? n :=
  List.findIdx?_map ..

@[simp] theorem isFirst_unranked (q : Queue) (n : UInt64) : q.unranked.isFirst n = q.isFirst n := by
  rw [isFirst, isFirst, unranked]
  cases q.entries <;> rfl

@[simp] theorem isEmpty_unranked (q : Queue) : q.unranked.isEmpty = q.isEmpty :=
  List.isEmpty_map

@[simp] theorem expired_unranked (q : Queue) (now : Instant) (limit : Int) :
    q.unranked.expired now limit = q.expired now limit := by
  rw [expired, unranked, List.filter_map, List.map_map]
  rfl

theorem remove_unranked (q : Queue) (n : UInt64) : q.unranked.remove n = (q.remove n).unranked := by
  rw [remove, unranked, List.eraseP_map]
  rfl

theorem foldl_remove_unranked (q : Queue) (ns : List UInt64) :
    ns.foldl remove q.unranked = (ns.foldl remove q).unranked :=
  List.foldl_hom unranked remove_unranked

/-- The search looks at what the test sees of the elements, and at nothing else. -/
theorem boundary_map {α γ : Type} (f : α → γ) (passes : γ → Bool) (l : List α) (base size : Nat) :
    boundary passes (l.map f) base size = boundary (fun a => passes (f a)) l base size := by
  have hany : ∀ i : Nat, (l.map f)[i]?.any passes = l[i]?.any fun a => passes (f a) := by
    intro i
    rw [List.getElem?_map, Option.any_map]
  fun_induction boundary passes (l.map f) base size with
  | case1 base size hsize hpasses => rw [boundary, if_pos hsize, ← hany, if_pos hpasses]
  | case2 base size hsize hpasses => rw [boundary, if_pos hsize, ← hany, if_neg hpasses]
  | case3 base size hsize middle hpasses ih =>
    rw [hany] at hpasses
    rw [boundary.eq_def _ l, if_neg hsize]
    exact ih.trans (if_pos hpasses).symm
  | case4 base size hsize middle hpasses ih =>
    rw [hany] at hpasses
    rw [boundary.eq_def _ l, if_neg hsize]
    exact ih.trans (if_neg hpasses).symm

theorem place_unranked (x : QueueEntry) (entries : List QueueEntry) :
    place x.unranked (entries.map QueueEntry.unranked)
      = (place x entries).map QueueEntry.unranked := by
  rw [place, place, List.map_insertIdx, boundary_map, List.length_map]
  rfl

theorem insert_unranked (q : Queue) (x : QueueEntry) :
    q.unranked.insert x.unranked = (q.insert x).map unranked := by
  rw [insert, insert, contains_unranked, branch_unranked, QueueEntry.pull_unranked,
    QueueEntry.number_unranked]
  split
  · rfl
  · split
    · rfl
    · exact congrArg (fun entries => Except.ok { q with entries, arrivals := q.arrivals + 1 })
        (place_unranked { x with arrival := q.arrivals } q.entries)

theorem updateConfig_unranked (q : Queue) (n : UInt64) (priority : Priority)
    (config : MergeConfig) :
    q.unranked.updateConfig n priority config.unranked
      = (q.updateConfig n priority config).map unranked := by
  rw [updateConfig, updateConfig, get?_unranked, remove_unranked]
  cases q.get? n with
  | none => rfl
  | some x =>
    exact congrArg (fun entries => Except.ok { q with entries })
      (place_unranked { x with priority, config } (q.remove n).entries)

end Queue

/-- To enter a queue, or to move in it. -/
theorem Train.enqueued_unranked (x : QueueEntry) (q : Queue) :
    enqueued x.unranked q.unranked = (enqueued x q).map Queue.unranked := by
  rw [enqueued, enqueued, Queue.insert_unranked]
  cases q.insert x with
  | ok queue => rfl
  | error error =>
    cases error with
    | alreadyQueued => exact q.updateConfig_unranked x.number x.priority x.config
    | _ => rfl

/-! ### Registries -/

/-- A slot without configured priorities. -/
def Slot.unranked (s : Slot) : Slot :=
  { s with queue := s.queue.unranked }

namespace Registry

variable {r : Registry} {key : QueueKey}

/-- A registry without configured priorities. -/
def unranked (r : Registry) : Registry :=
  { r with slots := r.slots.map Slot.unranked }

@[simp] theorem slot?_unranked (r : Registry) (key : QueueKey) :
    r.unranked.slot? key = (r.slot? key).map Slot.unranked :=
  slot?_map r Slot.unranked (fun _ => rfl) key

@[simp] theorem queue_unranked (r : Registry) (key : QueueKey) :
    r.unranked.queue key = (r.queue key).unranked := by
  rw [Registry.queue, queue?, slot?_unranked, Registry.queue, queue?]
  cases r.slot? key <;> rfl

/-- Registries that differ in configured priorities only are changed into such registries. -/
theorem unranked_congr (change : Registry → Registry)
    (h : ∀ r : Registry, change r.unranked = (change r).unranked) {r r' : Registry}
    (hr : r'.unranked = r.unranked) : (change r').unranked = (change r).unranked := by
  rw [← h, hr, h]

theorem open_unranked (r : Registry) (key : QueueKey) :
    r.unranked.open key = (r.open key).unranked := by
  rw [Registry.open, Registry.open, slot?_unranked]
  cases r.slot? key with
  | some s => rfl
  | none =>
    rw [Option.map_none]
    simp only [unranked, List.map_append, List.map_singleton]
    rfl

/-- A change that does the same to what is left of a queue does the same to what is left of the
registry. -/
theorem update_unranked {change change' : Queue → Queue}
    (h : ∀ q : Queue, change' q.unranked = (change q).unranked) (r : Registry) (key : QueueKey) :
    r.unranked.update key change' = (r.update key change).unranked := by
  simp only [update, unranked, List.map_map]
  congr 1
  refine List.map_congr_left fun s _ => ?_
  by_cases hs : s.key = key
  · simp [Slot.unranked, hs, h]
  · simp [Slot.unranked, hs]

theorem set_unranked (r : Registry) (key : QueueKey) (q : Queue) :
    (r.unranked.update key fun _ => q.unranked) = (r.update key fun _ => q).unranked := by
  have hset : ∀ p : Queue, (fun _ => q.unranked) p.unranked = ((fun _ => q) p).unranked :=
    fun _ => rfl
  exact update_unranked hset r key

theorem leave_unranked (r : Registry) (pull : PullRef) :
    r.unranked.leave pull = (r.leave pull).unranked :=
  update_unranked (fun q => q.remove_unranked pull.number) r pull.queueKey

@[simp] theorem isIdle_unranked (r : Registry) (key : QueueKey) :
    r.unranked.isIdle key = r.isIdle key := by
  rw [isIdle, isIdle, slot?_unranked]
  cases r.slot? key with
  | none => rfl
  | some s => exact congrArg (· && !r.isHeld s) s.queue.isEmpty_unranked

theorem prune_unranked (r : Registry) (key : QueueKey) :
    r.unranked.prune key = (r.prune key).unranked := by
  rw [prune_eq, prune_eq, isIdle_unranked]
  split
  · simp only [without, unranked, List.filter_map]
    rfl
  · rfl

theorem foldl_prune_unranked (r : Registry) (repository : String) (branches : List String) :
    branches.foldl (fun r branch => r.prune ⟨repository, branch⟩) r.unranked
      = (branches.foldl (fun r branch => r.prune ⟨repository, branch⟩) r).unranked :=
  List.foldl_hom unranked fun r branch => r.prune_unranked ⟨repository, branch⟩

theorem isElsewhere_unranked (repository : String) (n : UInt64) (keep : String) (s : Slot) :
    isElsewhere repository n keep s.unranked = isElsewhere repository n keep s := by
  rw [isElsewhere, isElsewhere, Slot.unranked, Queue.contains_unranked]

theorem follow_unranked (r : Registry) (pull : PullRef) :
    r.unranked.follow pull = (r.follow pull).unranked := by
  have hstrays : r.unranked.strays pull = r.strays pull := by
    rw [strays, unranked, List.filter_map, List.map_map, strays]
    refine congrArg (List.map _) (List.filter_congr fun s _ => ?_)
    exact isElsewhere_unranked ..
  have hstripped : r.unranked.stripped pull = (r.stripped pull).unranked := by
    simp only [stripped, unranked, List.map_map]
    congr 1
    refine List.map_congr_left fun s _ => ?_
    rw [Function.comp_apply, Function.comp_apply, isElsewhere_unranked]
    split
    · simp only [Slot.unranked, Queue.remove_unranked]
    · rfl
  rw [follow_eq, follow_eq, hstrays, hstripped, foldl_prune_unranked]

end Registry

end MergeTrain
