import Mathlib.Data.List.Basic
import MergeTrain.Proofs.Queue.Sound
import MergeTrain.Registry

/-!
# Registries by their queues

What each change to a registry does to the queue of a key, its own key and the others: a registry is
read through `Registry.queue?` and `Registry.queue`, and never through its slots. Dropping an idle
queue is seen through `Registry.queue?` only. Its entries were none, and none are found after it.

## Main definitions

* `Registry.Distinct` — no pull request waits twice in one queue.
* `Registry.follow`, `Registry.leave` — a pull request leaves the branches that it does not target,
  or the one that it does.

## Main results

* `Registry.queue_update_self`, `Registry.queue_open`, `Registry.entries_queue_prune` — the queue of
  a key after each change.
* `Registry.queue_follow` — the queue of the target branch is left alone.
-/

namespace MergeTrain

namespace Registry

variable {r : Registry} {key k : QueueKey} {change : Queue → Queue}

/-- In no queue does a pull request wait twice. Queues that calls have built are so. -/
def Distinct (r : Registry) : Prop :=
  ∀ s ∈ r.slots, s.queue.numbers.Nodup

instance (r : Registry) : Decidable r.Distinct :=
  inferInstanceAs (Decidable (∀ s ∈ r.slots, s.queue.numbers.Nodup))

/-- A pull request leaves the queues of the branches that it does not target. -/
def follow (r : Registry) (pull : PullRef) : Registry :=
  (r.removeElsewhere pull.repository pull.number pull.baseRef).2

/-- A pull request leaves the queue of the branch that it targets. -/
def leave (r : Registry) (pull : PullRef) : Registry :=
  r.update pull.queueKey fun q => q.remove pull.number

theorem Distinct.queue (h : r.Distinct) (key : QueueKey) : (r.queue key).numbers.Nodup := by
  rw [Registry.queue, queue?]
  cases hs : r.slot? key with
  | none => exact List.nodup_nil
  | some s => exact h s (List.mem_of_find?_eq_some hs)

/-- Whether a pull request waits for the branch that it targets. -/
def holds (r : Registry) (pull : PullRef) : Bool :=
  (r.queue pull.queueKey).contains pull.number

/-! ### Changing a queue -/

theorem slot?_map (r : Registry) (f : Slot → Slot) (hf : ∀ s, (f s).key = s.key) (k : QueueKey) :
    ({ r with slots := r.slots.map f } : Registry).slot? k = (r.slot? k).map f := by
  change (r.slots.map f).find? _ = (r.slots.find? _).map f
  rw [List.find?_map]
  exact congrArg (Option.map f) (congrArg (List.find? · r.slots) (funext fun s => by simp [hf]))

theorem key_of_slot? {s : Slot} (h : r.slot? k = some s) : s.key = k := by
  simpa using List.find?_some h

theorem queue?_update_self (r : Registry) (key : QueueKey) (change : Queue → Queue) :
    (r.update key change).queue? key = (r.queue? key).map change := by
  rw [queue?, update, slot?_map r _ (fun s => by split <;> rfl), queue?]
  cases hs : r.slot? key with
  | none => rfl
  | some s => simp [key_of_slot? hs]

theorem queue?_update_of_ne (h : k ≠ key) : (r.update key change).queue? k = r.queue? k := by
  rw [queue?, update, slot?_map r _ (fun s => by split <;> rfl), queue?]
  cases hs : r.slot? k with
  | none => rfl
  | some s => simp [key_of_slot? hs, h]

theorem queue_update_self (h : (r.queue? key).isSome) (change : Queue → Queue) :
    (r.update key change).queue key = change (r.queue key) := by
  obtain ⟨q, hq⟩ := Option.isSome_iff_exists.mp h
  rw [Registry.queue, queue?_update_self, hq, Registry.queue, hq]
  rfl

/-- Leaving a queue that is not there is leaving an empty one. -/
theorem queue_leave (r : Registry) (pull : PullRef) :
    (r.leave pull).queue pull.queueKey = (r.queue pull.queueKey).remove pull.number := by
  rw [Registry.queue, leave, queue?_update_self, Registry.queue]
  cases r.queue? pull.queueKey <;> rfl

theorem holds_leave {pull : PullRef} (h : (r.queue pull.queueKey).numbers.Nodup) :
    (r.leave pull).holds pull = false := by
  rw [holds, queue_leave, Bool.eq_false_iff, Ne, Queue.contains_iff]
  exact Queue.not_mem_numbers_remove h pull.number

/-! ### Opening and dropping a queue -/

theorem queue?_open_self (r : Registry) (key : QueueKey) :
    (r.open key).queue? key = some (r.queue key) := by
  rw [«open», Registry.queue, queue?, queue?]
  cases hs : r.slot? key with
  | none =>
    rw [slot?] at hs
    simp [slot?, hs]
  | some s => simp [hs]

theorem queue?_open_of_ne (h : k ≠ key) : (r.open key).queue? k = r.queue? k := by
  rw [«open», queue?, queue?]
  cases hs : r.slot? key with
  | none => simp [slot?, List.find?_append, h.symm]
  | some s => rfl

theorem queue_open (r : Registry) (key k : QueueKey) : (r.open key).queue k = r.queue k := by
  by_cases h : k = key
  · rw [h, Registry.queue, queue?_open_self]
    rfl
  · rw [Registry.queue, queue?_open_of_ne h, Registry.queue]

/-- A registry without the queue of a key. -/
def without (r : Registry) (key : QueueKey) : Registry :=
  { r with slots := r.slots.filter fun s => s.key ≠ key }

theorem slot?_without_self (r : Registry) (key : QueueKey) : (r.without key).slot? key = none := by
  simp [slot?, without]

theorem slot?_without_of_ne (h : k ≠ key) : (r.without key).slot? k = r.slot? k := by
  rw [slot?, without, List.find?_filter, slot?]
  congr 1
  funext s
  by_cases hs : s.key = k <;> simp [hs, h]

theorem prune_eq (r : Registry) (key : QueueKey) :
    r.prune key = if r.isIdle key then r.without key else r :=
  rfl

theorem queue?_prune_of_ne (h : k ≠ key) : (r.prune key).queue? k = r.queue? k := by
  rw [prune_eq]
  split
  · rw [queue?, slot?_without_of_ne h, queue?]
  · rfl

/-- Only an empty queue is dropped, so who waits is not changed by it. -/
theorem entries_queue_prune (r : Registry) (key k : QueueKey) :
    ((r.prune key).queue k).entries = (r.queue k).entries := by
  by_cases h : k = key
  · rw [h, prune_eq]
    split
    · rename_i hidle
      rw [isIdle] at hidle
      rw [Registry.queue, queue?, slot?_without_self, Registry.queue, queue?]
      cases hs : r.slot? key with
      | none => rfl
      | some s =>
        rw [hs] at hidle
        exact (List.isEmpty_iff.mp (Bool.and_eq_true_iff.mp hidle).1).symm
    · rfl
  · rw [Registry.queue, queue?_prune_of_ne h, Registry.queue]

theorem holds_prune (r : Registry) (key : QueueKey) (pull : PullRef) :
    (r.prune key).holds pull = r.holds pull := by
  rw [holds, Queue.contains, entries_queue_prune, ← Queue.contains, ← holds]

/-! ### Following the target branch -/

theorem queue?_foldl_prune {repository : String} {branches : List String} (r : Registry)
    (h : ∀ branch ∈ branches, k ≠ ⟨repository, branch⟩) :
    (branches.foldl (fun r branch => r.prune ⟨repository, branch⟩) r).queue? k = r.queue? k := by
  induction branches generalizing r with
  | nil => rfl
  | cons branch branches ih =>
    rw [List.foldl_cons, ih _ fun b hb => h b (List.mem_cons_of_mem _ hb),
      queue?_prune_of_ne (h branch List.mem_cons_self)]

/-- The queue of the target branch is left alone. -/
theorem queue?_follow (r : Registry) (pull : PullRef) :
    (r.follow pull).queue? pull.queueKey = r.queue? pull.queueKey := by
  rw [follow, removeElsewhere, queue?_foldl_prune]
  · rw [queue?, slot?_map r _ (fun s => by split <;> rfl), queue?]
    cases hs : r.slot? pull.queueKey with
    | none => rfl
    | some s => simp [isElsewhere, key_of_slot? hs, PullRef.queueKey]
  · intro branch hb hk
    obtain ⟨s, hs, rfl⟩ := List.mem_map.mp hb
    have hkey : pull.baseRef = s.key.branch := congrArg QueueKey.branch hk
    simp [isElsewhere, hkey] at hs

theorem queue_follow (r : Registry) (pull : PullRef) :
    (r.follow pull).queue pull.queueKey = r.queue pull.queueKey := by
  rw [Registry.queue, queue?_follow, Registry.queue]

theorem holds_follow (r : Registry) (pull : PullRef) :
    (r.follow pull).holds pull = r.holds pull := by
  rw [holds, queue_follow, holds]

end Registry

end MergeTrain
