import MergeTrain.Proofs.Keyed
import MergeTrain.Proofs.Queue.Entries
import MergeTrain.Proofs.Registry

/-!
# The other pull requests

An operation is about one pull request, and the queues hold many. What a registry holds for the
others is a view of it: `Registry.others` lists, for each queue, the entries that are not the one
of the pull request, in their order. A pull request of another repository is another one even if it
has the same number, so in the queues of other repositories nothing is left out.

Each change to a registry is described by what it does to this view. When a pull request leaves, is
put in, or follows its target branch, the view stays as it is. None of this depends on the queues
being in order or on numbers being unique.

## Main definitions

* `PullRef.isOther` — an entry is not the one of the pull request.
* `Registry.others` — the view.
* `Registry.branchesLeft` — the branches that a pull request has to leave.

## Main results

* `Registry.others_leave`, `Registry.others_follow` — the pull request leaves, the others stay.
* `Registry.entries_queue_follow` — what following the target branch does to each queue.
-/

namespace MergeTrain

/-- Whether an entry in the queue of a key is the one of another pull request. -/
def PullRef.isOther (pull : PullRef) (key : QueueKey) (x : QueueEntry) : Bool :=
  key.repository != pull.repository || x.number != pull.number

/-- In the queues of its own repository a pull request is told by its number. -/
theorem PullRef.isOther_eq {pull : PullRef} {key : QueueKey} (h : key.repository = pull.repository)
    (x : QueueEntry) : pull.isOther key x = (x.number != pull.number) := by
  simp [isOther, h]

theorem PullRef.isOther_of_number_eq {pull : PullRef} {key : QueueKey} {x : QueueEntry}
    (h : key.repository = pull.repository) (hx : x.number = pull.number) :
    pull.isOther key x = false := by
  rw [isOther_eq h, hx]
  exact bne_self_eq_false _

/-! ### The view -/

namespace Registry

variable {r : Registry} {pull : PullRef} {key k : QueueKey} {change : Queue → Queue}
  {repository keep : String} {number : UInt64}

/-- The entries of the other pull requests in the queue of a key, in order. -/
def others (r : Registry) (pull : PullRef) (key : QueueKey) : List QueueEntry :=
  (r.queue key).entries.filter (pull.isOther key)

theorem others_open (r : Registry) (pull : PullRef) (key k : QueueKey) :
    (r.open key).others pull k = r.others pull k := by
  rw [others, queue_open, others]

theorem others_prune (r : Registry) (pull : PullRef) (key k : QueueKey) :
    (r.prune key).others pull k = r.others pull k := by
  rw [others, entries_queue_prune, others]

theorem others_update_of_ne (h : k ≠ key) :
    (r.update key change).others pull k = r.others pull k := by
  rw [others, Registry.queue, queue?_update_of_ne h, others, Registry.queue]

/-- A change to a queue that keeps the others there keeps them everywhere. -/
theorem others_update
    (h : (change (r.queue key)).entries.filter (pull.isOther key) = r.others pull key) :
    (r.update key change).others pull k = r.others pull k := by
  by_cases hk : k = key
  · subst hk
    cases hq : r.queue? k with
    | none =>
      rw [others, Registry.queue, queue?_update_self, hq, others, Registry.queue, hq]
      rfl
    | some q => rw [others, queue_update_self (by simp [hq]), h]
  · exact others_update_of_ne hk

theorem others_leave (r : Registry) (pull : PullRef) (k : QueueKey) :
    (r.leave pull).others pull k = r.others pull k := by
  refine others_update (Queue.filter_remove ?_)
  intro x hx
  exact PullRef.isOther_of_number_eq rfl hx

/-! ### Leaving the other branches -/

/-- The branches whose queues a pull request has to leave, as they come. -/
def branchesLeft (r : Registry) (repository : String) (number : UInt64) (keep : String) :
    List String :=
  (r.slots.filter (isElsewhere repository number keep)).map fun s => s.key.branch

theorem isElsewhere_iff {s : Slot} :
    isElsewhere repository number keep s = true ↔
      s.key.repository = repository ∧ s.key.branch ≠ keep ∧ number ∈ s.queue.numbers := by
  simp only [isElsewhere, Bool.and_eq_true, beq_iff_eq, bne_iff_ne, Queue.contains_iff, and_assoc]

theorem queue_of_slot? {s : Slot} (h : r.slot? key = some s) : r.queue key = s.queue := by
  rw [Registry.queue, queue?, h]
  rfl

/-- A pull request has to leave the branches in whose queues it is found. -/
theorem mem_branchesLeft_of_mem {branch : String} (hbranch : branch ≠ keep)
    (h : number ∈ (r.queue ⟨repository, branch⟩).numbers) :
    branch ∈ r.branchesLeft repository number keep := by
  cases hslot : r.slot? ⟨repository, branch⟩ with
  | none =>
    rw [Registry.queue, queue?, hslot] at h
    exact absurd h List.not_mem_nil
  | some s =>
    have hkey : s.key = ⟨repository, branch⟩ := key_of_slot? hslot
    rw [queue_of_slot? hslot] at h
    refine List.mem_map.mpr ⟨s, List.mem_filter.mpr ⟨List.mem_of_find?_eq_some hslot, ?_⟩,
      congrArg QueueKey.branch hkey⟩
    exact isElsewhere_iff.mpr ⟨congrArg QueueKey.repository hkey, by rwa [hkey], h⟩

/-- With one queue for a key, these are all that it has to leave. -/
theorem mem_branchesLeft_iff (hkeys : (r.slots.map Slot.key).Nodup) {branch : String} :
    branch ∈ r.branchesLeft repository number keep ↔
      branch ≠ keep ∧ number ∈ (r.queue ⟨repository, branch⟩).numbers := by
  refine ⟨fun h => ?_, fun ⟨hbranch, h⟩ => mem_branchesLeft_of_mem hbranch h⟩
  obtain ⟨s, hs, rfl⟩ := List.mem_map.mp h
  obtain ⟨hs, helsewhere⟩ := List.mem_filter.mp hs
  obtain ⟨hrepository, hbranch, hnumber⟩ := isElsewhere_iff.mp helsewhere
  have hslot : r.slot? s.key = some s := find?_eq_some_of_nodup hkeys hs
  subst hrepository
  exact ⟨hbranch, by rwa [queue_of_slot? hslot]⟩

/-! ### Following the target branch -/

/-- A registry in which a pull request has left the queues of the branches that it does not target,
before those that are idle now are dropped. -/
def stripped (r : Registry) (pull : PullRef) : Registry :=
  { r with
    slots := r.slots.map fun s =>
      if isElsewhere pull.repository pull.number pull.baseRef s
        then { s with queue := s.queue.remove pull.number } else s }

/-- The branches that a pull request is in and does not target. -/
def strays (r : Registry) (pull : PullRef) : List String :=
  (r.slots.filter (isElsewhere pull.repository pull.number pull.baseRef)).map fun s => s.key.branch

theorem strays_eq (r : Registry) (pull : PullRef) :
    r.strays pull = r.branchesLeft pull.repository pull.number pull.baseRef :=
  rfl

theorem follow_eq (r : Registry) (pull : PullRef) :
    r.follow pull = (r.strays pull).foldl
      (fun r branch => r.prune ⟨pull.repository, branch⟩) (r.stripped pull) :=
  rfl

/-- What dropping idle queues does not change is not changed by dropping any number of them. -/
theorem foldl_prune_induction {P : Registry → Prop} {repository : String}
    (hprune : ∀ (r : Registry) (key : QueueKey), P r → P (r.prune key)) (branches : List String)
    (h : P r) : P (branches.foldl (fun r branch => r.prune ⟨repository, branch⟩) r) := by
  induction branches generalizing r with
  | nil => exact h
  | cons branch branches ih => exact ih (hprune r _ h)

/-- What holds when a pull request has left its other branches, and is not changed by dropping idle
queues, holds when it has been removed elsewhere. -/
theorem removeElsewhere_induction {P : Registry → Prop} {repository keep : String}
    {number : UInt64}
    (hleft : P { r with
      slots := r.slots.map fun s =>
        if isElsewhere repository number keep s then { s with queue := s.queue.remove number }
          else s })
    (hprune : ∀ (r : Registry) (key : QueueKey), P r → P (r.prune key)) :
    P (r.removeElsewhere repository number keep).2 :=
  foldl_prune_induction hprune _ hleft

/-- The same for a pull request that has followed its target. -/
theorem follow_induction {P : Registry → Prop} (hstripped : P (r.stripped pull))
    (hprune : ∀ (r : Registry) (key : QueueKey), P r → P (r.prune key)) : P (r.follow pull) :=
  removeElsewhere_induction hstripped hprune

theorem slot?_stripped (r : Registry) (pull : PullRef) (k : QueueKey) :
    (r.stripped pull).slot? k = (r.slot? k).map fun s =>
      if k.repository = pull.repository ∧ k.branch ≠ pull.baseRef
        then { s with queue := s.queue.remove pull.number } else s := by
  rw [stripped, slot?_map r _ (fun s => by split <;> rfl)]
  cases hs : r.slot? k with
  | none => rfl
  | some s =>
    have hkey : s.key = k := key_of_slot? hs
    by_cases hmem : pull.number ∈ s.queue.numbers
    · have hcontains : s.queue.contains pull.number = true := Queue.contains_iff.mpr hmem
      by_cases haway : k.repository = pull.repository ∧ k.branch ≠ pull.baseRef <;>
        simp [isElsewhere, hkey, hcontains, haway]
    · -- to take a pull request out of a queue that it is not in changes nothing
      have hcontains : s.queue.contains pull.number = false :=
        Bool.eq_false_iff.mpr fun h => hmem (Queue.contains_iff.mp h)
      simp [isElsewhere, hcontains, Queue.remove_of_not_mem hmem]

theorem queue?_stripped (r : Registry) (pull : PullRef) (k : QueueKey) :
    (r.stripped pull).queue? k = (r.queue? k).map fun q =>
      if k.repository = pull.repository ∧ k.branch ≠ pull.baseRef
        then q.remove pull.number else q := by
  rw [queue?, slot?_stripped, queue?, Option.map_map, Option.map_map]
  refine congrArg (fun f => (r.slot? k).map f) (funext fun s => ?_)
  simp only [Function.comp_apply]
  split <;> rfl

/-- Following its target branch, a pull request leaves the other branches of its repository, and
that is all. -/
theorem entries_queue_follow (r : Registry) (pull : PullRef) (k : QueueKey) :
    ((r.follow pull).queue k).entries =
      if k.repository = pull.repository ∧ k.branch ≠ pull.baseRef
        then ((r.queue k).remove pull.number).entries else (r.queue k).entries := by
  have hpruned : ((r.follow pull).queue k).entries = ((r.stripped pull).queue k).entries := by
    refine follow_induction
      (P := fun r' => (r'.queue k).entries = ((r.stripped pull).queue k).entries) rfl ?_
    intro r' key h
    exact (entries_queue_prune r' key k).trans h
  rw [hpruned, Registry.queue, queue?_stripped, Registry.queue]
  cases r.queue? k with
  | none => split <;> rfl
  | some q => rw [Option.map_some, Option.getD_some, Option.getD_some]; split <;> rfl

theorem others_follow (r : Registry) (pull : PullRef) (k : QueueKey) :
    (r.follow pull).others pull k = r.others pull k := by
  rw [others, entries_queue_follow, others]
  split
  next haway =>
    refine Queue.filter_remove ?_
    intro x hx
    exact PullRef.isOther_of_number_eq haway.1 hx
  next => rfl

end Registry

end MergeTrain
