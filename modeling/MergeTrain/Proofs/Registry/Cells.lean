import MergeTrain.Proofs.Registry.Sound

/-!
# Registries by their cells

Whether an idle queue is dropped depends on what waits in it and on whether anybody holds it. So for
each key there is one thing to know, the cell of the key, and every change to a registry is a change
to its cells, each for itself. The order in which queues were opened is gone from this, and with it
the serial numbers. These could matter in one way only: a handle on a queue that was never opened
would be found to hold the next queue that is. There is no such handle in a registry whose serial
numbers have all been issued.

## Main definitions

* `Registry.Issued` — no serial number is in use that is yet to be given.
* `Cell`, `Registry.cell?` — a queue, and whether it is held.
* `Cell.without` — what is left of a cell when a pull request leaves.

## Main results

* `Registry.cell?_open_self`, `Registry.cell?_update_self`, `Registry.cell?_prune_self`,
  `Registry.cell?_follow` — the changes, cell by cell.
* `Cell.without_comm` — two pull requests may leave in any order.
-/

namespace MergeTrain

/-! ### Serial numbers -/

namespace Registry

variable {r r' : Registry} {key k : QueueKey} {change : Queue → Queue}

/-- No serial number is in use that is yet to be given to a queue. -/
structure Issued (r : Registry) : Prop where
  slots : ∀ s ∈ r.slots, s.serial < r.opened
  handles : ∀ h ∈ r.handles, h.2.serial < r.opened

theorem issued_empty : Issued {} :=
  ⟨fun _ hs => absurd hs List.not_mem_nil, fun _ hh => absurd hh List.not_mem_nil⟩

/-- Where no queue is opened and no handle is taken, no serial number is used anew. -/
theorem Issued.of_serials (h : r.Issued) (hopened : r'.opened = r.opened)
    (hhandles : r'.handles = r.handles)
    (hslots : ∀ s' ∈ r'.slots, ∃ s ∈ r.slots, s'.serial = s.serial) : r'.Issued where
  slots := by
    intro s' hs'
    obtain ⟨s, hs, hserial⟩ := hslots s' hs'
    rw [hserial, hopened]
    exact h.slots s hs
  handles := by
    rw [hhandles, hopened]
    exact h.handles

theorem Issued.open (h : r.Issued) (key : QueueKey) : (r.open key).Issued := by
  rw [Registry.open]
  cases r.slot? key with
  | some s => exact h
  | none =>
    refine ⟨fun s hs => ?_, fun handle hh => Nat.lt_succ_of_lt (h.handles handle hh)⟩
    rcases List.mem_append.mp hs with hs | hs
    · exact Nat.lt_succ_of_lt (h.slots s hs)
    · rw [List.mem_singleton.mp hs]
      exact Nat.lt_succ_self r.opened

theorem Issued.update (h : r.Issued) (key : QueueKey) (change : Queue → Queue) :
    (r.update key change).Issued := by
  refine h.of_serials rfl rfl fun s' hs' => ?_
  obtain ⟨s, hs, rfl⟩ := List.mem_map.mp hs'
  exact ⟨s, hs, by split <;> rfl⟩

theorem Issued.prune (h : r.Issued) (key : QueueKey) : (r.prune key).Issued := by
  rw [prune_eq]
  split
  · exact h.of_serials rfl rfl fun s hs => ⟨s, List.mem_of_mem_filter hs, rfl⟩
  · exact h

theorem Issued.follow (h : r.Issued) (pull : PullRef) : (r.follow pull).Issued := by
  have hstripped : (r.stripped pull).Issued := by
    refine h.of_serials rfl rfl fun s' hs' => ?_
    obtain ⟨s, hs, rfl⟩ := List.mem_map.mp hs'
    exact ⟨s, hs, by split <;> rfl⟩
  exact follow_induction hstripped fun _ key h => h.prune key

/-- Handles are taken on queues that are open. -/
theorem Issued.hold (h : r.Issued) (name : String) (key : QueueKey) : (r.hold name key).Issued := by
  have hopen := h.open key
  rw [Registry.hold]
  cases hs : (r.open key).slot? key with
  | none => exact hopen
  | some s =>
    refine ⟨hopen.slots, fun handle hh => ?_⟩
    rcases List.mem_append.mp hh with hh | hh
    · exact hopen.handles handle (List.mem_of_mem_filter hh)
    · rw [List.mem_singleton.mp hh]
      exact hopen.slots s (List.mem_of_find?_eq_some hs)

theorem Issued.release (h : r.Issued) (name : String) : (r.release name).Issued :=
  ⟨h.slots, fun handle hh => h.handles handle (List.mem_of_mem_filter hh)⟩

end Registry

/-! ### Cells -/

/-- A queue, and whether anybody holds it. -/
structure Cell where
  queue : Queue
  held : Bool

namespace Cell

variable {c : Cell} {m n : UInt64}

/-- What is left of a cell when its queue is dropped if that is idle. -/
def unlessIdle (c : Cell) : Option Cell :=
  if c.queue.isEmpty && !c.held then none else some c

/-- What is left of a cell when a pull request leaves. -/
def without (c : Cell) (n : UInt64) : Option Cell :=
  if c.queue.contains n then unlessIdle { c with queue := c.queue.remove n } else some c

theorem unlessIdle_bind_self (c : Cell) : c.unlessIdle.bind unlessIdle = c.unlessIdle := by
  cases hidle : c.queue.isEmpty && !c.held with
  | true => simp [unlessIdle, hidle]
  | false => simp [unlessIdle, hidle]

theorem unlessIdle_of_contains (h : c.queue.contains n = true) : c.unlessIdle = some c := by
  have hne : c.queue.isEmpty = false := by
    rw [Queue.isEmpty, List.isEmpty_eq_false_iff]
    rintro hnil
    simp [Queue.contains, hnil] at h
  rw [unlessIdle, hne, Bool.false_and]
  rfl

theorem without_of_contains (h : c.queue.contains n = true) :
    c.without n = unlessIdle { c with queue := c.queue.remove n } :=
  if_pos h

theorem without_of_not_contains (h : c.queue.contains n = false) : c.without n = some c :=
  if_neg (by simp [h])

/-- Who is not in a queue does not come into it when the queue is dropped. -/
theorem unlessIdle_bind_without (h : c.queue.contains n = false) :
    (c.unlessIdle.bind fun c => c.without n) = c.unlessIdle := by
  rw [unlessIdle]
  split
  · rfl
  · exact without_of_not_contains h

/-- **Two pull requests may leave in any order.** If nobody else waited, the queue is dropped when
the second one leaves, whichever that is. -/
theorem without_comm (c : Cell) (m n : UInt64) :
    ((c.without m).bind fun c => c.without n) = (c.without n).bind fun c => c.without m := by
  by_cases hmn : m = n
  · rw [hmn]
  have hleft : (c.queue.remove m).contains n = c.queue.contains n :=
    Queue.contains_remove_of_ne hmn
  have hright : (c.queue.remove n).contains m = c.queue.contains m :=
    Queue.contains_remove_of_ne (Ne.symm hmn)
  cases hm : c.queue.contains m with
  | false =>
    rw [without_of_not_contains hm, Option.bind_some]
    cases hn : c.queue.contains n with
    | false => rw [without_of_not_contains hn, Option.bind_some, without_of_not_contains hm]
    | true =>
      rw [without_of_contains hn, unlessIdle_bind_without (hright.trans hm)]
  | true =>
    cases hn : c.queue.contains n with
    | false =>
      rw [without_of_not_contains hn, Option.bind_some, without_of_contains hm,
        unlessIdle_bind_without (hleft.trans hn)]
    | true =>
      have hn' : (c.queue.remove m).contains n = true := hleft.trans hn
      have hm' : (c.queue.remove n).contains m = true := hright.trans hm
      rw [without_of_contains hm, without_of_contains hn, unlessIdle_of_contains hn',
        unlessIdle_of_contains hm', Option.bind_some, Option.bind_some, without_of_contains hn',
        without_of_contains hm', Queue.remove_comm]

end Cell

namespace Registry

variable {r r' : Registry} {key k : QueueKey} {change : Queue → Queue} {pull : PullRef}

/-- The cell of a key, if it has a queue. -/
def cell? (r : Registry) (key : QueueKey) : Option Cell :=
  (r.slot? key).map fun s => { queue := s.queue, held := r.isHeld s }

theorem queue?_eq_cell? (r : Registry) (key : QueueKey) :
    r.queue? key = (r.cell? key).map Cell.queue := by
  rw [queue?, cell?, Option.map_map]
  rfl

theorem queue_eq_cell? (r : Registry) (key : QueueKey) :
    r.queue key = ((r.cell? key).map Cell.queue).getD
      { repository := key.repository, branch := key.branch } := by
  rw [Registry.queue, queue?_eq_cell?]

/-- A queue that is opened is held by nobody. -/
theorem Issued.cell?_open_self (h : r.Issued) (key : QueueKey) :
    (r.open key).cell? key = some ((r.cell? key).getD
      { queue := { repository := key.repository, branch := key.branch }, held := false }) := by
  rw [Registry.open, cell?, cell?]
  cases hs : r.slot? key with
  | some s => simp [hs]
  | none =>
    have hfree : ∀ handle ∈ r.handles, (handle.2.serial == r.opened) = false := by
      intro handle hh
      rw [beq_eq_false_iff_ne]
      exact Nat.ne_of_lt (h.handles handle hh)
    have hheld : (r.handles.any fun handle => handle.2.serial == r.opened) = false :=
      List.any_eq_false.mpr fun handle hh => by simp [hfree handle hh]
    rw [slot?] at hs
    simp [slot?, hs, isHeld, hheld]

theorem cell?_open_of_ne (h : k ≠ key) : (r.open key).cell? k = r.cell? k := by
  rw [Registry.open, cell?, cell?]
  cases hs : r.slot? key with
  | none => simp [slot?, List.find?_append, h.symm, isHeld]
  | some s => rfl

theorem cell?_update_self (r : Registry) (key : QueueKey) (change : Queue → Queue) :
    (r.update key change).cell? key
      = (r.cell? key).map fun c => { c with queue := change c.queue } := by
  rw [cell?, update, slot?_map r _ (fun s => by split <;> rfl), cell?]
  cases hs : r.slot? key with
  | none => rfl
  | some s => simp [key_of_slot? hs, isHeld]

theorem cell?_update_of_ne (h : k ≠ key) : (r.update key change).cell? k = r.cell? k := by
  rw [cell?, update, slot?_map r _ (fun s => by split <;> rfl), cell?]
  cases hs : r.slot? k with
  | none => rfl
  | some s => simp [key_of_slot? hs, h, isHeld]

theorem cell?_prune_self (r : Registry) (key : QueueKey) :
    (r.prune key).cell? key = (r.cell? key).bind Cell.unlessIdle := by
  rw [prune_eq, isIdle, cell?, cell?]
  cases hs : r.slot? key with
  | none => simp [hs]
  | some s =>
    cases hidle : s.queue.isEmpty && !r.isHeld s with
    | true => simp [hidle, slot?_without_self, Cell.unlessIdle]
    | false => simp [hidle, hs, Cell.unlessIdle]

theorem cell?_prune_of_ne (h : k ≠ key) : (r.prune key).cell? k = r.cell? k := by
  rw [prune_eq]
  split
  · rw [cell?, slot?_without_of_ne h, cell?]
    rfl
  · rfl

/-! ### Following the target branch -/

theorem cell?_stripped (r : Registry) (pull : PullRef) (k : QueueKey) :
    (r.stripped pull).cell? k = (r.cell? k).map fun c =>
      if k.repository = pull.repository ∧ k.branch ≠ pull.baseRef
        then { c with queue := c.queue.remove pull.number } else c := by
  rw [cell?, slot?_stripped, cell?, Option.map_map, Option.map_map]
  refine congrArg (fun f => (r.slot? k).map f) (funext fun s => ?_)
  simp only [Function.comp_apply]
  split <;> rfl

/-- Dropping idle queues again and again is dropping them once. -/
theorem cell?_foldl_prune (r : Registry) (repository : String) (branches : List String)
    (k : QueueKey) :
    (branches.foldl (fun r branch => r.prune ⟨repository, branch⟩) r).cell? k =
      if k.repository = repository ∧ k.branch ∈ branches
        then (r.cell? k).bind Cell.unlessIdle else r.cell? k := by
  induction branches generalizing r with
  | nil => simp
  | cons branch branches ih =>
    rw [List.foldl_cons, ih]
    by_cases hk : k = ⟨repository, branch⟩
    · subst hk
      have hself : (r.cell? ⟨repository, branch⟩).bind Cell.unlessIdle
          = ((r.cell? ⟨repository, branch⟩).bind Cell.unlessIdle).bind Cell.unlessIdle := by
        rw [Option.bind_assoc]
        exact congrArg _ (funext fun c => c.unlessIdle_bind_self.symm)
      simp only [cell?_prune_self, ← hself, ite_self, List.mem_cons_self, and_self, if_true]
    · have hmem : k.repository = repository ∧ k.branch ∈ branch :: branches ↔
          k.repository = repository ∧ k.branch ∈ branches := by
        refine and_congr_right fun hrepository => ?_
        rw [List.mem_cons, or_iff_right]
        rintro hbranch
        exact hk (by rw [← hrepository, ← hbranch])
      simp only [hmem, cell?_prune_of_ne hk]

/-- The target is not among the branches that a pull request leaves. -/
theorem ne_of_mem_strays {branch : String} (h : branch ∈ r.strays pull) :
    branch ≠ pull.baseRef := by
  obtain ⟨s, hs, rfl⟩ := List.mem_map.mp h
  exact (isElsewhere_iff.mp (List.mem_filter.mp hs).2).2.1

/-- The cell of the target is left alone. -/
theorem cell?_follow_self (r : Registry) (pull : PullRef) :
    (r.follow pull).cell? pull.queueKey = r.cell? pull.queueKey := by
  have hstays : ¬ (pull.queueKey.repository = pull.repository ∧
      pull.queueKey.branch ∈ r.strays pull) :=
    fun hmem => ne_of_mem_strays hmem.2 rfl
  have hhere : ¬ (pull.queueKey.repository = pull.repository ∧
      pull.queueKey.branch ≠ pull.baseRef) :=
    fun haway => haway.2 rfl
  rw [follow_eq, cell?_foldl_prune, cell?_stripped, if_neg hstays]
  simp only [if_neg hhere, Option.map_id']

/-- A pull request leaves the branches in whose queues it is found, but for its target. -/
theorem mem_strays_of_contains (hrepository : k.repository = pull.repository)
    (hbranch : k.branch ≠ pull.baseRef) (h : (r.queue k).contains pull.number = true) :
    k.branch ∈ r.strays pull := by
  rw [strays_eq]
  refine mem_branchesLeft_of_mem hbranch ?_
  rw [← hrepository]
  exact Queue.contains_iff.mp h

/-- The branches that a pull request leaves are those in whose queues it is found. -/
theorem Sound.mem_strays_iff (h : r.Sound) (hrepository : k.repository = pull.repository) :
    k.branch ∈ r.strays pull ↔
      k.branch ≠ pull.baseRef ∧ (r.queue k).contains pull.number = true := by
  rw [strays_eq, mem_branchesLeft_iff h.keys, ← hrepository, ← Queue.contains_iff]

/-- **Following its target branch**, a pull request leaves the cells of the other branches of its
repository, each for itself. -/
theorem Sound.cell?_follow (h : r.Sound) (pull : PullRef) (k : QueueKey) :
    (r.follow pull).cell? k =
      if k.repository = pull.repository ∧ k.branch ≠ pull.baseRef
        then (r.cell? k).bind fun c => c.without pull.number else r.cell? k := by
  rw [follow_eq, cell?_foldl_prune, cell?_stripped]
  by_cases haway : k.repository = pull.repository ∧ k.branch ≠ pull.baseRef
  · rw [if_pos haway]
    cases hc : r.cell? k with
    | none => simp
    | some c =>
      have hqueue : r.queue k = c.queue := by
        rw [queue_eq_cell?, hc]
        rfl
      have hstray : k.repository = pull.repository ∧ k.branch ∈ r.strays pull ↔
          c.queue.contains pull.number = true := by
        rw [and_iff_right haway.1, h.mem_strays_iff haway.1, and_iff_right haway.2, hqueue]
      rw [Option.map_some, if_pos haway, Option.bind_some, Option.bind_some]
      cases hcontains : c.queue.contains pull.number with
      | true =>
        rw [if_pos (hstray.mpr hcontains), Cell.without_of_contains hcontains]
      | false =>
        have hn : pull.number ∉ c.queue.numbers := fun hn => by
          rw [Queue.contains_iff.mpr hn] at hcontains
          cases hcontains
        rw [if_neg (by simp [hstray, hcontains]), Cell.without_of_not_contains hcontains,
          Queue.remove_of_not_mem hn]
  · have hstays : ¬ (k.repository = pull.repository ∧ k.branch ∈ r.strays pull) := by
      rintro ⟨hrepository, hmem⟩
      exact haway ⟨hrepository, ne_of_mem_strays hmem⟩
    simp only [if_neg haway, if_neg hstays, Option.map_id']

end Registry

end MergeTrain
