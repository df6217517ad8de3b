import MergeTrain.Proofs.Queue.Sound

/-!
# The entries of one pull request, and all the rest

Changes to a queue are made by number, and each is about one pull request. So a queue is looked at
in two parts: the entries of a pull request, which are one at most where no number occurs twice, and
whatever else is in it. A change for one number leaves the part of every other number as it was, and
this holds of any queue.

## Main definitions

* `Queue.own` — the entries of a pull request.
* `Queue.Within` — entries may have left a queue, and nothing else has changed.

## Main results

* `Queue.filter_remove`, `Queue.filter_place` — one entry leaves or is put in, all else stays.
* `Queue.own_taking`, `Queue.own_moving` — what a pull request has in a queue that it entered.
-/

namespace MergeTrain

namespace Queue

variable {q q' q'' : Queue} {n m : UInt64} {keep : QueueEntry → Bool}

/-! ### All the rest -/

theorem remove_of_not_mem (h : n ∉ q.numbers) : q.remove n = q := by
  have hnone : ∀ x ∈ q.entries, ¬ (x.number == n) = true := by
    intro x hx hn
    exact h (mem_numbers.mpr ⟨x, hx, by simpa using hn⟩)
  rw [remove, List.eraseP_of_forall_not hnone]

/-- When a pull request leaves, all else stays as it was. -/
theorem filter_remove (hkeep : ∀ x : QueueEntry, x.number = n → keep x = false) :
    (q.remove n).entries.filter keep = q.entries.filter keep := by
  change (q.entries.eraseP _).filter keep = _
  induction q.entries with
  | nil => rfl
  | cons head rest ih =>
    by_cases hn : head.number = n
    · have hdrop : ¬ keep head = true := by simp [hkeep head hn]
      rw [List.eraseP_cons_of_pos (by simpa using hn), List.filter_cons_of_neg hdrop]
    · rw [List.eraseP_cons_of_neg (by simpa using hn), List.filter_cons, List.filter_cons, ih]

/-- When an entry is put in, wherever that is, all else stays as it was. -/
theorem filter_place {e : QueueEntry} (he : keep e = false) (entries : List QueueEntry) :
    (Queue.place e entries).filter keep = entries.filter keep := by
  have hat : ∀ (i : Nat) (l : List QueueEntry), (l.insertIdx i e).filter keep = l.filter keep := by
    intro i l
    induction l generalizing i with
    | nil => cases i <;> simp [he]
    | cons head rest ih =>
      cases i with
      | zero => rw [List.insertIdx_zero, List.filter_cons_of_neg (by simp [he])]
      | succ i => rw [List.insertIdx_succ_cons, List.filter_cons, List.filter_cons, ih i]
  exact hat _ entries

/-! ### The entries of one pull request -/

/-- The entries of a pull request. -/
def own (q : Queue) (n : UInt64) : List QueueEntry :=
  q.entries.filter fun x => x.number == n

/-- A pull request waits if it has an entry. -/
theorem contains_iff_own : q.contains n = true ↔ q.own n ≠ [] := by
  rw [contains_iff, mem_numbers, own, Ne, List.filter_eq_nil_iff]
  simp

theorem own_remove_of_ne (h : m ≠ n) : (q.remove m).own n = q.own n := by
  refine filter_remove fun x hx => ?_
  rw [hx, beq_eq_false_iff_ne]
  exact h

theorem contains_remove_of_ne (h : m ≠ n) : (q.remove m).contains n = q.contains n := by
  rw [Bool.eq_iff_iff, contains_iff_own, contains_iff_own, own_remove_of_ne h]

theorem remove_comm (q : Queue) (m n : UInt64) :
    (q.remove m).remove n = (q.remove n).remove m := by
  by_cases hmn : m = n
  · rw [hmn]
  have hapart : ∀ x ∈ q.entries, ¬ (x.number == m) = true ∨ ¬ (x.number == n) = true := by
    intro x _
    rw [beq_iff_eq, beq_iff_eq, ← not_and_or]
    rintro ⟨hm, hn⟩
    exact hmn (hm.symm.trans hn)
  exact congrArg (fun entries => { q with entries }) (List.eraseP_comm hapart)

/-- Removing others leaves the entries of a pull request alone. -/
theorem own_foldl_remove {ns : List UInt64} (h : ∀ m ∈ ns, m ≠ n) :
    (ns.foldl Queue.remove q).own n = q.own n := by
  induction ns generalizing q with
  | nil => rfl
  | cons m ns ih =>
    rw [List.foldl_cons, ih fun m' hm' => h m' (List.mem_cons_of_mem m hm'),
      own_remove_of_ne (h m List.mem_cons_self)]

/-- An entry that is put where its number is not yet is the only one of that number. -/
theorem filter_number_place {e : QueueEntry} {entries : List QueueEntry}
    (h : ∀ x ∈ entries, x.number ≠ e.number) :
    (Queue.place e entries).filter (fun x => x.number == e.number) = [e] := by
  have hperm := (place_perm e entries).filter fun x => x.number == e.number
  have hrest : entries.filter (fun x => x.number == e.number) = [] := by
    refine List.filter_eq_nil_iff.mpr fun x hx => ?_
    rw [beq_iff_eq]
    exact h x hx
  rw [List.filter_cons_of_pos (by simp), hrest] at hperm
  exact List.perm_singleton.mp hperm

/-- Who enters has the new entry and no other one. -/
theorem own_taking {e : QueueEntry} (h : e.number ∉ q.numbers) :
    (q.taking e).own e.number = [{ e with arrival := q.arrivals }] := by
  refine filter_number_place (e := { e with arrival := q.arrivals }) ?_
  intro x hx hn
  exact h (mem_numbers.mpr ⟨x, hx, hn⟩)

/-- Who moves has the moved entry and no other one. -/
theorem own_moving (h : q.numbers.Nodup) (x : QueueEntry) (priority : Priority)
    (config : MergeConfig) :
    (q.moving x priority config).own x.number = [{ x with priority, config }] := by
  refine filter_number_place (e := { x with priority, config }) ?_
  intro y hy hn
  exact not_mem_numbers_remove h x.number (mem_numbers.mpr ⟨y, hy, hn⟩)

/-! ### Entries that leave -/

/-- Entries may have left a queue, and nothing else has changed. -/
structure Within (q' q : Queue) : Prop where
  repository : q'.repository = q.repository
  branch : q'.branch = q.branch
  arrivals : q'.arrivals = q.arrivals
  entries : q'.entries.Sublist q.entries

theorem Within.refl (q : Queue) : q.Within q :=
  ⟨rfl, rfl, rfl, List.Sublist.refl _⟩

theorem Within.trans (h : q''.Within q') (h' : q'.Within q) : q''.Within q :=
  ⟨h.repository.trans h'.repository, h.branch.trans h'.branch, h.arrivals.trans h'.arrivals,
    h.entries.trans h'.entries⟩

theorem Within.numbers (h : q'.Within q) : q'.numbers ⊆ q.numbers :=
  (h.entries.map QueueEntry.number).subset

theorem within_remove (q : Queue) (n : UInt64) : (q.remove n).Within q :=
  ⟨rfl, rfl, rfl, remove_sublist q n⟩

theorem within_foldl_remove (q : Queue) (ns : List UInt64) :
    (ns.foldl Queue.remove q).Within q := by
  induction ns generalizing q with
  | nil => exact .refl q
  | cons n ns ih => exact (ih (q.remove n)).trans (within_remove q n)

end Queue

end MergeTrain
