import Mathlib.Data.List.Perm.Basic
import Mathlib.Data.Prod.Lex
import MergeTrain.Queue

/-!
# The order of a queue

`QueueEntry.precedes` compares three things in turn: the priority, the time of entry and the
arrival. The first two make the *urgency* of an entry; the arrival is what tells two entries of
equal urgency apart. So a queue is ordered by a pair in lexicographic order, and all that is needed
of `precedes` (it is transitive, and it decides between any two arrivals) comes from there.

The place of a new entry is found by halving. This finds the right place only if the entries that
stand before the new one come first, which is the case in a sorted queue, and only there is
`Queue.place` described.

## Main definitions

* `QueueEntry.urgency`, `QueueEntry.rank` — what entries are compared by.
* `Sorted` — the entries stand in the order of queues.

## Main results

* `QueueEntry.precedes_iff` — the order of queues is the order of ranks.
* `Queue.boundary_eq` — the search ends between the elements that pass and those that do not.
* `Queue.place_eq` — in a sorted queue an entry is put behind those that stand before it.
-/

namespace MergeTrain

/-! ### Ranks -/

/-- What counts first in the order of queues: the greatest priority, then the earliest entry. The
more urgent of two entries has the lesser urgency. -/
def QueueEntry.urgency (e : QueueEntry) : ℕᵒᵈ ×ₗ ℤ ×ₗ ℕ :=
  toLex (OrderDual.toDual e.priority.weight.toNat, toLex (e.enqueuedAt.seconds, e.enqueuedAt.nanos))

/-- What the order of queues compares. -/
def QueueEntry.rank (e : QueueEntry) : (ℕᵒᵈ ×ₗ ℤ ×ₗ ℕ) ×ₗ ℕ :=
  toLex (e.urgency, e.arrival)

theorem Instant.before_iff (a b : Instant) :
    a.before b = true ↔ toLex (a.seconds, a.nanos) < toLex (b.seconds, b.nanos) := by
  simp [Instant.before, Prod.Lex.toLex_lt_toLex]

theorem Instant.eq_iff (a b : Instant) :
    a = b ↔ toLex (a.seconds, a.nanos) = toLex (b.seconds, b.nanos) := by
  obtain ⟨s, n, _⟩ := a
  obtain ⟨s', n', _⟩ := b
  simp

theorem Priority.eq_iff (a b : Priority) : a = b ↔ a.weight.toNat = b.weight.toNat := by
  obtain ⟨w⟩ := a
  obtain ⟨w'⟩ := b
  rw [Priority.mk.injEq, UInt32.toNat_inj]

/-- **The order of queues is the order of ranks.** -/
theorem QueueEntry.precedes_iff (a b : QueueEntry) : a.precedes b = true ↔ a.rank < b.rank := by
  rw [rank, rank, Prod.Lex.toLex_lt_toLex, urgency, urgency, Prod.Lex.toLex_lt_toLex, precedes]
  by_cases hp : a.priority = b.priority
  · by_cases ht : a.enqueuedAt = b.enqueuedAt
    · simp [hp, ht]
    · have ht' := (Instant.eq_iff a.enqueuedAt b.enqueuedAt).not.mp ht
      simp [hp, ht, Instant.before_iff] at ht' ⊢
      tauto
  · have hp' := (Priority.eq_iff a.priority b.priority).not.mp hp
    simp [hp, hp', UInt32.lt_iff_toNat_lt]

theorem QueueEntry.precedes_trans {a b c : QueueEntry} (hab : a.precedes b = true)
    (hbc : b.precedes c = true) : a.precedes c = true := by
  rw [precedes_iff] at *
  exact hab.trans hbc

theorem QueueEntry.not_precedes_of_precedes {a b : QueueEntry} (h : a.precedes b = true) :
    ¬ b.precedes a = true := by
  rw [precedes_iff] at *
  exact h.asymm

/-- Entries that came one after the other are never level. -/
theorem QueueEntry.precedes_of_not_precedes {a b : QueueEntry} (hne : a.arrival ≠ b.arrival)
    (h : ¬ a.precedes b = true) : b.precedes a = true := by
  rw [precedes_iff] at *
  refine lt_of_le_of_ne (not_lt.mp h) fun he => hne ?_
  exact (congrArg (fun r => (ofLex r).2) he).symm

/-- The entries stand in the order of queues. -/
def Sorted (entries : List QueueEntry) : Prop :=
  entries.Pairwise fun a b => a.precedes b = true

theorem Sorted.sublist {l l' : List QueueEntry} (h : Sorted l) (hs : l'.Sublist l) : Sorted l' :=
  List.Pairwise.sublist hs h

/-- A sorted list is known by its entries. -/
theorem Sorted.eq_of_perm {l l' : List QueueEntry} (h : Sorted l) (h' : Sorted l')
    (hp : l.Perm l') : l = l' :=
  hp.eq_of_pairwise
    (fun _ _ _ _ hab hba => absurd hba (QueueEntry.not_precedes_of_precedes hab)) h h'

/-- Sorted entries are cut in two by a new one: those that stand before it, then the others. -/
theorem Sorted.cut {entries : List QueueEntry} (h : Sorted entries) (e : QueueEntry) :
    ∃ front back, entries = front ++ back ∧ (∀ x ∈ front, x.precedes e = true) ∧
      ∀ x ∈ back, ¬ x.precedes e = true := by
  induction entries with
  | nil => exact ⟨[], [], rfl, by simp, by simp⟩
  | cons head rest ih =>
    obtain ⟨hhead, hrest⟩ := List.pairwise_cons.mp h
    by_cases hc : head.precedes e = true
    · obtain ⟨front, back, rfl, hf, hb⟩ := ih hrest
      refine ⟨head :: front, back, rfl, fun x hx => ?_, hb⟩
      rcases List.mem_cons.mp hx with rfl | hx
      · exact hc
      · exact hf x hx
    · -- what stands behind an entry that is not before `e` is not before `e` either
      refine ⟨[], head :: rest, rfl, by simp, fun x hx he => hc ?_⟩
      rcases List.mem_cons.mp hx with rfl | hx
      · exact he
      · exact QueueEntry.precedes_trans (hhead x hx) he

/-! ### Searching by halving -/

namespace Queue

variable {α : Type} {passes : α → Bool} {l : List α}

/-- The search ends inside the list, whatever the test. -/
theorem boundary_le (passes : α → Bool) (l : List α) (base size : Nat)
    (h : base + size ≤ l.length) : boundary passes l base size ≤ l.length := by
  fun_induction boundary passes l base size with
  | case1 base size _ hp =>
    have hb : base < l.length := by
      by_contra hb
      simp [List.getElem?_eq_none (Nat.not_lt.mp hb)] at hp
    omega
  | case2 => omega
  | case3 base size _ middle _ ih => exact ih (by omega)
  | case4 base size _ middle _ ih => exact ih (by omega)

/-- **The search ends between the elements that pass and those that do not**, provided that it
starts on the near side of that place and reaches to it. -/
theorem boundary_eq {n base size : Nat}
    (hp : ∀ i (hi : i < l.length), passes l[i] = true ↔ i < n)
    (hn : n ≤ l.length) (hb : base ≤ n) (hs : n ≤ base + size) :
    boundary passes l base size = n := by
  have pass_iff : ∀ i, l[i]?.any passes = true ↔ i < n := by
    intro i
    by_cases hi : i < l.length
    · simpa [List.getElem?_eq_getElem hi] using hp i hi
    · simp [List.getElem?_eq_none (Nat.not_lt.mp hi)]
      omega
  fun_induction boundary passes l base size with
  | case1 base size hle h =>
    have := (pass_iff base).mp h
    omega
  | case2 base size hle h =>
    have := (pass_iff base).not.mp h
    omega
  | case3 base size hlt middle h ih =>
    have := (pass_iff middle).mp h
    exact ih (by omega) (by omega)
  | case4 base size hlt middle h ih =>
    have := (pass_iff middle).not.mp h
    exact ih hb (by omega)

/-- The search over a list that is cut where the test changes. -/
theorem boundary_append {front back : List α} (hf : ∀ x ∈ front, passes x = true)
    (hb : ∀ x ∈ back, ¬ passes x = true) :
    boundary passes (front ++ back) 0 (front ++ back).length = front.length := by
  refine boundary_eq (fun i hi => ?_) (by simp) (Nat.zero_le _) (by simp)
  rw [List.getElem_append]
  split
  case isTrue h => exact iff_of_true (hf _ (List.getElem_mem h)) h
  case isFalse h => exact iff_of_false (hb _ (List.getElem_mem _)) h

/-! ### Putting an entry in its place -/

/-- Putting an entry somewhere adds that entry and loses none. -/
theorem place_perm (e : QueueEntry) (entries : List QueueEntry) :
    (place e entries).Perm (e :: entries) :=
  List.perm_insertIdx e entries (boundary_le _ entries 0 entries.length (by omega))

theorem insertIdx_length_append (e : QueueEntry) (front back : List QueueEntry) :
    (front ++ back).insertIdx front.length e = front ++ e :: back := by
  induction front with
  | nil => rfl
  | cons head front ih => simp [ih]

/-- **In a sorted queue an entry is put behind those that stand before it.** -/
theorem place_eq {e : QueueEntry} {front back : List QueueEntry}
    (hf : ∀ x ∈ front, x.precedes e = true) (hb : ∀ x ∈ back, ¬ x.precedes e = true) :
    place e (front ++ back) = front ++ e :: back := by
  rw [place, boundary_append hf hb, insertIdx_length_append]

/-- An entry that came at another time than those of a sorted queue leaves it sorted. -/
theorem sorted_place {e : QueueEntry} {entries : List QueueEntry} (h : Sorted entries)
    (hne : ∀ x ∈ entries, x.arrival ≠ e.arrival) : Sorted (place e entries) := by
  obtain ⟨front, back, rfl, hf, hb⟩ := h.cut e
  rw [place_eq hf hb]
  obtain ⟨hfront, hback, hcross⟩ := List.pairwise_append.mp h
  have after : ∀ x ∈ back, e.precedes x = true := fun x hx =>
    QueueEntry.precedes_of_not_precedes (hne x (List.mem_append_right _ hx)) (hb x hx)
  refine List.pairwise_append.mpr ⟨hfront, List.pairwise_cons.mpr ⟨after, hback⟩, ?_⟩
  intro x hx y hy
  rcases List.mem_cons.mp hy with rfl | hy
  · exact hf x hx
  · exact hcross x hx y hy

end Queue

end MergeTrain
