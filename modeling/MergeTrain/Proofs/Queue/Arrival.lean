import MergeTrain.Proofs.Queue.Entries

/-!
# Queues in the order of arrival

Where priorities are alike and the clock does not go back, a queue should be nothing but a line:
whoever comes is last, and whoever waits keeps the place. Nothing in the code says so. An entry is
put in its place by a search, and an entry that is brought up to date is even taken out and put back
by that search. It comes back to where it was because what it is ranked by has not changed, its
*ticket* and its priority.

## Main definitions

* `QueueEntry.ticket`, `Queue.tickets` — what entries keep as long as they wait.
* `Queue.FirstCome` — the entries stand in the order in which they came.
* `Queue.Ahead` — one pull request stands ahead of another.

## Main results

* `Queue.Sound.entries_taking` — the last to come is put at the end.
* `Queue.Sound.exists_entries_moving` — an entry of unchanged priority moves to where it was.
* `Queue.pair_sublist_of_mem` — nobody is overtaken when others leave.
-/

namespace MergeTrain

/-- What an entry keeps for as long as it waits. -/
def QueueEntry.ticket (x : QueueEntry) : PullRef × Instant × Nat :=
  (x.pull, x.enqueuedAt, x.arrival)

theorem Instant.before_of_not_before {a b : Instant} (h : ¬ b.before a = true) (hne : a ≠ b) :
    a.before b = true := by
  rw [before_iff] at h ⊢
  exact lt_of_le_of_ne (not_lt.mp h) fun heq => hne ((eq_iff a b).mpr heq)

/-- Of two entries of one priority, the one that came first stands first. -/
theorem QueueEntry.precedes_of_came {x y : QueueEntry} (hpriority : x.priority = y.priority)
    (htime : ¬ y.enqueuedAt.before x.enqueuedAt = true) (harrival : x.arrival < y.arrival) :
    x.precedes y = true := by
  rw [precedes, if_pos hpriority]
  by_cases heq : x.enqueuedAt = y.enqueuedAt
  · rw [if_pos heq]
    exact decide_eq_true harrival
  · rw [if_neg heq]
    exact Instant.before_of_not_before htime heq

namespace Queue

variable {q q' : Queue} {x e : QueueEntry} {n a b : UInt64}

/-- The tickets of those who wait, in their order. -/
def tickets (q : Queue) : List (PullRef × Instant × Nat) :=
  q.entries.map QueueEntry.ticket

theorem numbers_eq_map_tickets (q : Queue) :
    q.numbers = q.tickets.map fun ticket => ticket.1.number := by
  rw [tickets, List.map_map]
  rfl

/-- The entries stand in the order in which they came. -/
def FirstCome (q : Queue) : Prop :=
  q.entries.Pairwise fun x y =>
    x.arrival < y.arrival ∧ ¬ y.enqueuedAt.before x.enqueuedAt = true

theorem firstCome_iff :
    q.FirstCome ↔
      q.tickets.Pairwise fun x y => x.2.2 < y.2.2 ∧ ¬ y.2.1.before x.2.1 = true := by
  rw [tickets, List.pairwise_map]
  rfl

/-- A pull request stands somewhere ahead of another one. -/
def Ahead (q : Queue) (a b : UInt64) : Prop :=
  [a, b].Sublist q.numbers

instance : Decidable (q.Ahead a b) :=
  inferInstanceAs (Decidable (List.Sublist _ _))

/-! ### Entering and moving -/

/-- **The last to come is put at the end.** -/
theorem Sound.entries_taking (h : q.Sound)
    (hpriority : ∀ x ∈ q.entries, x.priority = e.priority)
    (htime : ∀ x ∈ q.entries, ¬ e.enqueuedAt.before x.enqueuedAt = true) :
    (q.taking e).entries = q.entries ++ [{ e with arrival := q.arrivals }] := by
  have hbefore : ∀ x ∈ q.entries, x.precedes { e with arrival := q.arrivals } = true :=
    fun x hx => QueueEntry.precedes_of_came (hpriority x hx) (htime x hx) (h.fresh x hx)
  have hplace := place_eq hbefore (List.forall_mem_nil _)
  rwa [List.append_nil] at hplace

/-- **An entry of unchanged priority moves to where it was.** -/
theorem Sound.exists_entries_moving (h : q.Sound) (hx : q.get? n = some x) (config : MergeConfig) :
    ∃ front back, q.entries = front ++ x :: back ∧
      (q.moving x x.priority config).entries = front ++ { x with config } :: back := by
  obtain ⟨front, back, hentries, hremove⟩ := exists_cut_of_get? hx
  have hsorted : Sorted (front ++ x :: back) := hentries ▸ h.sorted
  obtain ⟨-, hback, hfront⟩ := List.pairwise_append.mp hsorted
  refine ⟨front, back, hentries, ?_⟩
  rw [Queue.moving, (mem_of_get? hx).2, hremove]
  -- only the priority and the ticket count in comparisons
  refine place_eq (e := { x with config }) (fun y hy => hfront y hy x List.mem_cons_self) ?_
  intro y hy
  exact QueueEntry.not_precedes_of_precedes ((List.pairwise_cons.mp hback).1 y hy)

theorem Sound.tickets_moving (h : q.Sound) (hx : q.get? n = some x) (config : MergeConfig) :
    (q.moving x x.priority config).tickets = q.tickets := by
  obtain ⟨front, back, hentries, hmoving⟩ := h.exists_entries_moving hx config
  rw [tickets, hmoving, tickets, hentries, List.map_append, List.map_append]
  rfl

/-- Nothing changes for an entry that is brought up to what it is. -/
theorem Sound.moving_self (h : q.Sound) (hx : q.get? n = some x) :
    q.moving x x.priority x.config = q := by
  obtain ⟨front, back, hentries, hmoving⟩ := h.exists_entries_moving hx x.config
  have hsame : (q.moving x x.priority x.config).entries = q.entries := hmoving.trans hentries.symm
  calc q.moving x x.priority x.config
      = { q with entries := (q.moving x x.priority x.config).entries } := rfl
    _ = q := by rw [hsame]

/-! ### Staying ahead -/

/-- Nobody is overtaken when others leave. -/
theorem pair_sublist_of_mem {l l' : List UInt64} (hl : l.Nodup) (hsub : l'.Sublist l)
    (h : [a, b].Sublist l) (ha : a ∈ l') (hb : b ∈ l') : [a, b].Sublist l' := by
  have hstay : l' = l.filter fun n => n ∈ l' := by
    refine (hl.perm_iff_eq_of_sublist hsub List.filter_sublist).mp ?_
    rw [List.perm_ext_iff_of_nodup (hl.sublist hsub) (hl.filter _)]
    intro n
    simpa using fun hn => hsub.subset hn
  rw [hstay]
  simpa [ha, hb] using h.filter fun n => n ∈ l'

end Queue

end MergeTrain
