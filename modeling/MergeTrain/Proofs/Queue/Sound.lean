import Mathlib.Data.List.Nodup
import MergeTrain.Proofs.Queue.Order

/-!
# Sound queues

What holds of a queue from its first entry on, and what every change keeps: it is sorted, no pull
request stands in it twice, arrivals tell its entries apart and come before the next one to be
given, and every entry targets its branch.

Both ways of putting an entry in (a new one, or one that moves because its priority changed) end in
`Queue.place`, so `Queue.Sound.place` carries them both.

## Main definitions

* `Queue.Sound` — the invariant.

## Main results

* `Queue.insert_eq_ok_iff`, `Queue.updateConfig_eq_ok_iff` — when the changes succeed, and how.
* `Queue.Sound.insert`, `Queue.Sound.remove`, `Queue.Sound.updateConfig` — they keep the invariant.
-/

namespace MergeTrain

namespace Queue

variable {q q' : Queue}

/-- What holds of every queue that starts out empty. -/
structure Sound (q : Queue) : Prop where
  sorted : Sorted q.entries
  /-- No pull request waits twice. -/
  numbers : q.numbers.Nodup
  /-- No two entries came at once. -/
  arrivals : (q.entries.map QueueEntry.arrival).Nodup
  /-- The next arrival is a new one. -/
  fresh : ∀ e ∈ q.entries, e.arrival < q.arrivals
  targets : ∀ e ∈ q.entries, e.pull.baseRef = q.branch

theorem sound_empty (repository branch : String) : Sound { repository, branch } :=
  ⟨List.Pairwise.nil, List.nodup_nil, List.nodup_nil, by simp, by simp⟩

/-! ### Looking up -/

theorem mem_numbers {n : UInt64} : n ∈ q.numbers ↔ ∃ e ∈ q.entries, e.number = n :=
  List.mem_map

theorem contains_iff {n : UInt64} : q.contains n = true ↔ n ∈ q.numbers := by
  simp [contains, mem_numbers]

theorem get?_eq_none_iff {n : UInt64} : q.get? n = none ↔ n ∉ q.numbers := by
  simp [get?, mem_numbers]

theorem mem_of_get? {n : UInt64} {e : QueueEntry} (h : q.get? n = some e) :
    e ∈ q.entries ∧ e.number = n :=
  ⟨List.mem_of_find?_eq_some h, by simpa using List.find?_some h⟩

/-- Where no pull request waits twice, the entry of a pull request is the only one. -/
theorem eq_of_number_eq (h : q.numbers.Nodup) {a b : QueueEntry} (ha : a ∈ q.entries)
    (hb : b ∈ q.entries) (hn : a.number = b.number) : a = b :=
  List.inj_on_of_nodup_map h ha hb hn

theorem get?_eq_some_iff (h : q.numbers.Nodup) {n : UInt64} {e : QueueEntry} :
    q.get? n = some e ↔ e ∈ q.entries ∧ e.number = n := by
  refine ⟨mem_of_get?, fun ⟨he, hn⟩ => ?_⟩
  cases hg : q.get? n with
  | none => exact absurd (mem_numbers.mpr ⟨e, he, hn⟩) (get?_eq_none_iff.mp hg)
  | some e' =>
    obtain ⟨he', hn'⟩ := mem_of_get? hg
    rw [eq_of_number_eq h he' he (hn'.trans hn.symm)]

/-! ### Leaving -/

theorem remove_sublist (q : Queue) (n : UInt64) : (q.remove n).entries.Sublist q.entries :=
  List.eraseP_sublist

/-- The place of an entry in its queue, and the queue without it. -/
theorem exists_cut_of_get? {n : UInt64} {e : QueueEntry} (h : q.get? n = some e) :
    ∃ front back, q.entries = front ++ e :: back ∧ (q.remove n).entries = front ++ back := by
  obtain ⟨he, front, back, hq, hf⟩ := List.find?_eq_some_iff_append.mp h
  have hf' : ∀ x ∈ front, ¬ (x.number == n) = true := by simpa using hf
  refine ⟨front, back, hq, ?_⟩
  simp only [remove, hq, List.eraseP_append_right _ hf', List.eraseP_cons_of_pos, he]

/-- The entry that leaves, put back, makes up the queue again. -/
theorem perm_cons_remove {n : UInt64} {e : QueueEntry} (h : q.get? n = some e) :
    q.entries.Perm (e :: (q.remove n).entries) := by
  obtain ⟨front, back, hq, hr⟩ := exists_cut_of_get? h
  rw [hr, hq]
  exact List.perm_middle

/-- Where no pull request waits twice, leaving takes away all that has its number. -/
theorem entries_remove (h : q.numbers.Nodup) (n : UInt64) :
    (q.remove n).entries = q.entries.filter fun e => e.number != n := by
  obtain ⟨repository, branch, entries, arrivals⟩ := q
  change entries.eraseP _ = _
  change (entries.map QueueEntry.number).Nodup at h
  induction entries with
  | nil => rfl
  | cons head rest ih =>
    obtain ⟨hhead, hrest⟩ := List.nodup_cons.mp h
    by_cases hn : head.number = n
    · have hall : ∀ e ∈ rest, e.number ≠ n := fun e he hen =>
        hhead (List.mem_map.mpr ⟨e, he, hen.trans hn.symm⟩)
      rw [List.eraseP_cons_of_pos (by simpa using hn), List.filter_cons_of_neg (by simpa using hn),
        List.filter_eq_self.mpr (by simpa using hall)]
    · rw [List.eraseP_cons_of_neg (by simpa using hn), List.filter_cons_of_pos (by simpa using hn),
        ih hrest]

theorem numbers_remove (h : q.numbers.Nodup) (n : UInt64) :
    (q.remove n).numbers = q.numbers.filter fun m => m != n := by
  rw [numbers, entries_remove h, numbers, List.filter_map]
  rfl

theorem nodup_numbers_remove (h : q.numbers.Nodup) (n : UInt64) : (q.remove n).numbers.Nodup :=
  h.sublist ((remove_sublist q n).map _)

/-- A pull request that has left is gone. -/
theorem not_mem_numbers_remove (h : q.numbers.Nodup) (n : UInt64) : n ∉ (q.remove n).numbers := by
  simp [numbers_remove h]

theorem Sound.remove (h : q.Sound) (n : UInt64) : (q.remove n).Sound where
  sorted := h.sorted.sublist (remove_sublist q n)
  numbers := nodup_numbers_remove h.numbers n
  arrivals := h.arrivals.sublist ((remove_sublist q n).map _)
  fresh e he := h.fresh e ((remove_sublist q n).subset he)
  targets e he := h.targets e ((remove_sublist q n).subset he)

/-! ### Entering and moving -/

theorem nodup_numbers_place (h : q.numbers.Nodup) {e : QueueEntry} (hn : e.number ∉ q.numbers) :
    ((Queue.place e q.entries).map QueueEntry.number).Nodup :=
  ((place_perm e q.entries).map _).nodup_iff.mpr (List.nodup_cons.mpr ⟨hn, h⟩)

/-- Putting in an entry that is told apart from all others keeps a queue sound. -/
theorem Sound.place (h : q.Sound) {e : QueueEntry} {arrivals : Nat} (hn : e.number ∉ q.numbers)
    (ha : ∀ x ∈ q.entries, x.arrival ≠ e.arrival) (he : e.arrival < arrivals)
    (hq : q.arrivals ≤ arrivals) (ht : e.pull.baseRef = q.branch) :
    Sound { q with entries := Queue.place e q.entries, arrivals } := by
  have hp := place_perm e q.entries
  refine ⟨sorted_place h.sorted ha, nodup_numbers_place h.numbers hn, ?_, fun x hx => ?_,
    fun x hx => ?_⟩
  · refine (hp.map _).nodup_iff.mpr (List.nodup_cons.mpr ⟨fun hm => ?_, h.arrivals⟩)
    obtain ⟨x, hx, hxe⟩ := List.mem_map.mp hm
    exact ha x hx hxe
  · rcases List.mem_cons.mp (hp.mem_iff.mp hx) with rfl | hx
    · exact he
    · exact (h.fresh x hx).trans_le hq
  · rcases List.mem_cons.mp (hp.mem_iff.mp hx) with rfl | hx
    · exact ht
    · exact h.targets x hx

/-- The queue after an entry was taken in. -/
def taking (q : Queue) (e : QueueEntry) : Queue :=
  { q with
    entries := Queue.place { e with arrival := q.arrivals } q.entries
    arrivals := q.arrivals + 1 }

theorem nodup_numbers_taking (h : q.numbers.Nodup) {e : QueueEntry} (hn : e.number ∉ q.numbers) :
    (q.taking e).numbers.Nodup :=
  nodup_numbers_place (e := { e with arrival := q.arrivals }) h hn

theorem insert_eq_ok_iff {e : QueueEntry} :
    q.insert e = .ok q' ↔ e.pull.baseRef = q.branch ∧ e.number ∉ q.numbers ∧ q' = q.taking e := by
  by_cases hb : e.pull.baseRef = q.branch
  · by_cases hc : e.number ∈ q.numbers
    · simp [insert, hb, hc, contains_iff]
    · rw [insert, if_neg (not_not.mpr hb), if_neg (contains_iff.not.mpr hc), Except.ok.injEq,
        and_iff_right hb, and_iff_right hc]
      exact eq_comm
  · simp [insert, hb]

theorem insert_eq_wrongBranch_iff {e : QueueEntry} :
    q.insert e = .error (.wrongBranch q.branch e.pull.baseRef e.number) ↔
      e.pull.baseRef ≠ q.branch := by
  by_cases hb : e.pull.baseRef = q.branch
  · by_cases hc : e.number ∈ q.numbers <;> simp [insert, hb, hc, contains_iff]
  · simp [insert, hb]

theorem insert_eq_alreadyQueued_iff {e : QueueEntry} :
    q.insert e = .error (.alreadyQueued q.branch e.number) ↔
      e.pull.baseRef = q.branch ∧ e.number ∈ q.numbers := by
  by_cases hb : e.pull.baseRef = q.branch
  · by_cases hc : e.number ∈ q.numbers <;> simp [insert, hb, hc, contains_iff]
  · simp [insert, hb]

theorem Sound.taking (h : q.Sound) {e : QueueEntry} (hb : e.pull.baseRef = q.branch)
    (hn : e.number ∉ q.numbers) : (q.taking e).Sound :=
  Sound.place h (e := { e with arrival := q.arrivals }) hn (fun x hx => (h.fresh x hx).ne)
    (Nat.lt_succ_self _) (Nat.le_succ _) hb

theorem Sound.insert (h : q.Sound) {e : QueueEntry} (hi : q.insert e = .ok q') : q'.Sound := by
  obtain ⟨hb, hn, rfl⟩ := insert_eq_ok_iff.mp hi
  exact h.taking hb hn

/-- The queue after an entry in it got another priority and other choices. -/
def moving (q : Queue) (e : QueueEntry) (priority : Priority) (config : MergeConfig) : Queue :=
  { q with entries := Queue.place { e with priority, config } (q.remove e.number).entries }

theorem nodup_numbers_moving (h : q.numbers.Nodup) (e : QueueEntry) (priority : Priority)
    (config : MergeConfig) : (q.moving e priority config).numbers.Nodup :=
  nodup_numbers_place (e := { e with priority, config }) (nodup_numbers_remove h e.number)
    (not_mem_numbers_remove h e.number)

theorem updateConfig_eq_ok_iff {n : UInt64} {priority : Priority} {config : MergeConfig} :
    q.updateConfig n priority config = .ok q' ↔
      ∃ e, q.get? n = some e ∧ q' = q.moving e priority config := by
  rw [updateConfig]
  cases hg : q.get? n with
  | none => simp
  | some e => simp [moving, (mem_of_get? hg).2, eq_comm]

theorem updateConfig_eq_error_iff {n : UInt64} {priority : Priority} {config : MergeConfig} :
    q.updateConfig n priority config = .error (.pullNotQueued n) ↔ n ∉ q.numbers := by
  rw [updateConfig, ← get?_eq_none_iff]
  cases q.get? n <;> simp

theorem Sound.moving (h : q.Sound) {n : UInt64} {e : QueueEntry} (hg : q.get? n = some e)
    (priority : Priority) (config : MergeConfig) : (q.moving e priority config).Sound := by
  obtain ⟨he, rfl⟩ := mem_of_get? hg
  have hp := perm_cons_remove hg
  have ha : e.arrival ∉ (q.remove e.number).entries.map QueueEntry.arrival :=
    (List.nodup_cons.mp ((hp.map _).nodup_iff.mp h.arrivals)).1
  refine Sound.place (h.remove e.number) (e := { e with priority, config })
    (not_mem_numbers_remove h.numbers _) (fun x hx hxe => ha ?_) (h.fresh e he) le_rfl
    (h.targets e he)
  exact List.mem_map.mpr ⟨x, hx, hxe⟩

theorem Sound.updateConfig (h : q.Sound) {n : UInt64} {priority : Priority} {config : MergeConfig}
    (hu : q.updateConfig n priority config = .ok q') : q'.Sound := by
  obtain ⟨e, hg, rfl⟩ := updateConfig_eq_ok_iff.mp hu
  exact h.moving hg priority config

end Queue

end MergeTrain
