import Mathlib.Data.List.Basic
import MergeTrain.Proofs.Queue.Sound

/-!
# Queues as ledgers

The plainest account of a queue: a ledger in which every entry is written down when it comes, is
struck out when it leaves, and is corrected where it stands. Nothing is searched and nothing is
moved. Who is next is found by sorting the ledger by urgency, and a stable sort leaves those of
equal urgency in the order in which they came.

A queue gives the same answers as its ledger and always stands in the ledger's sorted order, over
any calls, failing ones among them. Arrivals are natural numbers here: the statement is about all
runs that take in fewer entries than a machine word can count, and does not stop there.

## Main definitions

* `QueueCall`, `Queue.serve` — the calls that change a queue, with their answers.
* `Ledger`, `Ledger.serve`, `Ledger.ordered` — the plain account.
* `Ledger.Records` — what ties a ledger to its queue.

## Main results

* `Ledger.Records.serve` — one call keeps the tie, and both give the same answer.
* `queue_refines_ledger` — a queue that starts out empty follows its ledger, call by call.
-/

namespace MergeTrain

/-- A change asked of a queue. -/
inductive QueueCall where
  | insert (entry : QueueEntry)
  | remove (number : UInt64)
  | updateConfig (number : UInt64) (priority : Priority) (config : MergeConfig)

/-- What a call is answered with: the entry that left, if one did, or what went wrong. -/
abbrev Reply :=
  Except Error (Option QueueEntry)

/-- Make a call. -/
def Queue.serve (q : Queue) : QueueCall → Reply × Queue
  | .insert e =>
    match q.insert e with
    | .ok q' => (.ok none, q')
    | .error error => (.error error, q)
  | .remove n => (.ok (q.get? n), q.remove n)
  | .updateConfig n priority config =>
    match q.updateConfig n priority config with
    | .ok q' => (.ok none, q')
    | .error error => (.error error, q)

theorem Queue.reply_insert_eq_error_iff {q : Queue} {e : QueueEntry} {error : Error} :
    (q.serve (.insert e)).1 = .error error ↔ q.insert e = .error error := by
  cases h : q.insert e <;> simp [Queue.serve, h]

theorem Queue.reply_insert_eq_ok_iff {q : Queue} {e : QueueEntry} :
    (q.serve (.insert e)).1 = .ok none ↔ e.pull.baseRef = q.branch ∧ e.number ∉ q.numbers := by
  cases h : q.insert e with
  | error error =>
    have hno : ¬ (e.pull.baseRef = q.branch ∧ e.number ∉ q.numbers) := fun ⟨hb, hn⟩ => by
      rw [Queue.insert_eq_ok_iff.mpr ⟨hb, hn, rfl⟩] at h
      cases h
    simpa [Queue.serve, h] using hno
  | ok q' =>
    obtain ⟨hb, hn, -⟩ := Queue.insert_eq_ok_iff.mp h
    simp [Queue.serve, h, hb, hn]

theorem Queue.reply_updateConfig_eq_error_iff {q : Queue} {n : UInt64} {priority : Priority}
    {config : MergeConfig} {error : Error} :
    (q.serve (.updateConfig n priority config)).1 = .error error ↔
      q.updateConfig n priority config = .error error := by
  cases h : q.updateConfig n priority config <;> simp [Queue.serve, h]

/-- A call that fails changes nothing. -/
theorem Queue.serve_of_error {q : Queue} {call : QueueCall} {error : Error}
    (h : (q.serve call).1 = .error error) : (q.serve call).2 = q := by
  cases call with
  | insert e =>
    cases hi : q.insert e <;> simp [Queue.serve, hi] at h ⊢
  | remove n => simp [Queue.serve] at h
  | updateConfig n priority config =>
    cases hu : q.updateConfig n priority config <;> simp [Queue.serve, hu] at h ⊢

/-- Make calls one after the other, and keep the answers. -/
def serveAll {σ : Type} (serve : σ → QueueCall → Reply × σ) : σ → List QueueCall → List Reply × σ
  | s, [] => ([], s)
  | s, call :: calls =>
    let (reply, s) := serve s call
    let (replies, s) := serveAll serve s calls
    (reply :: replies, s)

/-- Whether `a` has as great a priority as `b`, and if it is the same one, entered as early. -/
def QueueEntry.noLessUrgent (a b : QueueEntry) : Bool :=
  a.urgency ≤ b.urgency

/-- The entries of a branch in the order in which they came. -/
structure Ledger where
  branch : String
  entries : List QueueEntry := []
  /-- How many entries were ever written down. -/
  taken : Nat := 0

namespace Ledger

/-- The entry of a pull request. -/
def entry? (m : Ledger) (n : UInt64) : Option QueueEntry :=
  m.entries.find? fun e => e.number == n

/-- The ledger after an entry was written down: it came last. -/
def writing (m : Ledger) (e : QueueEntry) : Ledger :=
  { m with entries := m.entries ++ [{ e with arrival := m.taken }], taken := m.taken + 1 }

/-- The entry of a pull request with another priority and other choices; all else stays. -/
def corrected (n : UInt64) (priority : Priority) (config : MergeConfig) (e : QueueEntry) :
    QueueEntry :=
  if e.number = n then { e with priority, config } else e

/-- Make a call. -/
def serve (m : Ledger) : QueueCall → Reply × Ledger
  | .insert e =>
    if e.pull.baseRef ≠ m.branch then (.error (.wrongBranch m.branch e.pull.baseRef e.number), m)
    else if (m.entry? e.number).isSome then (.error (.alreadyQueued m.branch e.number), m)
    else (.ok none, m.writing e)
  | .remove n => (.ok (m.entry? n), { m with entries := m.entries.filter fun e => e.number != n })
  | .updateConfig n priority config =>
    if (m.entry? n).isNone then (.error (.pullNotQueued n), m)
    else (.ok none, { m with entries := m.entries.map (corrected n priority config) })

/-- The entries with the most urgent first, those of equal urgency as they came. -/
def ordered (m : Ledger) : List QueueEntry :=
  m.entries.mergeSort QueueEntry.noLessUrgent

end Ledger

/-! ### Sorting by urgency -/

theorem QueueEntry.noLessUrgent_trans (a b c : QueueEntry) (hab : a.noLessUrgent b = true)
    (hbc : b.noLessUrgent c = true) : a.noLessUrgent c = true := by
  rw [noLessUrgent, decide_eq_true_eq] at *
  exact hab.trans hbc

theorem QueueEntry.noLessUrgent_total (a b : QueueEntry) :
    (a.noLessUrgent b || b.noLessUrgent a) = true := by
  simpa [noLessUrgent] using le_total a.urgency b.urgency

/-- **Stability.** Entries of one urgency come out in the order in which they went in. -/
theorem filter_mergeSort_urgency (l : List QueueEntry) (u : ℕᵒᵈ ×ₗ ℤ ×ₗ ℕ) :
    (l.mergeSort QueueEntry.noLessUrgent).filter (fun e => e.urgency = u)
      = l.filter fun e => e.urgency = u := by
  have hlevel : (l.filter fun e => e.urgency = u).Pairwise fun a b => a.noLessUrgent b = true := by
    refine List.pairwise_of_forall_mem_list fun a ha b hb => ?_
    rw [List.mem_filter, decide_eq_true_eq] at ha hb
    rw [QueueEntry.noLessUrgent, ha.2, hb.2, decide_eq_true_eq]
  have hsub := List.sublist_mergeSort QueueEntry.noLessUrgent_trans
    QueueEntry.noLessUrgent_total hlevel List.filter_sublist
  have hcut := hsub.filter fun e => decide (e.urgency = u)
  rw [List.filter_eq_self.mpr (by simp)] at hcut
  exact (hcut.eq_of_length ((List.mergeSort_perm l _).filter _).length_eq.symm).symm

/-- Entries that are sorted by urgency, and were in the order of arrival before, stand in the order
of queues. -/
theorem sorted_mergeSort {l : List QueueEntry} (h : l.Pairwise fun a b => a.arrival < b.arrival) :
    Sorted (l.mergeSort QueueEntry.noLessUrgent) := by
  have hsorted := List.pairwise_mergeSort QueueEntry.noLessUrgent_trans
    QueueEntry.noLessUrgent_total l
  refine List.pairwise_iff_forall_sublist.mpr fun {a b} hab => ?_
  have hle : a.urgency ≤ b.urgency := by
    simpa [QueueEntry.noLessUrgent] using List.pairwise_iff_forall_sublist.mp hsorted hab
  rw [QueueEntry.precedes_iff, QueueEntry.rank, QueueEntry.rank, Prod.Lex.toLex_lt_toLex]
  rcases hle.lt_or_eq with hlt | heq
  · exact Or.inl hlt
  · -- two of one urgency also come one after the other in the list that was sorted
    have hcut := hab.filter fun e => decide (e.urgency = b.urgency)
    rw [filter_mergeSort_urgency, List.filter_eq_self.mpr (by simp [heq])] at hcut
    exact Or.inr ⟨heq, List.pairwise_iff_forall_sublist.mp h (hcut.trans List.filter_sublist)⟩

namespace Ledger

/-! ### A queue and its ledger -/

/-- `m` is the ledger of `q`. -/
structure Records (m : Ledger) (q : Queue) : Prop where
  sound : q.Sound
  branch : m.branch = q.branch
  taken : m.taken = q.arrivals
  /-- The same entries stand in both. -/
  perm : q.entries.Perm m.entries
  /-- The ledger is in the order of arrival. -/
  inOrder : m.entries.Pairwise fun a b => a.arrival < b.arrival

variable {m : Ledger} {q : Queue}

theorem records_empty (repository branch : String) : Records { branch } { repository, branch } :=
  ⟨Queue.sound_empty repository branch, rfl, rfl, .nil, .nil⟩

/-- **The queue stands in the ledger's sorted order.** -/
theorem Records.entries_eq_ordered (h : m.Records q) : q.entries = m.ordered :=
  h.sound.sorted.eq_of_perm (sorted_mergeSort h.inOrder)
    (h.perm.trans (List.mergeSort_perm m.entries _).symm)

theorem Records.entry?_eq (h : m.Records q) (n : UInt64) : m.entry? n = q.get? n := by
  have hm : ({ q with entries := m.entries } : Queue).numbers.Nodup :=
    (h.perm.map _).nodup_iff.mp h.sound.numbers
  refine Option.ext fun e => ?_
  rw [Queue.get?_eq_some_iff h.sound.numbers, h.perm.mem_iff]
  exact Queue.get?_eq_some_iff hm

theorem Records.writing (h : m.Records q) {e : QueueEntry} (hb : e.pull.baseRef = q.branch)
    (hn : e.number ∉ q.numbers) : (m.writing e).Records (q.taking e) := by
  refine ⟨h.sound.taking hb hn, h.branch, congrArg (· + 1) h.taken, ?_, ?_⟩
  · refine (Queue.place_perm _ _).trans ((h.perm.cons _).trans ?_)
    rw [Ledger.writing, h.taken]
    exact (List.perm_append_singleton _ _).symm
  · refine List.pairwise_append.mpr ⟨h.inOrder, List.pairwise_singleton _ _, fun x hx y hy => ?_⟩
    rw [List.mem_singleton.mp hy, h.taken]
    exact h.sound.fresh x (h.perm.mem_iff.mpr hx)

theorem Records.insert (h : m.Records q) (e : QueueEntry) :
    (q.serve (.insert e)).1 = (m.serve (.insert e)).1 ∧
      (m.serve (.insert e)).2.Records (q.serve (.insert e)).2 := by
  by_cases hb : e.pull.baseRef = q.branch
  · by_cases hn : e.number ∈ q.numbers
    · have hi := Queue.insert_eq_alreadyQueued_iff.mpr ⟨hb, hn⟩
      have hs : (q.get? e.number).isSome :=
        Option.isSome_iff_ne_none.mpr fun hg => Queue.get?_eq_none_iff.mp hg hn
      simp [serve, Queue.serve, hi, h.branch, hb, h.entry?_eq, hs, h]
    · have hi := Queue.insert_eq_ok_iff.mpr ⟨hb, hn, rfl⟩
      have hg := Queue.get?_eq_none_iff.mpr hn
      have hq : q.serve (.insert e) = (.ok none, q.taking e) := by simp [Queue.serve, hi]
      have hm : m.serve (.insert e) = (.ok none, m.writing e) := by
        simp [serve, h.branch, hb, h.entry?_eq, hg, Ledger.writing]
      rw [hq, hm]
      exact ⟨rfl, h.writing hb hn⟩
  · have hi := Queue.insert_eq_wrongBranch_iff.mpr hb
    simp [serve, Queue.serve, hi, h.branch, hb, h]

theorem Records.remove (h : m.Records q) (n : UInt64) :
    (q.serve (.remove n)).1 = (m.serve (.remove n)).1 ∧
      (m.serve (.remove n)).2.Records (q.serve (.remove n)).2 := by
  refine ⟨congrArg _ (h.entry?_eq n).symm, h.sound.remove n, h.branch, h.taken, ?_, ?_⟩
  · change (q.remove n).entries.Perm _
    rw [Queue.entries_remove h.sound.numbers]
    exact h.perm.filter _
  · exact h.inOrder.sublist List.filter_sublist

theorem arrival_corrected (n : UInt64) (priority : Priority) (config : MergeConfig)
    (e : QueueEntry) : (corrected n priority config e).arrival = e.arrival := by
  rw [corrected]
  split <;> rfl

/-- To correct the entry where it stands, or to take it out and put it in its new place, comes to
the same entries. -/
theorem Records.correcting (h : m.Records q) {n : UInt64} {e : QueueEntry} (hg : q.get? n = some e)
    (priority : Priority) (config : MergeConfig) :
    Records { m with entries := m.entries.map (corrected n priority config) }
      (q.moving e priority config) := by
  refine ⟨h.sound.moving hg priority config, h.branch, h.taken, ?_, ?_⟩
  · obtain ⟨-, rfl⟩ := Queue.mem_of_get? hg
    have hrest : (q.remove e.number).entries.map (corrected e.number priority config)
        = (q.remove e.number).entries := by
      refine (List.map_congr_left fun x hx => ?_).trans (List.map_id _)
      refine if_neg fun hx' => Queue.not_mem_numbers_remove h.sound.numbers e.number ?_
      exact Queue.mem_numbers.mpr ⟨x, hx, hx'⟩
    have hcorrected : corrected e.number priority config e = { e with priority, config } :=
      if_pos rfl
    have hp := (h.perm.symm.trans (Queue.perm_cons_remove hg)).map
      (corrected e.number priority config)
    rw [List.map_cons, hrest, hcorrected] at hp
    exact (Queue.place_perm _ _).trans hp.symm
  · refine List.pairwise_map.mpr (h.inOrder.imp fun hab => ?_)
    rwa [arrival_corrected, arrival_corrected]

theorem Records.updateConfig (h : m.Records q) (n : UInt64) (priority : Priority)
    (config : MergeConfig) :
    (q.serve (.updateConfig n priority config)).1 = (m.serve (.updateConfig n priority config)).1 ∧
      (m.serve (.updateConfig n priority config)).2.Records
        (q.serve (.updateConfig n priority config)).2 := by
  cases hg : q.get? n with
  | none =>
    have hu : q.updateConfig n priority config = .error (.pullNotQueued n) :=
      Queue.updateConfig_eq_error_iff.mpr (Queue.get?_eq_none_iff.mp hg)
    simp [serve, Queue.serve, hu, h.entry?_eq, hg, h]
  | some e =>
    have hu : q.updateConfig n priority config = .ok (q.moving e priority config) :=
      Queue.updateConfig_eq_ok_iff.mpr ⟨e, hg, rfl⟩
    have hm : m.serve (.updateConfig n priority config)
        = (.ok none, { m with entries := m.entries.map (corrected n priority config) }) := by
      simp [serve, h.entry?_eq, hg]
    have hq : q.serve (.updateConfig n priority config)
        = (.ok none, q.moving e priority config) := by simp [Queue.serve, hu]
    rw [hq, hm]
    exact ⟨rfl, h.correcting hg priority config⟩

/-- **One call.** A queue and its ledger answer alike and stay together. -/
theorem Records.serve (h : m.Records q) (call : QueueCall) :
    (q.serve call).1 = (m.serve call).1 ∧ (m.serve call).2.Records (q.serve call).2 := by
  cases call with
  | insert e => exact h.insert e
  | remove n => exact h.remove n
  | updateConfig n priority config => exact h.updateConfig n priority config

/-- **Any calls.** -/
theorem Records.serveAll (h : m.Records q) (calls : List QueueCall) :
    (MergeTrain.serveAll Queue.serve q calls).1 = (MergeTrain.serveAll Ledger.serve m calls).1 ∧
      (MergeTrain.serveAll Ledger.serve m calls).2.Records
        (MergeTrain.serveAll Queue.serve q calls).2 := by
  induction calls generalizing m q with
  | nil => exact ⟨rfl, h⟩
  | cons call calls ih =>
    obtain ⟨hreply, hnext⟩ := h.serve call
    obtain ⟨hreplies, hend⟩ := ih hnext
    exact ⟨congrArg₂ List.cons hreply hreplies, hend⟩

theorem branch_serve (m : Ledger) (call : QueueCall) : (m.serve call).2.branch = m.branch := by
  cases call with
  | insert e =>
    rw [serve]
    split
    · rfl
    · split <;> rfl
  | remove n => rfl
  | updateConfig n priority config =>
    rw [serve]
    split <;> rfl

theorem branch_serveAll (m : Ledger) (calls : List QueueCall) :
    (MergeTrain.serveAll serve m calls).2.branch = m.branch := by
  induction calls generalizing m with
  | nil => rfl
  | cons call calls ih => exact (ih _).trans (m.branch_serve call)

end Ledger

/-- **A queue follows its ledger.** After any calls on an empty queue, failing ones among them, the
queue has given the ledger's answers and stands in the ledger's order: by priority, the greatest
first, then by the time of entry, then as the entries came. So every pull request waits once and
targets the branch. An entry is refused exactly if it targets another branch, which is looked at
first, or if its pull request waits already, and only a waiting pull request can be changed. A call
that fails leaves the queue as it was. -/
theorem queue_refines_ledger (repository branch : String) (calls : List QueueCall) :
    let run := serveAll Queue.serve { repository, branch } calls
    let book := serveAll Ledger.serve { branch } calls
    let q := run.2
    run.1 = book.1 ∧ q.entries = book.2.ordered ∧ q.branch = branch ∧ q.numbers.Nodup ∧
      (∀ e ∈ q.entries, e.pull.baseRef = branch) ∧
      (∀ e, (q.serve (.insert e)).1 = .error (.wrongBranch branch e.pull.baseRef e.number) ↔
        e.pull.baseRef ≠ branch) ∧
      (∀ e, (q.serve (.insert e)).1 = .error (.alreadyQueued branch e.number) ↔
        e.pull.baseRef = branch ∧ e.number ∈ q.numbers) ∧
      (∀ e, (q.serve (.insert e)).1 = .ok none ↔
        e.pull.baseRef = branch ∧ e.number ∉ q.numbers) ∧
      (∀ n priority config,
        (q.serve (.updateConfig n priority config)).1 = .error (.pullNotQueued n) ↔
          n ∉ q.numbers) ∧
      ∀ call error, (q.serve call).1 = .error error → (q.serve call).2 = q := by
  intro run book q
  obtain ⟨hreplies, hrec⟩ := (Ledger.records_empty repository branch).serveAll calls
  have hbranch : q.branch = branch := hrec.branch.symm.trans (Ledger.branch_serveAll _ calls)
  refine ⟨hreplies, hrec.entries_eq_ordered, hbranch, hrec.sound.numbers, fun e he => ?_,
    fun e => ?_, fun e => ?_, fun e => ?_, fun n priority config => ?_, fun call error => ?_⟩
  · exact (hrec.sound.targets e he).trans hbranch
  · rw [← hbranch, Queue.reply_insert_eq_error_iff, Queue.insert_eq_wrongBranch_iff]
  · rw [← hbranch, Queue.reply_insert_eq_error_iff, Queue.insert_eq_alreadyQueued_iff]
  · rw [← hbranch, Queue.reply_insert_eq_ok_iff]
  · rw [Queue.reply_updateConfig_eq_error_iff, Queue.updateConfig_eq_error_iff]
  · exact Queue.serve_of_error

end MergeTrain
