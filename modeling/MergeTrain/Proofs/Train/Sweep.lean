import MergeTrain.Proofs.Queue.Sound
import MergeTrain.Train.Run

/-!
# Entering a queue, sweeping it and planning on it

A pull request that enters the queue where it already waits keeps its entry, which moves to the
place of its new priority. Before a plan is made, those who have waited too long are removed, one by
one and by number. Where no pull request waits twice this comes to a filter: `Evaluation.isLate` is
the test, and the pull request under evaluation passes whether it is late or not.

What a plan may decide is read off from the front. A merge and an update both need a pull request
that is not late, and under an ordered train it has to be first among those that are not.

## Main definitions

* `Evaluation.isLate` — an entry has waited too long.
* `Evaluation.Ready` — a queue does not hold the pull request up.

## Main results

* `Train.enqueued_eq_ok_iff` — how a pull request enters.
* `Evaluation.entries_sweep`, `Evaluation.own_sweep` — the sweep as a filter.
* `Evaluation.ready_of_plan_merge`, `Evaluation.ready_of_plan_synchronize` — only a pull request
  that is not held up is merged or updated.
-/

namespace MergeTrain

namespace Queue

variable {q : Queue}

/-- Removing by number, one after the other, keeps those whose number is not among them. -/
theorem entries_foldl_remove (h : q.numbers.Nodup) (ns : List UInt64) :
    (ns.foldl Queue.remove q).entries = q.entries.filter fun x => !ns.contains x.number := by
  induction ns generalizing q with
  | nil => simp
  | cons n ns ih =>
    rw [List.foldl_cons, ih (nodup_numbers_remove h n), entries_remove h, List.filter_filter]
    refine List.filter_congr fun x _ => ?_
    rw [List.contains_cons, Bool.not_or, Bool.and_comm]
    rfl

theorem isFirst_iff {n : UInt64} :
    q.isFirst n = true ↔ q.entries.head?.map QueueEntry.number = some n := by
  rw [isFirst]
  cases q.entries <;> simp

end Queue

/-! ### Entering -/

namespace Train

variable {entry : QueueEntry} {q q' : Queue}

/-- A pull request enters at its place, or moves there if it waits already. -/
theorem enqueued_eq_ok_iff :
    enqueued entry q = .ok q' ↔
      entry.pull.baseRef = q.branch ∧
        (entry.number ∉ q.numbers ∧ q' = q.taking entry ∨
          ∃ x, q.get? entry.number = some x ∧ q' = q.moving x entry.priority entry.config) := by
  by_cases hb : entry.pull.baseRef = q.branch
  · by_cases hn : entry.number ∈ q.numbers
    · rw [enqueued, Queue.insert_eq_alreadyQueued_iff.mpr ⟨hb, hn⟩]
      simp only [Queue.updateConfig_eq_ok_iff]
      exact ⟨fun h => ⟨hb, .inr h⟩, fun h => h.2.resolve_left fun h => h.1 hn⟩
    · have hg : q.get? entry.number = none := Queue.get?_eq_none_iff.mpr hn
      rw [enqueued, Queue.insert_eq_ok_iff.mpr ⟨hb, hn, rfl⟩]
      simp [hb, hn, hg, eq_comm]
  · rw [enqueued, Queue.insert_eq_wrongBranch_iff.mpr hb]
    simp [hb]

/-- A pull request that targets the branch can enter. -/
theorem exists_enqueued (h : entry.pull.baseRef = q.branch) : ∃ q', enqueued entry q = .ok q' := by
  cases hg : q.get? entry.number with
  | none => exact ⟨_, enqueued_eq_ok_iff.mpr ⟨h, .inl ⟨Queue.get?_eq_none_iff.mp hg, rfl⟩⟩⟩
  | some x => exact ⟨_, enqueued_eq_ok_iff.mpr ⟨h, .inr ⟨x, hg, rfl⟩⟩⟩

theorem nodup_numbers_enqueued (h : q.numbers.Nodup) (he : enqueued entry q = .ok q') :
    q'.numbers.Nodup := by
  obtain ⟨-, ⟨hn, rfl⟩ | ⟨x, hg, rfl⟩⟩ := enqueued_eq_ok_iff.mp he
  · exact Queue.nodup_numbers_taking h hn
  · exact Queue.nodup_numbers_moving h x entry.priority entry.config

end Train

/-! ### Sweeping -/

namespace Evaluation

variable {e : Evaluation} {s : QueueSettings} {q : Queue}

/-- Whether an entry has waited longer than the target branch allows. -/
def isLate (e : Evaluation) (s : QueueSettings) (x : QueueEntry) : Bool :=
  match s.maxWait e.pull.baseRef with
  | none => false
  | some minutes => nanosOfMinutes minutes.toNat < e.now.since x.enqueuedAt

/-- Where there is no limit nobody is late. -/
theorem isLate_eq_false (h : s.maxWait e.pull.baseRef = none) (x : QueueEntry) :
    e.isLate s x = false := by
  rw [isLate, h]

theorem overdue_eq (e : Evaluation) (s : QueueSettings) (q : Queue) :
    s.overdue q e.pull.baseRef e.now = (q.entries.filter (e.isLate s)).map QueueEntry.number := by
  unfold QueueSettings.overdue isLate
  cases s.maxWait e.pull.baseRef with
  | none => simp
  | some minutes => rfl

/-- Where no pull request waits twice, to be among the late ones is to be late. -/
theorem mem_overdue (h : q.numbers.Nodup) {x : QueueEntry} (hx : x ∈ q.entries) :
    x.number ∈ s.overdue q e.pull.baseRef e.now ↔ e.isLate s x = true := by
  rw [overdue_eq]
  constructor
  · intro hn
    obtain ⟨y, hy, hyx⟩ := List.mem_map.mp hn
    obtain ⟨hy, hl⟩ := List.mem_filter.mp hy
    rw [← Queue.eq_of_number_eq h hy hx hyx]
    exact hl
  · exact fun hl => List.mem_map.mpr ⟨x, List.mem_filter.mpr ⟨hx, hl⟩, rfl⟩

/-- Those that a sweep removes are the late ones among the others. -/
theorem mem_others_sweep {n : UInt64} :
    n ∈ (e.sweep s q).others ↔
      n ≠ e.pull.number ∧ ∃ x ∈ q.entries, x.number = n ∧ e.isLate s x = true := by
  change n ∈ (s.overdue q _ _).filter _ ↔ _
  rw [List.mem_filter, overdue_eq, List.mem_map]
  simp only [List.mem_filter, bne_iff_ne, ne_eq]
  constructor
  · rintro ⟨⟨x, ⟨hx, hlate⟩, hn⟩, hne⟩
    exact ⟨hne, x, hx, hn, hlate⟩
  · rintro ⟨hne, x, hx, hn, hlate⟩
    exact ⟨⟨x, ⟨hx, hlate⟩, hn⟩, hne⟩

/-- The sweep takes out those who are late, but not the pull request under evaluation. -/
theorem entries_sweep (h : q.numbers.Nodup) :
    (e.sweep s q).queue.entries
      = q.entries.filter fun x => x.number == e.pull.number || !e.isLate s x := by
  change (((s.overdue q _ _).filter _).foldl Queue.remove q).entries = _
  rw [Queue.entries_foldl_remove h]
  refine List.filter_congr fun x hx => ?_
  have hl := mem_overdue (s := s) (e := e) h hx
  rw [Bool.eq_iff_iff]
  simp only [Bool.not_eq_true', List.contains_eq_mem, decide_eq_false_iff_not, List.mem_filter, hl,
    bne_iff_ne, ne_eq, Bool.or_eq_true, beq_iff_eq]
  cases e.isLate s x <;> simp

theorem nodup_numbers_sweep (h : q.numbers.Nodup) : (e.sweep s q).queue.numbers.Nodup := by
  rw [Queue.numbers, entries_sweep h]
  exact h.sublist (List.filter_sublist.map _)

theorem own_sweep :
    (e.sweep s q).own = true ↔ ∃ x ∈ q.entries, x.number = e.pull.number ∧ e.isLate s x = true := by
  change List.contains _ _ = true ↔ _
  rw [List.contains_iff_mem, overdue_eq, List.mem_map]
  simp only [List.mem_filter]
  exact ⟨fun ⟨x, ⟨hx, hl⟩, hn⟩ => ⟨x, hx, hn, hl⟩, fun ⟨x, hx, hn, hl⟩ => ⟨x, ⟨hx, hl⟩, hn⟩⟩

/-- A sweep that finds nobody late. -/
theorem sweep_of_onTime (h : ∀ x ∈ q.entries, e.isLate s x = false) :
    e.sweep s q = { queue := q, own := false, others := [] } := by
  have hnobody : s.overdue q e.pull.baseRef e.now = [] := by
    rw [overdue_eq, List.filter_eq_nil_iff.mpr fun x hx => by simp [h x hx]]
    rfl
  simp [sweep, hnobody]

/-! ### Planning -/

/-- A queue does not hold the pull request up: it is not late there, and where the train is ordered
it is first when those who are late are left out. -/
structure Ready (e : Evaluation) (s : QueueSettings) (q : Queue) : Prop where
  onTime : ∀ x ∈ q.entries, x.number = e.pull.number → e.isLate s x = false
  first : e.config.strict = .ordered →
    (q.entries.filter fun x => !e.isLate s x).head?.map QueueEntry.number = some e.pull.number

/-- A pull request that the sweep finds on time and first is ready. -/
theorem ready_of_sweep (h : q.numbers.Nodup) (hown : (e.sweep s q).own = false)
    (hfirst : e.config.strict = .ordered → (e.sweep s q).queue.isFirst e.pull.number = true) :
    e.Ready s q := by
  have honTime : ∀ x ∈ q.entries, x.number = e.pull.number → e.isLate s x = false :=
    fun x hx hn => Bool.eq_false_iff.mpr fun hl =>
      absurd (own_sweep.mpr ⟨x, hx, hn, hl⟩) (by simp [hown])
  refine ⟨honTime, fun hordered => ?_⟩
  rw [← Queue.isFirst_iff.mp (hfirst hordered), entries_sweep h]
  refine congrArg (fun l => (List.head? l).map QueueEntry.number) (List.filter_congr fun x hx => ?_)
  by_cases hn : x.number = e.pull.number
  · simp [hn, honTime x hx hn]
  · simp [hn]

end Evaluation

namespace Standing

variable {s : Standing}

/-- What is up to date where it has to be may be merged, in its turn. -/
theorem shouldMerge_eq_true_iff :
    s.shouldMerge = true ↔
      (s.strict ≠ .disabled → s.isBehind = false) ∧ (s.strict = .ordered → s.isFirst = true) := by
  rw [shouldMerge]
  cases s.strict <;> simp

theorem shouldUpdate_eq_true_iff :
    s.shouldUpdate = true ↔
      s.strict ≠ .disabled ∧ s.isBehind = true ∧ (s.strict = .ordered → s.isFirst = true) := by
  rw [shouldUpdate]
  cases s.strict <;> simp

end Standing

namespace Facts

variable {f : Facts} {q : Queue}

theorem decision_eq_merge_iff {method : MergeMethod} :
    f.decision q = .merge method ↔ f.expired = false ∧ (f.standing q).shouldMerge = true ∧
      f.allowMerge = true ∧ f.config.mergeMethod f.rebaseable = some method := by
  -- the decision depends on four truth values and on whether there is a method
  rw [decision]
  cases f.expired <;> cases (f.standing q).shouldMerge <;> cases f.allowMerge <;>
    cases (f.standing q).shouldUpdate <;> cases f.config.mergeMethod f.rebaseable <;> simp

theorem decision_eq_synchronize_iff {method : UpdateMethod} :
    f.decision q = .synchronize method ↔ f.expired = false ∧ (f.standing q).shouldMerge = false ∧
      (f.standing q).shouldUpdate = true ∧ f.config.updateMethod = method := by
  rw [decision]
  cases f.expired <;> cases (f.standing q).shouldMerge <;> cases f.allowMerge <;>
    cases (f.standing q).shouldUpdate <;> cases f.config.mergeMethod f.rebaseable <;> simp

end Facts

namespace Evaluation

variable {e : Evaluation} {s : QueueSettings} {q : Queue} {snapshot : PullSnapshot}
  {isBehind allowMerge : Bool}

/-- A plan leaves the swept queue behind, without the pull request if that is to leave. -/
theorem queue_plan :
    (e.plan s snapshot isBehind allowMerge q).queue =
      if (e.plan s snapshot isBehind allowMerge q).decision.report?.isSome
        then (e.sweep s q).queue.remove e.pull.number
        else (e.sweep s q).queue := by
  rw [plan]
  dsimp only
  generalize Facts.decision _ _ = d
  cases d <;> rfl

theorem nodup_numbers_plan (h : q.numbers.Nodup) :
    (e.plan s snapshot isBehind allowMerge q).queue.numbers.Nodup := by
  have hsweep := nodup_numbers_sweep (e := e) (s := s) h
  rw [queue_plan]
  split
  · exact Queue.nodup_numbers_remove hsweep _
  · exact hsweep

/-- Who is to leave by a plan is not in the queue that it leaves behind. -/
theorem not_mem_numbers_plan (h : q.numbers.Nodup)
    (hd : (e.plan s snapshot isBehind allowMerge q).decision.report?.isSome) :
    e.pull.number ∉ (e.plan s snapshot isBehind allowMerge q).queue.numbers := by
  rw [queue_plan, if_pos hd]
  exact Queue.not_mem_numbers_remove (nodup_numbers_sweep h) _

/-- What a plan has found out when it decides on a merge. -/
theorem ready_of_plan_merge (h : q.numbers.Nodup) {method : MergeMethod}
    (hd : (e.plan s snapshot isBehind allowMerge q).decision = .merge method) :
    allowMerge = true ∧ (e.config.strict ≠ .disabled → isBehind = false) ∧ e.Ready s q := by
  obtain ⟨hown, hmerge, hallow, -⟩ := Facts.decision_eq_merge_iff.mp hd
  obtain ⟨hfresh, hfirst⟩ := Standing.shouldMerge_eq_true_iff.mp hmerge
  exact ⟨hallow, hfresh, ready_of_sweep h hown hfirst⟩

/-- What a plan has found out when it decides on an update. -/
theorem ready_of_plan_synchronize (h : q.numbers.Nodup) {method : UpdateMethod}
    (hd : (e.plan s snapshot isBehind allowMerge q).decision = .synchronize method) :
    e.config.strict ≠ .disabled ∧ isBehind = true ∧ e.Ready s q := by
  obtain ⟨hown, -, hupdate, -⟩ := Facts.decision_eq_synchronize_iff.mp hd
  obtain ⟨hstrict, hbehind, hfirst⟩ := Standing.shouldUpdate_eq_true_iff.mp hupdate
  exact ⟨hstrict, hbehind, ready_of_sweep h hown hfirst⟩

end Evaluation

end MergeTrain
