import MergeTrain.Proofs.Registry.Cells
import MergeTrain.Proofs.Train.Frame

/-!
# Tidy registries

Queues come into being when they are looked up, also for nothing: an operation opens the queue of
the target before it knows whether its pull request will enter. Queues run empty in many ways. If
each of them stayed, the registry would grow with every branch that was ever looked at.

Two places see to it that none stays. A pull request that follows its target drops the queues that
it was the last to leave, and every operation ends with dropping the queue of the target if that is
empty, also when it fails. No other queue is touched. This needs that nobody holds a queue from
outside: a queue that is held is never dropped.

A registry is read through its lookup here, as everywhere.

## Main definitions

* `Registry.Tidy` — no queue is empty.

## Main results

* `Registry.Tidy.follow` — nothing empty is left on the branches that a pull request leaves.
* `Performs.tidy` — every operation leaves a tidy registry tidy.
* `Train.leaves_no_queue_empty` — over any history, the open queues are those in which somebody
  waits.
-/

namespace MergeTrain

namespace Registry

variable {r : Registry} {pull : PullRef} {key k : QueueKey}

/-- No queue is empty. -/
def Tidy (r : Registry) : Prop :=
  ∀ key q, r.queue? key = some q → q.entries ≠ []

/-- No queue is empty, but for the one of a key. -/
def TidyBut (r : Registry) (key : QueueKey) : Prop :=
  ∀ k, k ≠ key → ∀ q, r.queue? k = some q → q.entries ≠ []

theorem tidy_empty : Tidy {} := by
  intro key q hq
  cases hq

theorem tidy_of_slots (h : ∀ s ∈ r.slots, s.queue.entries ≠ []) : r.Tidy := by
  intro key q hq
  obtain ⟨s, hs, rfl⟩ := Option.map_eq_some_iff.mp hq
  exact h s (List.mem_of_find?_eq_some hs)

theorem Tidy.but (h : r.Tidy) (key : QueueKey) : r.TidyBut key :=
  fun k _ => h k

/-! ### Which queues are open -/

theorem mem_keys_iff : key ∈ r.slots.map Slot.key ↔ (r.queue? key).isSome := by
  rw [queue?, Option.isSome_map, slot?, List.find?_isSome, List.mem_map]
  simp only [beq_iff_eq]

theorem mem_branches_iff {repository branch : String} :
    branch ∈ r.branches repository ↔ ⟨repository, branch⟩ ∈ r.slots.map Slot.key := by
  rw [branches, List.mem_mergeSort]
  simp only [List.mem_map, List.mem_filter, beq_iff_eq]
  constructor
  · rintro ⟨s, ⟨hs, rfl⟩, rfl⟩
    exact ⟨s, hs, rfl⟩
  · rintro ⟨s, hs, hkey⟩
    exact ⟨s, ⟨hs, congrArg QueueKey.repository hkey⟩, congrArg QueueKey.branch hkey⟩

/-- In a tidy registry a queue is open as long as somebody waits in it. -/
theorem Tidy.isSome_queue?_iff (h : r.Tidy) :
    (r.queue? key).isSome ↔ (r.queue key).entries ≠ [] := by
  rw [Registry.queue]
  cases hq : r.queue? key with
  | none => simp
  | some q => simpa using h key q hq

/-! ### The changes -/

/-- What happens to the queue of a key leaves the others as they are. -/
theorem kept_tidyBut (key : QueueKey) : Kept (fun r => r.TidyBut key) key where
  opened := by
    intro r h k hk
    rw [queue?_open_of_ne hk]
    exact h k hk
  update := by
    intro r change h k hk
    rw [queue?_update_of_ne hk]
    exact h k hk
  prune := by
    intro r h k hk
    rw [queue?_prune_of_ne hk]
    exact h k hk

/-- A queue that nobody holds is not empty when it has been looked at to be dropped. -/
theorem entries_ne_nil_of_unlessIdle {c c' : Cell} (hfree : c.held = false)
    (h : c.unlessIdle = some c') : c'.queue.entries ≠ [] := by
  rw [Cell.unlessIdle] at h
  split at h
  · cases h
  next hidle =>
    obtain rfl := Option.some.inj h
    simpa [hfree, Queue.isEmpty] using hidle

/-- Nobody holds a queue where there are no handles. -/
theorem held_eq_false {c : Cell} (hfree : r.handles = []) (h : r.cell? k = some c) :
    c.held = false := by
  obtain ⟨s, -, rfl⟩ := Option.map_eq_some_iff.mp h
  simp [isHeld, hfree]

/-- **Nothing empty is left behind** when a pull request leaves the branches that it does not
target. A queue that has run empty is one that it was in, and these are all looked at. -/
theorem Tidy.follow (h : r.Tidy) (hfree : r.handles = []) : (r.follow pull).Tidy := by
  intro k q hq
  rw [queue?_eq_cell?, follow_eq, cell?_foldl_prune] at hq
  obtain ⟨c', hc', rfl⟩ := Option.map_eq_some_iff.mp hq
  split at hc'
  next hstray =>
    obtain ⟨c, hc, hleft⟩ := Option.bind_eq_some_iff.mp hc'
    have hfree' : (r.stripped pull).handles = [] := hfree
    exact entries_ne_nil_of_unlessIdle (held_eq_false hfree' hc) hleft
  next hstays =>
    have hq' : (r.stripped pull).queue? k = some c'.queue := by rw [queue?_eq_cell?, hc']; rfl
    rw [queue?_stripped] at hq'
    obtain ⟨q, hq, hleft⟩ := Option.map_eq_some_iff.mp hq'
    have hwaited : q.entries ≠ [] := h k q hq
    split at hleft
    next haway =>
      -- the pull request was not in this queue, or it would have been looked at
      have hnot : pull.number ∉ q.numbers := by
        intro hn
        have hqueue : r.queue k = q := by rw [Registry.queue, hq]; rfl
        have hcontains : (r.queue k).contains pull.number = true := by
          rw [hqueue]
          exact Queue.contains_iff.mpr hn
        exact hstays ⟨haway.1, mem_strays_of_contains haway.1 haway.2 hcontains⟩
      rwa [← hleft, Queue.remove_of_not_mem hnot]
    next => rwa [← hleft]

end Registry

variable {σ : Type} {t : Train σ} {e : Evaluation} {r r' : Registry} {op : Operation}
  {made : List Exchange} {result : Except Error Outcome}

/-! ### Operations and histories -/

/-- **Every operation leaves a tidy registry tidy**, whatever comes of it, where nobody holds a
queue. -/
theorem Performs.tidy (h : Performs t e r op made result r') (hfree : r.handles = [])
    (hr : r.Tidy) : r'.Tidy := by
  intro k q hq hempty
  by_cases hk : k = e.pull.queueKey
  · subst hk
    have hgone : (r'.queue e.pull.queueKey).entries = [] := by
      rw [Registry.queue, hq]
      exact hempty
    cases hq.symm.trans (h.queue?_eq_none hfree hgone)
  · have hbegun : (op.begun e.pull r).Tidy := by
      rw [Operation.begun]
      split
      · exact hr.follow hfree
      · exact hr
    exact h.kept (Registry.kept_tidyBut _) (hbegun.but _) k hk q hq hempty

theorem tidy_performAll (calls : List (TrainCall σ)) {s : Session σ}
    (hfree : s.registry.handles = []) (hs : s.registry.Tidy) :
    (performAll calls s).registry.Tidy := by
  induction calls generalizing s with
  | nil => exact hs
  | cons call calls ih =>
    obtain ⟨made, -, h⟩ := call.performs s
    exact ih (h.handles_eq.trans hfree) (h.tidy hfree hs)

/-- **No queue is left empty.** Where nobody holds a queue from outside and no queue is empty, no
queue is empty after an operation either, whatever the platform answers and however the operation
ends. So after any operations from an empty registry, failed ones among them, the registry has one
queue for each branch on which somebody waits, and no others. -/
theorem Train.leaves_no_queue_empty :
    (∀ (t : Train σ) (e : Evaluation) (op : Operation) (s : Session σ),
      s.registry.handles = [] → s.registry.Tidy →
        ((t.perform e op).runOn s).2.registry.Tidy) ∧
    ∀ (calls : List (TrainCall σ)) (platform : σ),
      let r := (performAll calls { platform }).registry
      (r.slots.map Slot.key).Nodup ∧
        ∀ key, (key ∈ r.slots.map Slot.key ↔ (r.queue key).entries ≠ []) ∧
          (key.branch ∈ r.branches key.repository ↔ (r.queue key).entries ≠ []) := by
  refine ⟨fun t e op s hfree hs => ?_, fun calls platform => ?_⟩
  · obtain ⟨made, -, h⟩ := t.perform_does e s.registry op s rfl
    exact h.tidy hfree hs
  · intro r
    have htidy : r.Tidy := tidy_performAll calls rfl Registry.tidy_empty
    have hkey : ∀ key, key ∈ r.slots.map Slot.key ↔ (r.queue key).entries ≠ [] := fun key =>
      Registry.mem_keys_iff.trans htidy.isSome_queue?_iff
    exact ⟨(sound_performAll calls Registry.sound_empty).keys, fun key =>
      ⟨hkey key, Registry.mem_branches_iff.trans (hkey key)⟩⟩

/-- What is left when the only pull request on a branch is evaluated that it no longer targets, and
its rule does not match. -/
def Still.deserted : Session Unit :=
  (((train {}).perform (evaluation {}) .cancelFlow).runOn retargeted).2

/-- Neither the branch that it was on nor its target is left with a queue. -/
theorem Train.last_one_leaves_nothing :
    Still.retargeted.registry.handles = [] ∧ Still.retargeted.registry.Tidy ∧
      Still.retargeted.registry.branches "acme/widgets" = ["release"] ∧
      Still.deserted.registry.Tidy ∧ Still.deserted.registry.branches "acme/widgets" = [] := by
  have htidy : Still.retargeted.registry.Tidy := Registry.tidy_of_slots (by decide)
  refine ⟨rfl, htidy, by decide +kernel, ?_, by decide +kernel⟩
  exact Train.leaves_no_queue_empty.1 (Still.train {}) (Still.evaluation {}) .cancelFlow
    Still.retargeted rfl htidy

end MergeTrain
