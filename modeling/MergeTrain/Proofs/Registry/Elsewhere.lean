import Mathlib.Data.List.Sort
import MergeTrain.Proofs.Registry.Held

/-!
# Leaving the other branches

When a pull request changes its target, it leaves every queue of its repository but one. The queues
are walked in the order in which the registry happens to list them, and those that are idle
afterwards are dropped in a second walk, by their branches. All of this comes to one rule for each
slot by itself, `Registry.remains`: a slot that the pull request does not have to leave is left
alone, and of the other ones there is what is left, or nothing. It takes that no two slots have one
key. If two had, the second walk could drop a queue because of what has happened to another one.

With the rule for each slot, the order of the slots is seen not to matter. They come out in the
order in which they were, whatever that is, and the branches are sorted.

## Main definitions

* `Registry.remains` — what is left of a slot.
* `Registry.LeftElsewhere` — what leaving the other branches does, and all that it does.
* `Registry.Reordered` — the same registry, with its slots in another order.

## Main results

* `Registry.removeElsewhere_eq` — the two walks, slot by slot.
* `Registry.leftElsewhere`, `Registry.Reordered.removeElsewhere` — the effect, and that the order of
  the slots does not matter.
* `Registry.removeElsewhere_exact` — both.
-/

namespace MergeTrain

namespace Registry

variable {r r' : Registry} {repository keep : String} {number : UInt64} {key : QueueKey}

/-! ### Dropping, slot by slot -/

/-- Whether the queue of a slot is empty and held by nobody. -/
def isUnused (r : Registry) (s : Slot) : Bool :=
  s.queue.isEmpty && !r.isHeld s

theorem isUnused_with_slots (r : Registry) (slots : List Slot) (s : Slot) :
    isUnused { r with slots } s = r.isUnused s :=
  rfl

/-- A queue that may be dropped is told by its slot. -/
theorem isIdle_of_mem (h : (r.slots.map Slot.key).Nodup) {s : Slot} (hs : s ∈ r.slots) :
    r.isIdle s.key = r.isUnused s := by
  rw [isIdle, slot?, find?_eq_some_of_nodup h hs]
  rfl

theorem prune_eq_filter (h : (r.slots.map Slot.key).Nodup) (key : QueueKey) :
    r.prune key =
      { r with slots := r.slots.filter fun s => !(s.key == key && r.isUnused s) } := by
  rw [prune_eq]
  split
  next hidle =>
    refine congrArg (fun slots => { r with slots }) (List.filter_congr fun s hs => ?_)
    by_cases hkey : s.key = key
    · have hunused : r.isUnused s = true := by rw [← isIdle_of_mem h hs, hkey, hidle]
      simp [hkey, hunused]
    · simp [hkey]
  next hidle =>
    refine congrArg (fun slots => { r with slots }) (Eq.symm (List.filter_eq_self.mpr ?_))
    intro s hs
    by_cases hkey : s.key = key
    · have hused : r.isUnused s = false := by
        rw [← isIdle_of_mem h hs, hkey]
        exact Bool.eq_false_iff.mpr hidle
      simp [hused]
    · simp [hkey]

/-- Of the queues of some branches, those are dropped that may be, in whatever order it is tried. -/
theorem foldl_prune_eq_filter (h : (r.slots.map Slot.key).Nodup) (repository : String)
    (branches : List String) :
    branches.foldl (fun r branch => r.prune ⟨repository, branch⟩) r =
      { r with
        slots := r.slots.filter fun s =>
          !(s.key.repository == repository && branches.contains s.key.branch && r.isUnused s) } := by
  induction branches generalizing r with
  | nil => simp
  | cons branch branches ih =>
    have hrest : ((r.slots.filter fun s => !(s.key == ⟨repository, branch⟩ && r.isUnused s)).map
        Slot.key).Nodup :=
      h.sublist (List.filter_sublist.map _)
    rw [List.foldl_cons, prune_eq_filter h, ih hrest, List.filter_filter]
    refine congrArg (fun slots => { r with slots }) (List.filter_congr fun s _ => ?_)
    have hkey : (s.key == ⟨repository, branch⟩)
        = (s.key.repository == repository && s.key.branch == branch) := by
      rw [Bool.eq_iff_iff, Bool.and_eq_true, beq_iff_eq, beq_iff_eq, beq_iff_eq, QueueKey.mk.injEq]
    rw [hkey, List.contains_cons]
    change (!(_ && r.isUnused s) && !(_ && r.isUnused s)) = _
    cases r.isUnused s <;> cases s.key.repository == repository <;>
      cases s.key.branch == branch <;> simp

/-! ### Both walks -/

/-- The second walk goes by branches. It comes to the slots that the first walk has changed. -/
theorem contains_branchesLeft (h : (r.slots.map Slot.key).Nodup) {s : Slot} (hs : s ∈ r.slots) :
    (s.key.repository == repository &&
        (r.branchesLeft repository number keep).contains s.key.branch)
      = isElsewhere repository number keep s := by
  rw [Bool.eq_iff_iff, Bool.and_eq_true, beq_iff_eq, List.contains_iff_mem, branchesLeft,
    List.mem_map]
  constructor
  · rintro ⟨hrepository, s', hs', hbranch⟩
    obtain ⟨hs', helsewhere⟩ := List.mem_filter.mp hs'
    have hsame : s'.key = s.key := by
      rw [QueueKey.mk.injEq, hrepository, hbranch]
      exact ⟨(isElsewhere_iff.mp helsewhere).1, rfl⟩
    rwa [← List.inj_on_of_nodup_map h hs' hs hsame]
  · intro helsewhere
    exact ⟨(isElsewhere_iff.mp helsewhere).1, s, List.mem_filter.mpr ⟨hs, helsewhere⟩, rfl⟩

/-- What is left of a slot when a pull request leaves the branches other than `keep`. -/
def remains (r : Registry) (repository : String) (number : UInt64) (keep : String) (s : Slot) :
    Option Slot :=
  if isElsewhere repository number keep s then
    if r.isUnused { s with queue := s.queue.remove number } then none
    else some { s with queue := s.queue.remove number }
  else some s

theorem key_of_remains {s s' : Slot} (h : r.remains repository number keep s = some s') :
    s'.key = s.key := by
  rw [remains] at h
  split at h
  · split at h
    · cases h
    · cases h
      rfl
  · cases h
    rfl

/-- **The two walks, slot by slot.** -/
theorem removeElsewhere_eq (h : (r.slots.map Slot.key).Nodup) (repository : String)
    (number : UInt64) (keep : String) :
    r.removeElsewhere repository number keep =
      ((r.branchesLeft repository number keep).mergeSort fun a b => a ≤ b,
        { r with slots := r.slots.filterMap (r.remains repository number keep) }) := by
  have hkeys : ((r.slots.map fun s =>
      if isElsewhere repository number keep s then { s with queue := s.queue.remove number }
        else s).map Slot.key).Nodup := by
    rw [List.map_map]
    refine (List.map_congr_left fun s _ => ?_) ▸ h
    rw [Function.comp_apply]
    split <;> rfl
  rw [removeElsewhere, foldl_prune_eq_filter hkeys, ← branchesLeft]
  refine congrArg (fun slots => (_, { r with slots })) ?_
  rw [← List.filterMap_eq_filter, List.filterMap_map]
  refine List.filterMap_congr fun s hs => ?_
  have hleft : (s.key.repository == repository &&
      (r.branchesLeft repository number keep).contains s.key.branch) = _ :=
    contains_branchesLeft h hs
  rw [Function.comp_apply, remains, Option.guard]
  cases helsewhere : isElsewhere repository number keep s with
  | false =>
    rw [helsewhere] at hleft
    simp only [Bool.false_eq_true, if_false, hleft, Bool.false_and, Bool.not_false, if_true]
  | true =>
    rw [helsewhere] at hleft
    simp only [if_true, hleft, Bool.true_and, isUnused_with_slots]
    cases r.isUnused { s with queue := s.queue.remove number } <;> rfl

/-! ### What is found afterwards -/

/-- Where each slot is changed or dropped by itself, so is what is found under a key. -/
theorem slot?_filterMap (h : (r.slots.map Slot.key).Nodup) {f : Slot → Option Slot}
    (hf : ∀ s s', f s = some s' → s'.key = s.key) (key : QueueKey) :
    slot? { r with slots := r.slots.filterMap f } key = (r.slot? key).bind f := by
  obtain ⟨slots, handles, opened⟩ := r
  change (slots.filterMap f).find? _ = (slots.find? _).bind f
  change (slots.map Slot.key).Nodup at h
  induction slots with
  | nil => rfl
  | cons s slots ih =>
    obtain ⟨hs, hslots⟩ := List.nodup_cons.mp h
    by_cases hkey : s.key = key
    · rw [List.find?_cons_of_pos (by simpa using hkey), Option.bind_some]
      cases hfs : f s with
      | some s' =>
        rw [List.filterMap_cons_some hfs,
          List.find?_cons_of_pos (by simpa [hf s s' hfs] using hkey)]
      | none =>
        -- no later slot has the key, before or after
        rw [List.filterMap_cons_none hfs, List.find?_eq_none]
        intro t' ht'
        obtain ⟨t, ht, hft⟩ := List.mem_filterMap.mp ht'
        rw [beq_iff_eq, hf t t' hft]
        rintro rfl
        exact hs (List.mem_map.mpr ⟨t, ht, hkey.symm⟩)
    · rw [List.find?_cons_of_neg (by simpa using hkey), ← ih hslots]
      cases hfs : f s with
      | some s' =>
        rw [List.filterMap_cons_some hfs,
          List.find?_cons_of_neg (by simpa [hf s s' hfs] using hkey)]
      | none => rw [List.filterMap_cons_none hfs]

theorem slot?_removeElsewhere (h : (r.slots.map Slot.key).Nodup) (key : QueueKey) :
    (r.removeElsewhere repository number keep).2.slot? key
      = (r.slot? key).bind (r.remains repository number keep) := by
  rw [removeElsewhere_eq h, slot?_filterMap h fun s s' => key_of_remains]

/-- Under a branch that is left, what is found has to be left. -/
theorem isElsewhere_of_mem_branchesLeft (h : (r.slots.map Slot.key).Nodup) {s : Slot}
    (hs : r.slot? key = some s) :
    isElsewhere repository number keep s = true ↔
      key.repository = repository ∧ key.branch ∈ r.branchesLeft repository number keep := by
  rw [← contains_branchesLeft h (List.mem_of_find?_eq_some hs), key_of_slot? hs,
    Bool.and_eq_true, beq_iff_eq, List.contains_iff_mem]

/-! ### The effect -/

/-- A pull request has left the queues of a repository, but for the branch `keep`, and this is all
that has happened. The branches that it has left are told. -/
structure LeftElsewhere (r : Registry) (repository : String) (number : UInt64) (keep : String)
    (branches : List String) (r' : Registry) : Prop where
  /-- They are in order, and none comes twice. -/
  sorted : branches.Pairwise (· < ·)
  mem_branches : ∀ branch, branch ∈ branches ↔
    branch ≠ keep ∧ number ∈ (r.queue ⟨repository, branch⟩).numbers
  gone : ∀ branch ∈ branches, number ∉ (r'.queue ⟨repository, branch⟩).numbers
  /-- Nobody else leaves, and nobody moves. -/
  entries : ∀ branch ∈ branches, (r'.queue ⟨repository, branch⟩).entries
    = (r.queue ⟨repository, branch⟩).entries.filter fun x => x.number != number
  /-- The branch `keep` and those of the other repositories are among the ones meant here. -/
  unchanged : ∀ key, ¬(key.repository = repository ∧ key.branch ∈ branches) →
    r'.slot? key = r.slot? key
  /-- What is not dropped is the same queue still, with some entries less. -/
  within : ∀ key s s', r.slot? key = some s → r'.slot? key = some s' →
    s'.serial = s.serial ∧ s'.queue.Within s.queue
  dropped : ∀ key s, r.slot? key = some s →
    (r'.slot? key = none ↔ (key.repository = repository ∧ key.branch ∈ branches) ∧
      (∀ x ∈ s.queue.entries, x.number = number) ∧ r.isHeld s = false)
  handles : r'.handles = r.handles
  opened : r'.opened = r.opened

theorem nodup_branchesLeft (h : (r.slots.map Slot.key).Nodup) :
    (r.branchesLeft repository number keep).Nodup := by
  have hslots : (r.slots.filter (isElsewhere repository number keep)).Nodup :=
    h.of_map.filter _
  refine hslots.map_on fun s hs s' hs' hbranch => ?_
  obtain ⟨hs, helsewhere⟩ := List.mem_filter.mp hs
  obtain ⟨hs', helsewhere'⟩ := List.mem_filter.mp hs'
  refine List.inj_on_of_nodup_map h hs hs' ?_
  rw [QueueKey.mk.injEq]
  exact ⟨(isElsewhere_iff.mp helsewhere).1.trans (isElsewhere_iff.mp helsewhere').1.symm, hbranch⟩

theorem sorted_branchesLeft (h : (r.slots.map Slot.key).Nodup) :
    ((r.branchesLeft repository number keep).mergeSort fun a b => a ≤ b).Pairwise (· < ·) := by
  have hle : ((r.branchesLeft repository number keep).mergeSort fun a b => a ≤ b).Pairwise
      fun a b => a ≤ b := by
    refine (List.pairwise_mergeSort (fun a b c hab hbc => ?_) (fun a b => ?_) _).imp ?_
    · simp only [decide_eq_true_eq] at *
      exact String.le_trans hab hbc
    · simpa using String.le_total a b
    · simp
  have hne : ((r.branchesLeft repository number keep).mergeSort fun a b => a ≤ b).Nodup :=
    (List.mergeSort_perm _ _).nodup_iff.mpr (nodup_branchesLeft h)
  refine (hle.and hne).imp fun hab => String.not_le.mp fun hba => ?_
  exact hab.2 (String.le_antisymm hab.1 hba)

/-- An empty queue, and nobody would be left to miss it. -/
theorem isUnused_remove_iff (h : r.Distinct) {s : Slot} (hs : s ∈ r.slots) :
    r.isUnused { s with queue := s.queue.remove number } = true ↔
      (∀ x ∈ s.queue.entries, x.number = number) ∧ r.isHeld s = false := by
  rw [isUnused, Bool.and_eq_true, Queue.isEmpty, List.isEmpty_iff, Queue.entries_remove (h s hs),
    List.filter_eq_nil_iff]
  simp [isHeld]

/-- **Leaving the other branches**, with one queue for a key and no pull request twice in a queue,
comes to this. -/
theorem leftElsewhere (h : (r.slots.map Slot.key).Nodup) (hdistinct : r.Distinct)
    (repository : String) (number : UInt64) (keep : String) :
    r.LeftElsewhere repository number keep (r.removeElsewhere repository number keep).1
      (r.removeElsewhere repository number keep).2 := by
  have hmem : ∀ branch, branch ∈ (r.removeElsewhere repository number keep).1 ↔
      branch ∈ r.branchesLeft repository number keep := fun branch => List.mem_mergeSort
  -- under a key that is meant, there is a slot, and the number is in its queue
  have hopen : ∀ branch ∈ r.branchesLeft repository number keep, ∃ s ∈ r.slots,
      r.slot? ⟨repository, branch⟩ = some s ∧ isElsewhere repository number keep s = true := by
    intro branch hbranch
    obtain ⟨s, hs, rfl⟩ := List.mem_map.mp hbranch
    obtain ⟨hs, helsewhere⟩ := List.mem_filter.mp hs
    have hslot : r.slot? s.key = some s := find?_eq_some_of_nodup h hs
    have hkey : s.key = ⟨repository, s.key.branch⟩ := by
      rw [QueueKey.mk.injEq]
      exact ⟨(isElsewhere_iff.mp helsewhere).1, rfl⟩
    exact ⟨s, hs, hkey ▸ hslot, helsewhere⟩
  have hentries : ∀ branch ∈ r.branchesLeft repository number keep,
      ((r.removeElsewhere repository number keep).2.queue ⟨repository, branch⟩).entries
        = (r.queue ⟨repository, branch⟩).entries.filter fun x => x.number != number := by
    intro branch hbranch
    obtain ⟨s, hs, hslot, helsewhere⟩ := hopen branch hbranch
    rw [queue_of_slot? hslot, ← Queue.entries_remove (hdistinct s hs), Registry.queue, queue?,
      slot?_removeElsewhere h, hslot, Option.bind_some, remains, if_pos helsewhere]
    split
    next hunused =>
      exact (List.isEmpty_iff.mp (Bool.and_eq_true_iff.mp hunused).1).symm
    next => rfl
  exact
    { sorted := by
        rw [removeElsewhere_eq h]
        exact sorted_branchesLeft h
      mem_branches := fun branch => (hmem branch).trans (mem_branchesLeft_iff h)
      gone := by
        intro branch hbranch
        rw [Queue.numbers, hentries branch ((hmem branch).mp hbranch)]
        simp
      entries := fun branch hbranch => hentries branch ((hmem branch).mp hbranch)
      unchanged := by
        intro key hkey
        rw [hmem] at hkey
        rw [slot?_removeElsewhere h]
        cases hslot : r.slot? key with
        | none => rfl
        | some s =>
          rw [Option.bind_some, remains,
            if_neg (mt (isElsewhere_of_mem_branchesLeft h hslot).mp hkey)]
      within := by
        intro key s s' hslot hslot'
        rw [slot?_removeElsewhere h, hslot, Option.bind_some, remains] at hslot'
        split at hslot'
        · split at hslot'
          · cases hslot'
          · cases hslot'
            exact ⟨rfl, Queue.within_remove s.queue number⟩
        · cases hslot'
          exact ⟨rfl, .refl _⟩
      dropped := by
        intro key s hslot
        rw [slot?_removeElsewhere h, hslot, Option.bind_some, remains, hmem,
          ← isElsewhere_of_mem_branchesLeft h hslot,
          ← isUnused_remove_iff hdistinct (List.mem_of_find?_eq_some hslot)]
        cases isElsewhere repository number keep s <;>
          cases r.isUnused { s with queue := s.queue.remove number } <;> simp
      handles := by rw [removeElsewhere_eq h]
      opened := by rw [removeElsewhere_eq h] }

/-! ### The order of the slots -/

/-- The same registry, with its slots in another order. -/
structure Reordered (r' r : Registry) : Prop where
  slots : r'.slots.Perm r.slots
  handles : r'.handles = r.handles
  opened : r'.opened = r.opened

theorem Reordered.remains_eq (h : r'.Reordered r) :
    r'.remains repository number keep = r.remains repository number keep := by
  funext s
  rw [remains, remains, isUnused, isUnused, isHeld, isHeld, h.handles]

theorem Reordered.removeElsewhere (h : r'.Reordered r) (hkeys : (r.slots.map Slot.key).Nodup)
    (repository : String) (number : UInt64) (keep : String) :
    (r'.removeElsewhere repository number keep).1 = (r.removeElsewhere repository number keep).1 ∧
      (r'.removeElsewhere repository number keep).2.Reordered
        (r.removeElsewhere repository number keep).2 := by
  have hkeys' : (r'.slots.map Slot.key).Nodup := (h.slots.map Slot.key).nodup_iff.mpr hkeys
  have hbranches : (r'.branchesLeft repository number keep).Perm
      (r.branchesLeft repository number keep) := (h.slots.filter _).map _
  rw [removeElsewhere_eq hkeys, removeElsewhere_eq hkeys', h.remains_eq]
  refine ⟨?_, h.slots.filterMap _, h.handles, h.opened⟩
  refine List.Perm.eq_of_pairwise (fun a b _ _ hab hba => ?_) (sorted_branchesLeft hkeys')
    (sorted_branchesLeft hkeys) ?_
  · exact absurd (String.lt_trans hab hba) (String.lt_irrefl a)
  · exact (List.mergeSort_perm _ _).trans (hbranches.trans (List.mergeSort_perm _ _).symm)

/-- **Leaving the other branches is exact**, and the order in which the registry lists its queues
does not matter. The registry has one queue for a key, as a map has, and no pull request waits twice
in a queue. -/
theorem removeElsewhere_exact (h : (r.slots.map Slot.key).Nodup) (hdistinct : r.Distinct)
    (repository : String) (number : UInt64) (keep : String) :
    r.LeftElsewhere repository number keep (r.removeElsewhere repository number keep).1
        (r.removeElsewhere repository number keep).2 ∧
      ∀ r' : Registry, r'.Reordered r →
        (r'.removeElsewhere repository number keep).1
            = (r.removeElsewhere repository number keep).1 ∧
          (r'.removeElsewhere repository number keep).2.Reordered
            (r.removeElsewhere repository number keep).2 :=
  ⟨leftElsewhere h hdistinct repository number keep,
    fun _ hr' => hr'.removeElsewhere h repository number keep⟩

end Registry

/-- A pull request that targets some branch enters its queue. -/
def Still.entering (number : UInt64) (branch : String) : RegistryCall :=
  .insert ⟨"acme/widgets", branch⟩
    { newEntry number {} 0 with pull := { pull number with baseRef := branch } }

/-- A pull request waits for four branches. At one of them another one waits too, and one of the
queues is held. -/
def Still.everywhere : Registry :=
  ({} : Registry).serveCalls
    [entering 7 "release", entering 7 "next", entering 9 "next", entering 7 "main",
      .hold "mine" ⟨"acme/widgets", "dev"⟩, entering 7 "dev"]

/-- It leaves all but one. The queue that is held stays, and so does the one with somebody else in
it. Read from the other end, the registry gives the same branches. -/
theorem Registry.leaves_all_but_release :
    let r := Still.everywhere
    let after := r.removeElsewhere "acme/widgets" 7 "release"
    (r.slots.map Slot.key).Nodup ∧ r.Distinct ∧
      r.LeftElsewhere "acme/widgets" 7 "release" after.1 after.2 ∧
      (removeElsewhere { r with slots := r.slots.reverse } "acme/widgets" 7 "release").1
        = after.1 ∧
      after.2.slots.map (fun s => (s.key.branch, s.queue.numbers))
        = [("release", [7]), ("next", [9]), ("dev", [])] := by
  intro r after
  have hkeys : (r.slots.map Slot.key).Nodup := by decide +kernel
  have hdistinct : r.Distinct := by decide +kernel
  obtain ⟨hleft, horder⟩ :=
    Registry.removeElsewhere_exact hkeys hdistinct "acme/widgets" 7 "release"
  have hreverse : Registry.Reordered { r with slots := r.slots.reverse } r :=
    ⟨List.reverse_perm r.slots, rfl, rfl⟩
  exact ⟨hkeys, hdistinct, hleft, (horder _ hreverse).1, by decide +kernel⟩

end MergeTrain
