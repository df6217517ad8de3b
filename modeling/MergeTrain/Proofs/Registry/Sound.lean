import MergeTrain.Proofs.Keyed
import MergeTrain.Proofs.Registry.Others
import MergeTrain.Proofs.Train.Sweep

/-!
# Sound registries

What holds of the queues together, from an empty registry on: every queue is sound and bears the
labels of the key it is kept under, its entries belong there, and no pull request waits on two
branches of its repository.

Nearly every change only lets entries out, and such changes keep all of this for one reason, which
is `Registry.Sound.within`. Dropping an idle queue starts it anew, and is looked at by itself. The
one change that lets an entry in is safe because the pull request has left the other branches
before: it is then *settled* on its target, and stays so while only that queue is changed.

## Main definitions

* `Registry.Within` — entries may have left the queues, and nothing else has changed.
* `Queue.SoundAt`, `Registry.Sound` — the invariant.
* `Registry.Settled` — a pull request waits on no branch but its target.

## Main results

* `Registry.Sound.within`, `Registry.Sound.prune`, `Registry.Sound.follow`, `Registry.Sound.enter`
  — the changes keep the invariant.
* `Registry.settled_follow` — a pull request that follows its target branch is settled.
-/

namespace MergeTrain

/-! ### Queues -/

namespace Queue

variable {q q' : Queue} {key : QueueKey}

/-- A queue as it is under its key: sound, with the labels of the key, and with entries that belong
there. -/
structure SoundAt (q : Queue) (key : QueueKey) : Prop where
  sound : q.Sound
  repository : q.repository = key.repository
  branch : q.branch = key.branch
  here : ∀ x ∈ q.entries, x.pull.queueKey = key

theorem soundAt_empty (key : QueueKey) :
    SoundAt { repository := key.repository, branch := key.branch } key :=
  ⟨sound_empty key.repository key.branch, rfl, rfl, by simp⟩

theorem SoundAt.within (h : q.SoundAt key) (hw : q'.Within q) : q'.SoundAt key where
  sound :=
    { sorted := h.sound.sorted.sublist hw.entries
      numbers := h.sound.numbers.sublist (hw.entries.map _)
      arrivals := h.sound.arrivals.sublist (hw.entries.map _)
      fresh := by
        intro x hx
        rw [hw.arrivals]
        exact h.sound.fresh x (hw.entries.subset hx)
      targets := by
        intro x hx
        rw [hw.branch]
        exact h.sound.targets x (hw.entries.subset hx) }
  repository := hw.repository.trans h.repository
  branch := hw.branch.trans h.branch
  here := fun x hx => h.here x (hw.entries.subset hx)

/-- A queue that its own pull requests enter, or move in, stays as it should be. -/
theorem SoundAt.enqueued (h : q.SoundAt key) {entry : QueueEntry}
    (hentry : entry.pull.queueKey = key) (he : Train.enqueued entry q = .ok q') :
    q'.SoundAt key ∧ ∀ m ∈ q'.numbers, m = entry.number ∨ m ∈ q.numbers := by
  obtain ⟨hb, ⟨hn, rfl⟩ | ⟨x, hx, rfl⟩⟩ := Train.enqueued_eq_ok_iff.mp he
  · have hperm := place_perm { entry with arrival := q.arrivals } q.entries
    refine ⟨⟨h.sound.taking hb hn, h.repository, h.branch, ?_⟩, ?_⟩
    · intro y hy
      rcases List.mem_cons.mp (hperm.mem_iff.mp hy) with rfl | hy
      · exact hentry
      · exact h.here y hy
    · intro m hm
      exact List.mem_cons.mp ((hperm.map QueueEntry.number).mem_iff.mp hm)
  · obtain ⟨hmem, hnumber⟩ := mem_of_get? hx
    have hperm := place_perm { x with priority := entry.priority, config := entry.config }
      (q.remove x.number).entries
    have hrest := within_remove q x.number
    refine ⟨⟨h.sound.moving hx entry.priority entry.config, h.repository, h.branch, ?_⟩, ?_⟩
    · intro y hy
      rcases List.mem_cons.mp (hperm.mem_iff.mp hy) with rfl | hy
      · exact h.here x hmem
      · exact h.here y (hrest.entries.subset hy)
    · intro m hm
      rcases List.mem_cons.mp ((hperm.map QueueEntry.number).mem_iff.mp hm) with rfl | hm
      · exact Or.inl hnumber
      · exact Or.inr (hrest.numbers hm)

end Queue

/-! ### Registries -/

namespace Registry

variable {r r' : Registry} {pull : PullRef} {key k : QueueKey} {change : Queue → Queue}

/-- Entries may have left the queues, and nothing else has changed. -/
structure Within (r' r : Registry) : Prop where
  keys : r'.slots.map Slot.key = r.slots.map Slot.key
  queues : ∀ k, (r'.queue k).Within (r.queue k)

theorem keys_update (r : Registry) (key : QueueKey) (change : Queue → Queue) :
    (r.update key change).slots.map Slot.key = r.slots.map Slot.key := by
  rw [update, List.map_map]
  refine List.map_congr_left fun s _ => ?_
  rw [Function.comp_apply]
  split <;> rfl

theorem queue_update_of_ne (h : k ≠ key) : (r.update key change).queue k = r.queue k := by
  rw [Registry.queue, queue?_update_of_ne h, Registry.queue]

theorem within_update (h : (change (r.queue key)).Within (r.queue key)) :
    (r.update key change).Within r where
  keys := keys_update r key change
  queues := by
    intro k
    by_cases hk : k = key
    · subst hk
      cases hq : r.queue? k with
      | none =>
        rw [Registry.queue, queue?_update_self, hq, Registry.queue, hq]
        exact .refl _
      | some q =>
        rw [queue_update_self (by simp [hq])]
        exact h
    · rw [queue_update_of_ne hk]
      exact .refl _

/-- A queue in which somebody waits is open. -/
theorem open_of_contains {n : UInt64} (h : (r.queue key).contains n = true) : r.open key = r := by
  rw [Registry.queue, queue?] at h
  cases hs : r.slot? key with
  | none =>
    rw [hs] at h
    cases h
  | some s => rw [Registry.open, hs]

/-- A queue in which somebody waits is not dropped. -/
theorem prune_of_contains {n : UInt64} (h : (r.queue key).contains n = true) :
    r.prune key = r := by
  have hidle : r.isIdle key = false := by
    rw [isIdle]
    rw [Registry.queue, queue?] at h
    cases hs : r.slot? key with
    | none => rfl
    | some s =>
      rw [hs] at h
      have hne : s.queue.entries ≠ [] := by
        intro hnil
        simp [Queue.contains, hnil] at h
      simp [Queue.isEmpty, hne]
  rw [prune_eq, hidle]
  rfl

theorem within_leave (r : Registry) (pull : PullRef) : (r.leave pull).Within r :=
  within_update (Queue.within_remove _ _)

theorem within_stripped (r : Registry) (pull : PullRef) : (r.stripped pull).Within r where
  keys := by
    rw [stripped, List.map_map]
    refine List.map_congr_left fun s _ => ?_
    rw [Function.comp_apply]
    split <;> rfl
  queues := by
    intro k
    rw [Registry.queue, queue?_stripped, Registry.queue]
    cases r.queue? k with
    | none => exact .refl _
    | some q =>
      rw [Option.map_some, Option.getD_some, Option.getD_some]
      split
      · exact Queue.within_remove q pull.number
      · exact .refl q

/-- A queue that was dropped is found as a new one. -/
theorem queue_prune (r : Registry) (key k : QueueKey) :
    (r.prune key).queue k = r.queue k ∨
      (r.prune key).queue k = { repository := k.repository, branch := k.branch } := by
  by_cases hk : k = key
  · subst hk
    rw [prune_eq]
    split
    · exact Or.inr (by rw [Registry.queue, queue?, slot?_without_self]; rfl)
    · exact Or.inl rfl
  · exact Or.inl (by rw [Registry.queue, queue?_prune_of_ne hk, Registry.queue])

/-! ### The invariant -/

/-- What holds of every registry that operations have built. -/
structure Sound (r : Registry) : Prop where
  /-- There is one queue for a key. -/
  keys : (r.slots.map Slot.key).Nodup
  queues : ∀ key, (r.queue key).SoundAt key
  /-- No pull request waits on two branches of its repository. -/
  once : ∀ key key', key.repository = key'.repository → ∀ n ∈ (r.queue key).numbers,
    n ∈ (r.queue key').numbers → key = key'

theorem sound_empty : Sound {} :=
  ⟨List.nodup_nil, fun key => Queue.soundAt_empty key, fun _ _ _ _ hn => absurd hn List.not_mem_nil⟩

theorem Sound.nodup_numbers (h : r.Sound) (key : QueueKey) : (r.queue key).numbers.Nodup :=
  (h.queues key).sound.numbers

/-- A slot is the one that is found under its key. -/
theorem Sound.slot?_key (h : r.Sound) {s : Slot} (hs : s ∈ r.slots) : r.slot? s.key = some s :=
  find?_eq_some_of_nodup h.keys hs

/-- The queue of a slot is the one that is found under its key. -/
theorem Sound.queue_key (h : r.Sound) {s : Slot} (hs : s ∈ r.slots) : r.queue s.key = s.queue := by
  rw [Registry.queue, queue?, h.slot?_key hs]
  rfl

theorem Sound.distinct (h : r.Sound) : r.Distinct := by
  intro s hs
  rw [← h.queue_key hs]
  exact h.nodup_numbers s.key

/-- A queue that is set to what it is. -/
theorem Sound.update_queue (h : r.Sound) (key : QueueKey) :
    (r.update key fun _ => r.queue key) = r := by
  have hsame : ∀ s ∈ r.slots, (if s.key = key then { s with queue := r.queue key } else s) = s := by
    intro s hs
    split
    next hkey => rw [← hkey, h.queue_key hs]
    next => rfl
  rw [update, List.map_congr_left hsame, List.map_id']

/-- **What only lets entries out keeps the invariant.** -/
theorem Sound.within (h : r.Sound) (hw : r'.Within r) : r'.Sound where
  keys := by
    rw [hw.keys]
    exact h.keys
  queues := fun key => (h.queues key).within (hw.queues key)
  once := by
    intro key key' hrepository n hn hn'
    exact h.once key key' hrepository n ((hw.queues key).numbers hn) ((hw.queues key').numbers hn')

theorem Sound.leave (h : r.Sound) (pull : PullRef) : (r.leave pull).Sound :=
  h.within (within_leave r pull)

theorem Sound.open (h : r.Sound) (key : QueueKey) : (r.open key).Sound where
  keys := by
    rw [Registry.open]
    cases hs : r.slot? key with
    | some s => exact h.keys
    | none =>
      have hnew : key ∉ r.slots.map Slot.key := by
        intro hmem
        obtain ⟨s, hs', hkey⟩ := List.mem_map.mp hmem
        exact List.find?_eq_none.mp hs s hs' (by simp [hkey])
      rw [List.map_append, List.map_singleton]
      refine List.nodup_append.mpr ⟨h.keys, List.nodup_singleton key, ?_⟩
      rintro k hk k' hkey rfl
      have hkk : k = key := List.mem_singleton.mp hkey
      exact hnew (hkk ▸ hk)
  queues := by
    intro k
    rw [queue_open]
    exact h.queues k
  once := by
    intro k k'
    rw [queue_open, queue_open]
    exact h.once k k'

theorem numbers_queue_prune (r : Registry) (key k : QueueKey) :
    ((r.prune key).queue k).numbers = (r.queue k).numbers := by
  rw [Queue.numbers, entries_queue_prune, ← Queue.numbers]

theorem Sound.prune (h : r.Sound) (key : QueueKey) : (r.prune key).Sound where
  keys := by
    rw [prune_eq]
    split
    · exact h.keys.sublist (List.filter_sublist.map _)
    · exact h.keys
  queues := by
    intro k
    rcases queue_prune r key k with hq | hq
    · rw [hq]
      exact h.queues k
    · rw [hq]
      exact Queue.soundAt_empty k
  once := by
    intro k k'
    rw [numbers_queue_prune, numbers_queue_prune]
    exact h.once k k'

theorem Sound.follow (h : r.Sound) (pull : PullRef) : (r.follow pull).Sound :=
  follow_induction (h.within (within_stripped r pull)) fun _ key h => h.prune key

/-! ### Settling on a branch -/

/-- A pull request waits on no branch of its repository but the one that it targets. -/
def Settled (r : Registry) (pull : PullRef) : Prop :=
  ∀ key, key.repository = pull.repository → pull.number ∈ (r.queue key).numbers →
    key = pull.queueKey

/-- To stay settled, it is enough not to enter the other queues. -/
theorem Settled.mono (h : r.Settled pull)
    (hw : ∀ k, k ≠ pull.queueKey → (r'.queue k).numbers ⊆ (r.queue k).numbers) :
    r'.Settled pull := by
  intro k hrepository hn
  by_contra hk
  exact hk (h k hrepository (hw k hk hn))

theorem Settled.update (h : r.Settled pull) (change : Queue → Queue) :
    (r.update pull.queueKey change).Settled pull :=
  h.mono fun k hk => by
    rw [queue_update_of_ne hk]
    exact List.Subset.refl _

theorem Settled.leave (h : r.Settled pull) : (r.leave pull).Settled pull :=
  h.update _

theorem Settled.open (h : r.Settled pull) (key : QueueKey) : (r.open key).Settled pull :=
  h.mono fun k _ => by
    rw [queue_open]
    exact List.Subset.refl _

theorem Settled.prune (h : r.Settled pull) (key : QueueKey) : (r.prune key).Settled pull :=
  h.mono fun k _ => by
    rw [numbers_queue_prune]
    exact List.Subset.refl _

/-- **A pull request that follows its target branch is settled there**, wherever it was before. -/
theorem settled_follow (h : ∀ key, (r.queue key).numbers.Nodup) (pull : PullRef) :
    (r.follow pull).Settled pull := by
  intro key hrepository hn
  have hbranch : key.branch = pull.baseRef := by
    by_contra hbranch
    rw [Queue.numbers, entries_queue_follow, if_pos ⟨hrepository, hbranch⟩] at hn
    exact Queue.not_mem_numbers_remove (h key) pull.number hn
  obtain ⟨repository, branch⟩ := key
  subst hrepository hbranch
  rfl

/-- A pull request that waits on no other branch has none to leave. -/
theorem Settled.follow_eq (h : r.Settled pull) (hr : r.Sound) : r.follow pull = r := by
  have hnowhere : ∀ s ∈ r.slots,
      isElsewhere pull.repository pull.number pull.baseRef s = false := by
    intro s hs
    by_contra helsewhere
    simp only [isElsewhere, Bool.not_eq_false, Bool.and_eq_true, beq_iff_eq, bne_iff_ne,
      Queue.contains_iff] at helsewhere
    obtain ⟨⟨hrepository, hbranch⟩, hn⟩ := helsewhere
    rw [← hr.queue_key hs] at hn
    exact hbranch (congrArg QueueKey.branch (h s.key hrepository hn))
  have hstrays : r.strays pull = [] := by
    rw [strays, List.filter_eq_nil_iff.mpr fun s hs => by simp [hnowhere s hs]]
    rfl
  have hstripped : r.stripped pull = r := by
    rw [stripped, List.map_congr_left fun s hs => by rw [if_neg (by simp [hnowhere s hs])],
      List.map_id']
  rw [Registry.follow_eq, hstrays, hstripped, List.foldl_nil]

/-- **What lets an entry in.** A settled pull request that enters the queue of its target, or moves
in it, keeps the invariant. -/
theorem Sound.enter (h : r.Sound) (hsettled : r.Settled pull) {entry : QueueEntry} {queue : Queue}
    (hentry : entry.pull = pull) (hopen : (r.queue? pull.queueKey).isSome)
    (he : Train.enqueued entry (r.queue pull.queueKey) = .ok queue) :
    (r.update pull.queueKey fun _ => queue).Sound := by
  subst hentry
  obtain ⟨hat, hnumbers⟩ := (h.queues entry.pull.queueKey).enqueued rfl he
  have hown : (r.update entry.pull.queueKey fun _ => queue).queue entry.pull.queueKey = queue :=
    queue_update_self hopen _
  -- the queue of the target may hold a new number, and that number is in no other queue
  have hcross : ∀ k, k ≠ entry.pull.queueKey → k.repository = entry.pull.queueKey.repository →
      ∀ n ∈ queue.numbers, n ∉ (r.queue k).numbers := by
    intro k hk hrepository n hn hn'
    rcases hnumbers n hn with rfl | hold
    · exact hk (hsettled k hrepository hn')
    · exact hk (h.once k _ hrepository n hn' hold)
  refine ⟨?_, fun k => ?_, fun k k' hrepository n hn hn' => ?_⟩
  · rw [keys_update]
    exact h.keys
  · by_cases hk : k = entry.pull.queueKey
    · rw [hk, hown]
      exact hat
    · rw [queue_update_of_ne hk]
      exact h.queues k
  · by_cases hk : k = entry.pull.queueKey <;> by_cases hk' : k' = entry.pull.queueKey
    · rw [hk, hk']
    · rw [hk, hown] at hn
      rw [queue_update_of_ne hk'] at hn'
      exact absurd hn' (hcross k' hk' (hk ▸ hrepository.symm) n hn)
    · rw [queue_update_of_ne hk] at hn
      rw [hk', hown] at hn'
      exact absurd hn (hcross k hk (hk' ▸ hrepository) n hn')
    · rw [queue_update_of_ne hk] at hn
      rw [queue_update_of_ne hk'] at hn'
      exact h.once k k' hrepository n hn hn'

end Registry

end MergeTrain
