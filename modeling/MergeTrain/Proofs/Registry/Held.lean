import MergeTrain.Proofs.Keyed
import MergeTrain.Proofs.Queue.Ledger
import MergeTrain.Proofs.Registry.Cells
import MergeTrain.Proofs.Train.Still

/-!
# Queues that are held

A queue may be looked up and kept, and the registry may drop queues meanwhile. If it dropped one
that is kept and opened another one for the same branch later, the branch would have two queues, and
what enters the one would not be found in the other. What rules this out is the tie between handles
and queues: a handle bears the serial number of its queue, no two queues share one, and a queue is
dropped only if no handle bears its number. So the queue of a handle is open as long as the handle
is held, and it is the one that a lookup finds.

Everything here is about any calls in any order, on registries that were empty at first. Handles are
taken under names and there may be several on one queue.

## Main definitions

* `RegistryCall`, `Registry.serve` — what a registry and its queues are asked, with their answers.
* `Registry.serveCalls` — calls one after the other.
* `RegistryCall.TakesOut` — a call that lets a pull request out of a queue.
* `Registry.Tied` — the tie between handles and queues.

## Main results

* `Registry.Tied.serve` — every call keeps the tie.
* `Registry.Tied.atHandle_eq` — a call through a handle is a call through a lookup.
* `Registry.Tied.isIdle_iff` — a queue is dropped if it is empty and nobody holds one for its key.
* `Registry.Tied.mem_entries_serve` — an entry stays unless a call takes it out.
* `Registry.held_queue_is_found` — all of this, over any calls.
-/

namespace MergeTrain

/-- What is asked of a registry, or of a queue that it has given out. -/
inductive RegistryCall where
  | lookup (key : QueueKey)
  | hold (name : String) (key : QueueKey)
  | release (name : String)
  /-- Enter the queue that is found under a key. -/
  | insert (key : QueueKey) (entry : QueueEntry)
  /-- Leave the queue that is found under a key. -/
  | remove (key : QueueKey) (number : UInt64)
  /-- Enter the queue that a handle is on. -/
  | insertHeld (name : String) (entry : QueueEntry)
  /-- Leave the queue that a handle is on. -/
  | removeHeld (name : String) (number : UInt64)
  | prune (key : QueueKey)
  | removeElsewhere (repository : String) (number : UInt64) (keep : String)
  | branches (repository : String)

/-- What a call is answered with. -/
inductive RegistryReply where
  | queue (found : Queue)
  | taken
  /-- Whether there was something to drop. -/
  | dropped (was : Bool)
  /-- What the queue has answered. -/
  | queued (reply : Reply)
  /-- There is no handle of that name. -/
  | noHandle
  | branches (names : List String)

namespace Registry

variable {r : Registry} {key k : QueueKey} {name : String} {handle : Handle}

/-- Call the queue that is found under a key. -/
def atKey (r : Registry) (key : QueueKey) (call : QueueCall) : RegistryReply × Registry :=
  let r := r.open key
  let served := (r.queue key).serve call
  (.queued served.1, r.update key fun _ => served.2)

/-- Call the queue that a handle is on. -/
def atHandle (r : Registry) (name : String) (call : QueueCall) : RegistryReply × Registry :=
  match r.handle? name with
  | none => (.noHandle, r)
  | some handle =>
    match r.slotOf? handle with
    | none => (.noHandle, r)
    | some s =>
      let served := s.queue.serve call
      (.queued served.1, r.updateHeld handle fun _ => served.2)

/-- Make a call. -/
def serve (r : Registry) : RegistryCall → RegistryReply × Registry
  | .lookup key => (.queue ((r.open key).queue key), r.open key)
  | .hold name key => (.taken, r.hold name key)
  | .release name => (.dropped (r.handle? name).isSome, r.release name)
  | .insert key entry => r.atKey key (.insert entry)
  | .remove key number => r.atKey key (.remove number)
  | .insertHeld name entry => r.atHandle name (.insert entry)
  | .removeHeld name number => r.atHandle name (.remove number)
  | .prune key => (.dropped (r.isIdle key), r.prune key)
  | .removeElsewhere repository number keep =>
    let left := r.removeElsewhere repository number keep
    (.branches left.1, left.2)
  | .branches repository => (.branches (r.branches repository), r)

/-- What is left when calls are made one after the other. -/
def serveCalls (r : Registry) (calls : List RegistryCall) : Registry :=
  calls.foldl (fun r call => (r.serve call).2) r

end Registry

/-- A call lets a pull request out of the queue of a key: it names both, or it names the pull
request and keeps another branch of the repository. -/
def RegistryCall.TakesOut (call : RegistryCall) (r : Registry) (key : QueueKey) (number : UInt64) :
    Prop :=
  match call with
  | .remove k n => k = key ∧ n = number
  | .removeHeld name n => (∃ handle, r.handle? name = some handle ∧ handle.key = key) ∧ n = number
  | .removeElsewhere repository n keep =>
    key.repository = repository ∧ key.branch ≠ keep ∧ n = number
  | _ => False

namespace Registry

variable {r r' : Registry} {key k : QueueKey} {name : String} {handle : Handle}

/-! ### The tie between handles and queues -/

/-- Every handle is on an open queue of its key, and every queue can be told by its key and by its
serial number. -/
structure Tied (r : Registry) : Prop where
  keys : (r.slots.map Slot.key).Nodup
  serials : (r.slots.map Slot.serial).Nodup
  issued : r.Issued
  names : (r.handles.map Prod.fst).Nodup
  held : ∀ h ∈ r.handles, ∃ s ∈ r.slots, s.serial = h.2.serial ∧ s.key = h.2.key

theorem tied_empty : Tied {} :=
  ⟨List.nodup_nil, List.nodup_nil, issued_empty, List.nodup_nil,
    fun _ hh => absurd hh List.not_mem_nil⟩

/-! ### Keeping the tie -/

/-- A change that leaves keys and serial numbers alone keeps the tie. -/
theorem Tied.map (h : r.Tied) {f : Slot → Slot} (hkey : ∀ s, (f s).key = s.key)
    (hserial : ∀ s, (f s).serial = s.serial) :
    ({ r with slots := r.slots.map f } : Registry).Tied where
  keys := by
    have hsame : (r.slots.map f).map Slot.key = r.slots.map Slot.key := by
      rw [List.map_map]
      exact List.map_congr_left fun s _ => hkey s
    exact hsame ▸ h.keys
  serials := by
    have hsame : (r.slots.map f).map Slot.serial = r.slots.map Slot.serial := by
      rw [List.map_map]
      exact List.map_congr_left fun s _ => hserial s
    exact hsame ▸ h.serials
  issued := by
    refine h.issued.of_serials rfl rfl fun s' hs' => ?_
    obtain ⟨s, hs, rfl⟩ := List.mem_map.mp hs'
    exact ⟨s, hs, hserial s⟩
  names := h.names
  held := by
    intro handle hh
    obtain ⟨s, hs, hs'⟩ := h.held handle hh
    exact ⟨f s, List.mem_map_of_mem hs, by rw [hserial, hkey]; exact hs'⟩

theorem Tied.update (h : r.Tied) (key : QueueKey) (change : Queue → Queue) :
    (r.update key change).Tied :=
  h.map (fun s => by split <;> rfl) fun s => by split <;> rfl

theorem Tied.open (h : r.Tied) (key : QueueKey) : (r.open key).Tied := by
  have hissued := h.issued.open key
  rw [Registry.open] at hissued ⊢
  cases hs : r.slot? key with
  | some s => exact h
  | none =>
    rw [hs] at hissued
    -- the key is new, and so is the serial number
    have hnew : ∀ s ∈ r.slots, s.key ≠ key := by
      intro s hmem hkey
      exact List.find?_eq_none.mp hs s hmem (by simp [hkey])
    have hfresh : ∀ s ∈ r.slots, s.serial ≠ r.opened := fun s hmem =>
      Nat.ne_of_lt (h.issued.slots s hmem)
    refine ⟨?_, ?_, hissued, h.names, fun handle hh => ?_⟩
    · simpa [List.nodup_append, h.keys] using hnew
    · simpa [List.nodup_append, h.serials] using hfresh
    · obtain ⟨s, hmem, hs'⟩ := h.held handle hh
      exact ⟨s, List.mem_append_left _ hmem, hs'⟩

/-- A slot is found under its key. -/
theorem Tied.slot?_key (h : r.Tied) {s : Slot} (hs : s ∈ r.slots) : r.slot? s.key = some s :=
  find?_eq_some_of_nodup h.keys hs

/-- A queue that is dropped is one that no handle is on. -/
theorem Tied.prune (h : r.Tied) (key : QueueKey) : (r.prune key).Tied := by
  have hissued := h.issued.prune key
  rw [prune_eq] at hissued ⊢
  split
  next hidle =>
    rw [if_pos hidle] at hissued
    refine ⟨h.keys.sublist (List.filter_sublist.map _),
      h.serials.sublist (List.filter_sublist.map _), hissued, h.names, fun handle hh => ?_⟩
    obtain ⟨s, hs, hserial, hkey⟩ := h.held handle hh
    refine ⟨s, List.mem_filter.mpr ⟨hs, ?_⟩, hserial, hkey⟩
    -- the queue of a handle is held, and an idle one is not
    by_contra hdropped
    have hsame : s.key = key := by simpa using hdropped
    have hheld : r.isHeld s = true :=
      List.any_eq_true.mpr ⟨handle, hh, by simp [hserial]⟩
    rw [isIdle, ← hsame, h.slot?_key hs] at hidle
    simp [hheld] at hidle
  next => exact h

theorem Tied.release (h : r.Tied) (name : String) : (r.release name).Tied where
  keys := h.keys
  serials := h.serials
  issued := h.issued.release name
  names := h.names.sublist (List.filter_sublist.map _)
  held := fun handle hh => h.held handle (List.mem_of_mem_filter hh)

theorem Tied.hold (h : r.Tied) (name : String) (key : QueueKey) : (r.hold name key).Tied := by
  have hopen := h.open key
  have hissued := h.issued.hold name key
  rw [Registry.hold] at hissued ⊢
  cases hs : (r.open key).slot? key with
  | none => exact hopen
  | some s =>
    rw [hs] at hissued
    have hreleased := hopen.release name
    refine ⟨hreleased.keys, hreleased.serials, hissued, ?_, fun handle hh => ?_⟩
    · -- an earlier handle of the name has been dropped
      have hname : ∀ handle ∈ ((r.open key).release name).handles, handle.1 ≠ name :=
        fun handle hh => bne_iff_ne.mp (List.mem_filter.mp hh).2
      simpa [List.nodup_append, hreleased.names] using hname
    · rcases List.mem_append.mp hh with hh | hh
      · exact hreleased.held handle hh
      · rw [List.mem_singleton.mp hh]
        exact ⟨s, List.mem_of_find?_eq_some hs, rfl, key_of_slot? hs⟩

theorem Tied.removeElsewhere (h : r.Tied) (repository : String) (number : UInt64)
    (keep : String) : (r.removeElsewhere repository number keep).2.Tied :=
  removeElsewhere_induction (h.map (fun s => by split <;> rfl) fun s => by split <;> rfl)
    fun _ key h => h.prune key

theorem Tied.atKey (h : r.Tied) (key : QueueKey) (call : QueueCall) :
    (r.atKey key call).2.Tied :=
  (h.open key).update key fun _ => (((r.open key).queue key).serve call).2

theorem Tied.atHandle (h : r.Tied) (name : String) (call : QueueCall) :
    (r.atHandle name call).2.Tied := by
  rw [Registry.atHandle]
  split
  · exact h
  · split
    · exact h
    · exact h.map (fun s => by split <;> rfl) fun s => by split <;> rfl

/-- **Every call keeps the tie between handles and queues.** -/
theorem Tied.serve (h : r.Tied) (call : RegistryCall) : (r.serve call).2.Tied := by
  cases call with
  | lookup key => exact h.open key
  | hold name key => exact h.hold name key
  | release name => exact h.release name
  | insert key | remove key => exact h.atKey key _
  | insertHeld name | removeHeld name => exact h.atHandle name _
  | prune key => exact h.prune key
  | removeElsewhere repository number keep => exact h.removeElsewhere repository number keep
  | branches => exact h

theorem Tied.serveCalls (h : r.Tied) (calls : List RegistryCall) : (r.serveCalls calls).Tied := by
  induction calls generalizing r with
  | nil => exact h
  | cons call calls ih => exact ih (h.serve call)

/-! ### What the tie is good for -/

theorem Tied.handle?_eq_some_iff (h : r.Tied) :
    r.handle? name = some handle ↔ (name, handle) ∈ r.handles :=
  lookup_eq_some_iff_mem h.names

/-- **The queue of a handle is the one that a lookup finds.** -/
theorem Tied.exists_slot (h : r.Tied) (hh : (name, handle) ∈ r.handles) :
    ∃ s ∈ r.slots, r.slotOf? handle = some s ∧ s.serial = handle.serial ∧ s.key = handle.key := by
  obtain ⟨s, hs, hserial, hkey⟩ := h.held _ hh
  refine ⟨s, hs, ?_, hserial, hkey⟩
  have hfound : r.slots.find? (fun s' => s'.serial == s.serial) = some s :=
    find?_eq_some_of_nodup h.serials hs
  rwa [hserial] at hfound

/-- To change the queue of a handle is to change the queue of its key. -/
theorem Tied.updateHeld_eq (h : r.Tied) {s : Slot} (hs : s ∈ r.slots)
    (hserial : s.serial = handle.serial) (change : Queue → Queue) :
    r.updateHeld handle change = r.update s.key change := by
  have hsame : ∀ s' ∈ r.slots, s'.serial = handle.serial ↔ s'.key = s.key := by
    intro s' hs'
    constructor
    · intro heq
      rw [List.inj_on_of_nodup_map h.serials hs' hs (heq.trans hserial.symm)]
    · intro heq
      rw [List.inj_on_of_nodup_map h.keys hs' hs heq, hserial]
  rw [updateHeld, Registry.update]
  congr 1
  exact List.map_congr_left fun s' hs' => by simp only [hsame s' hs']

/-- **A call through a handle is a call through a lookup.** -/
theorem Tied.atHandle_eq (h : r.Tied) (hh : (name, handle) ∈ r.handles) (call : QueueCall) :
    r.atHandle name call = r.atKey handle.key call := by
  obtain ⟨s, hs, hslot, hserial, hkey⟩ := h.exists_slot hh
  have hfound : r.slot? handle.key = some s := hkey ▸ h.slot?_key hs
  have hopen : r.open handle.key = r := by rw [Registry.open, hfound]
  have hqueue : r.queue handle.key = s.queue := by rw [Registry.queue, queue?, hfound]; rfl
  have hhandle : r.handle? name = some handle := h.handle?_eq_some_iff.mpr hh
  simp only [Registry.atHandle, hhandle, hslot, Registry.atKey, hopen, hqueue,
    h.updateHeld_eq hs hserial, hkey]

/-- The queue of a key is empty, and nobody holds one for it. -/
def Unused (r : Registry) (key : QueueKey) : Prop :=
  (∃ q, r.queue? key = some q ∧ q.entries = []) ∧ ∀ h ∈ r.handles, h.2.key ≠ key

/-- A queue is held exactly if there is a handle for its key. -/
theorem Tied.isHeld_iff (h : r.Tied) {s : Slot} (hs : s ∈ r.slots) :
    r.isHeld s = true ↔ ∃ handle ∈ r.handles, handle.2.key = s.key := by
  rw [isHeld, List.any_eq_true]
  simp only [beq_iff_eq]
  constructor
  · rintro ⟨handle, hh, hserial⟩
    obtain ⟨s', hs', hserial', hkey⟩ := h.held handle hh
    rw [List.inj_on_of_nodup_map h.serials hs' hs (hserial'.trans hserial)] at hkey
    exact ⟨handle, hh, hkey.symm⟩
  · rintro ⟨handle, hh, hkey⟩
    obtain ⟨s', hs', hserial, hkey'⟩ := h.held handle hh
    rw [List.inj_on_of_nodup_map h.keys hs' hs (hkey'.trans hkey)] at hserial
    exact ⟨handle, hh, hserial.symm⟩

/-- **A queue is dropped exactly if it is empty and nobody holds one for its key.** -/
theorem Tied.isIdle_iff (h : r.Tied) (key : QueueKey) : r.isIdle key = true ↔ r.Unused key := by
  rw [isIdle, Unused, queue?]
  cases hs : r.slot? key with
  | none => simp
  | some s =>
    have hmem : s ∈ r.slots := List.mem_of_find?_eq_some hs
    have hkey : s.key = key := key_of_slot? hs
    have hheld : r.isHeld s = false ↔ ∀ handle ∈ r.handles, handle.2.key ≠ key := by
      rw [← hkey, Bool.eq_false_iff, Ne, h.isHeld_iff hmem]
      simp
    simp [Queue.isEmpty, hheld]

/-! ### Entries stay -/

theorem queue_atKey_self (r : Registry) (key : QueueKey) (call : QueueCall) :
    (r.atKey key call).2.queue key = ((r.queue key).serve call).2 := by
  rw [Registry.atKey, queue_update_self (by rw [queue?_open_self]; rfl), queue_open]

theorem queue_atKey_of_ne (h : k ≠ key) (call : QueueCall) :
    (r.atKey key call).2.queue k = r.queue k := by
  rw [Registry.atKey, queue_update_of_ne h, queue_open]

/-- A call to a queue is answered by the queue that is found. -/
theorem reply_atKey (r : Registry) (key : QueueKey) (call : QueueCall) :
    (r.atKey key call).1 = .queued ((r.queue key).serve call).1 := by
  rw [Registry.atKey, queue_open]

/-- An entry that a queue takes in is there, with the arrival that the queue gives it. -/
theorem mem_entries_of_insert {q : Queue} {e : QueueEntry}
    (h : (q.serve (.insert e)).1 = .ok none) :
    { e with arrival := q.arrivals } ∈ (q.serve (.insert e)).2.entries := by
  obtain ⟨hbranch, hnew⟩ := Queue.reply_insert_eq_ok_iff.mp h
  have htaken := Queue.insert_eq_ok_iff.mpr ⟨hbranch, hnew, rfl⟩
  rw [Queue.serve, htaken]
  exact (Queue.place_perm _ _).mem_iff.mpr List.mem_cons_self

/-- A queue keeps an entry unless it is asked to let it out. -/
theorem mem_entries_serve_insert {q : Queue} {x : QueueEntry} (hx : x ∈ q.entries)
    (e : QueueEntry) : x ∈ (q.serve (.insert e)).2.entries := by
  rw [Queue.serve]
  cases hi : q.insert e with
  | error error => exact hx
  | ok q' =>
    obtain ⟨-, -, rfl⟩ := Queue.insert_eq_ok_iff.mp hi
    exact (Queue.place_perm _ _).mem_iff.mpr (List.mem_cons_of_mem _ hx)

theorem mem_entries_remove {q : Queue} {x : QueueEntry} {n : UInt64} (hx : x ∈ q.entries)
    (hn : n ≠ x.number) : x ∈ (q.remove n).entries :=
  (List.mem_eraseP_of_neg (by simp [hn.symm])).mpr hx

theorem mem_entries_atKey_insert {x : QueueEntry} (hx : x ∈ (r.queue k).entries)
    (key : QueueKey) (e : QueueEntry) :
    x ∈ ((r.atKey key (.insert e)).2.queue k).entries := by
  by_cases hk : k = key
  · subst hk
    rw [queue_atKey_self]
    exact mem_entries_serve_insert hx e
  · rwa [queue_atKey_of_ne hk]

theorem mem_entries_atKey_remove {x : QueueEntry} {n : UInt64} (hx : x ∈ (r.queue k).entries)
    (hn : ¬ (key = k ∧ n = x.number)) :
    x ∈ ((r.atKey key (.remove n)).2.queue k).entries := by
  by_cases hk : k = key
  · subst hk
    rw [queue_atKey_self]
    exact mem_entries_remove hx fun hsame => hn ⟨rfl, hsame⟩
  · rwa [queue_atKey_of_ne hk]

theorem mem_entries_removeElsewhere {x : QueueEntry} {repository keep : String} {n : UInt64}
    (hx : x ∈ (r.queue k).entries)
    (hn : ¬ (k.repository = repository ∧ k.branch ≠ keep ∧ n = x.number)) :
    x ∈ ((r.removeElsewhere repository n keep).2.queue k).entries := by
  refine removeElsewhere_induction (P := fun r' => x ∈ (r'.queue k).entries) ?_ ?_
  · rw [Registry.queue, queue?, slot?_map r _ (fun s => by split <;> rfl)]
    rw [Registry.queue, queue?] at hx
    cases hs : r.slot? k with
    | none =>
      rw [hs] at hx
      exact hx
    | some s =>
      rw [hs] at hx
      have hkey : s.key = k := key_of_slot? hs
      rw [Option.map_some, Option.map_some, Option.getD_some]
      split
      next helsewhere =>
        simp only [isElsewhere, hkey, Bool.and_eq_true, beq_iff_eq, bne_iff_ne] at helsewhere
        exact mem_entries_remove hx fun hsame =>
          hn ⟨helsewhere.1.1, helsewhere.1.2, hsame⟩
      next => exact hx
  · intro r' key h
    rwa [entries_queue_prune]

theorem slots_hold (r : Registry) (name : String) (key : QueueKey) :
    (r.hold name key).slots = (r.open key).slots := by
  rw [Registry.hold]
  split <;> rfl

/-- **An entry stays unless a call takes it out.** -/
theorem Tied.mem_entries_serve (h : r.Tied) {call : RegistryCall} {x : QueueEntry}
    (hx : x ∈ (r.queue key).entries) (hcall : ¬ call.TakesOut r key x.number) :
    x ∈ ((r.serve call).2.queue key).entries := by
  cases call with
  | lookup k =>
    rw [Registry.serve, queue_open]
    exact hx
  | hold name k =>
    have hsame : (r.hold name k).queue key = (r.open k).queue key := by
      rw [Registry.queue, queue?, slot?, slots_hold, ← slot?, ← queue?, ← Registry.queue]
    rw [Registry.serve, hsame, queue_open]
    exact hx
  | release name | branches => exact hx
  | insert k e => exact mem_entries_atKey_insert hx k e
  | remove k n => exact mem_entries_atKey_remove hx hcall
  | insertHeld name e =>
    rw [Registry.serve]
    cases hhandle : r.handle? name with
    | none =>
      rw [Registry.atHandle, hhandle]
      exact hx
    | some handle =>
      rw [h.atHandle_eq (h.handle?_eq_some_iff.mp hhandle)]
      exact mem_entries_atKey_insert hx _ e
  | removeHeld name n =>
    rw [Registry.serve]
    cases hhandle : r.handle? name with
    | none =>
      rw [Registry.atHandle, hhandle]
      exact hx
    | some handle =>
      rw [h.atHandle_eq (h.handle?_eq_some_iff.mp hhandle)]
      exact mem_entries_atKey_remove hx fun hsame =>
        hcall ⟨⟨handle, hhandle, hsame.1⟩, hsame.2⟩
  | prune k =>
    rw [Registry.serve, entries_queue_prune]
    exact hx
  | removeElsewhere repository n keep => exact mem_entries_removeElsewhere hx hcall

/-- An entry that is lost was taken out by one of the calls. -/
theorem Tied.exists_takesOut (h : r.Tied) {calls : List RegistryCall} {x : QueueEntry}
    (hx : x ∈ (r.queue key).entries) (hlost : x ∉ ((r.serveCalls calls).queue key).entries) :
    ∃ before call after, calls = before ++ call :: after ∧
      call.TakesOut (r.serveCalls before) key x.number := by
  induction calls generalizing r with
  | nil => exact absurd hx hlost
  | cons call calls ih =>
    by_cases hcall : call.TakesOut r key x.number
    · exact ⟨[], call, calls, rfl, hcall⟩
    · obtain ⟨before, later, after, rfl, htakes⟩ :=
        ih (h.serve call) (h.mem_entries_serve hx hcall) hlost
      exact ⟨call :: before, later, after, rfl, htakes⟩

/-- **A queue that is held is not forgotten.** After any calls on an empty registry, in any order:

* every handle is on an open queue, which is the one that a lookup of its key finds, and to enter or
  leave a queue through the handle is to do so through a lookup, with the same answer and the same
  effect. An entry that is let in is found by lookups from then on;
* a queue is dropped, and the answer tells so, if it is there, is empty and is held by nobody.
  Otherwise nothing happens;
* an entry that is gone after more calls was taken out by one of them, which has named its pull
  request. -/
theorem held_queue_is_found (calls : List RegistryCall) :
    let r := ({} : Registry).serveCalls calls
    (∀ name handle, (name, handle) ∈ r.handles →
      (∃ s, r.slotOf? handle = some s ∧ (r.open handle.key).slot? handle.key = some s) ∧
        (∀ e, r.serve (.insertHeld name e) = r.serve (.insert handle.key e)) ∧
        ∀ n, r.serve (.removeHeld name n) = r.serve (.remove handle.key n)) ∧
    (∀ key e, (r.serve (.insert key e)).1 = .queued (.ok none) →
      { e with arrival := (r.queue key).arrivals } ∈
        ((r.serve (.insert key e)).2.queue key).entries) ∧
    (∀ key, (r.Unused key → r.serve (.prune key) = (.dropped true, r.without key)) ∧
      (¬ r.Unused key → r.serve (.prune key) = (.dropped false, r))) ∧
    ∀ more key x, x ∈ (r.queue key).entries → x ∉ ((r.serveCalls more).queue key).entries →
      ∃ before call after, more = before ++ call :: after ∧
        call.TakesOut (r.serveCalls before) key x.number := by
  intro r
  have hr : r.Tied := tied_empty.serveCalls calls
  refine ⟨fun name handle hh => ⟨?_, fun e => hr.atHandle_eq hh _, fun n => hr.atHandle_eq hh _⟩,
    fun key e hreply => ?_, fun key => ⟨fun hunused => ?_, fun hused => ?_⟩,
    fun more key x hx hlost => hr.exists_takesOut hx hlost⟩
  · obtain ⟨s, hs, hslot, -, hkey⟩ := hr.exists_slot hh
    have hfound : r.slot? handle.key = some s := hkey ▸ hr.slot?_key hs
    rw [Registry.open, hfound]
    exact ⟨s, hslot, hfound⟩
  · rw [serve, reply_atKey] at hreply
    rw [serve, queue_atKey_self]
    exact mem_entries_of_insert (RegistryReply.queued.inj hreply)
  · have hidle : r.isIdle key = true := (hr.isIdle_iff key).mpr hunused
    rw [serve, prune_eq, hidle]
    rfl
  · have hidle : r.isIdle key = false :=
      Bool.eq_false_iff.mpr fun hidle => hused ((hr.isIdle_iff key).mp hidle)
    rw [serve, prune_eq, hidle]
    rfl

end Registry

/-- A queue is taken, looked at to be dropped, and entered through the handle. -/
def Still.keeping : List RegistryCall :=
  [.hold "mine" (pull 3).queueKey, .prune (pull 3).queueKey, .insertHeld "mine" (newEntry 3 {} 0)]

/-- Then the handle is released, and the pull request leaves through a lookup. -/
def Still.lettingGo : List RegistryCall :=
  keeping ++ [.release "mine", .remove (pull 3).queueKey 3]

/-- The queue is not dropped while it is held, and what has entered it is found. When it is empty
and released, it is dropped. -/
theorem Registry.queue_outlives_prune :
    let r := ({} : Registry).serveCalls Still.keeping
    let key := (Still.pull 3).queueKey
    let r' := ({} : Registry).serveCalls Still.lettingGo
    ("mine", ⟨key, 0⟩) ∈ r.handles ∧
      (∃ s, r.slotOf? ⟨key, 0⟩ = some s ∧ (r.open key).slot? key = some s) ∧
      (r.queue key).entries = [Still.newEntry 3 {} 0] ∧
      ¬ r.Unused key ∧ r.serve (.prune key) = (.dropped false, r) ∧
      r'.Unused key ∧ r'.serve (.prune key) = (.dropped true, r'.without key) := by
  intro r key r'
  obtain ⟨hheld, -, hprune, -⟩ := Registry.held_queue_is_found Still.keeping
  obtain ⟨-, -, hprune', -⟩ := Registry.held_queue_is_found Still.lettingGo
  have hhandle : ("mine", ⟨key, 0⟩) ∈ r.handles := by decide +kernel
  have hused : ¬ r.Unused key := fun h => h.2 _ hhandle rfl
  have hunused : r'.Unused key := by
    refine ⟨⟨{ repository := "acme/widgets", branch := "main", arrivals := 1 }, ?_, rfl⟩, ?_⟩
    · decide +kernel
    · decide +kernel
  exact ⟨hhandle, (hheld "mine" _ hhandle).1, by decide +kernel, hused, (hprune key).2 hused,
    hunused, (hprune' key).1 hunused⟩

end MergeTrain
