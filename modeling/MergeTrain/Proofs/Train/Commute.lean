import MergeTrain.Proofs.Registry.Cells
import MergeTrain.Proofs.Train.Answer
import MergeTrain.Proofs.Train.Stale
import MergeTrain.Proofs.Train.Twin

/-!
# Operations that do not meet

Two pull requests that have nothing to do with each other may be evaluated in any order. That is
not for lack of common ground: an operation looks through all queues of its repository, and two
pull requests may both have been in the queue of a third branch, which is dropped when the second of
them has left.

An operation works on the cell of its target, and all that it finds out comes from there and from
the platform. To the other cells it does one thing. Its pull request leaves those of its repository.
So there are two arguments. One operation leaves the cell of the other's target alone, and then the
other, run before or after, is two runs side by side that agree on this one cell. In the third cells
two pull requests leave, and that can be done in any order.

## Main definitions

* `Link.cell` — two runs agree on the cell of a key.
* `Operation.clears` — what an operation does to the other cells.
* `Registry.Apart` — two pull requests have nothing to do with each other.

## Main results

* `TrainCall.result_congr` — what comes of a call depends on one cell of the registry.
* `Performs.cell?_of_ne` — what an operation does to the other cells.
* `Train.operations_apart_commute` — operations on pull requests that are apart can be done in any
  order.
-/

namespace MergeTrain

variable {σ : Type}

/-! ### The cell of the target -/

/-- Two registries agree on the cell of a key, and would open it alike. -/
structure Registry.AgreesAt (r r' : Registry) (key : QueueKey) : Prop where
  cell : r'.cell? key = r.cell? key
  issued : r.Issued
  issued' : r'.Issued

namespace Registry.AgreesAt

variable {r r' : Registry} {key : QueueKey}

theorem queue (h : r.AgreesAt r' key) : r'.queue key = r.queue key := by
  rw [queue_eq_cell?, h.cell, ← queue_eq_cell?]

theorem follow {pull : PullRef} (h : r.AgreesAt r' pull.queueKey) :
    (r.follow pull).AgreesAt (r'.follow pull) pull.queueKey where
  cell := by rw [cell?_follow_self, cell?_follow_self, h.cell]
  issued := h.issued.follow pull
  issued' := h.issued'.follow pull

theorem «open» (h : r.AgreesAt r' key) : (r.open key).AgreesAt (r'.open key) key where
  cell := by rw [h.issued.cell?_open_self, h.issued'.cell?_open_self, h.cell]
  issued := h.issued.open key
  issued' := h.issued'.open key

theorem update (h : r.AgreesAt r' key) (change : Queue → Queue) :
    (r.update key change).AgreesAt (r'.update key change) key where
  cell := by rw [cell?_update_self, cell?_update_self, h.cell]
  issued := h.issued.update key change
  issued' := h.issued'.update key change

theorem prune (h : r.AgreesAt r' key) : (r.prune key).AgreesAt (r'.prune key) key where
  cell := by rw [cell?_prune_self, cell?_prune_self, h.cell]
  issued := h.issued.prune key
  issued' := h.issued'.prune key

end Registry.AgreesAt

/-- Two runs agree on the cell of a key. -/
def Link.cell (key : QueueKey) : Link σ where
  platform _ _ := True
  registry r r' := r.AgreesAt r' key
  queue := Eq
  report := Eq

/-- **An operation on a steady platform depends on the cell of its target.** -/
theorem Train.twins_of_steady {t : Train σ} (h : t.platform.Steady) (e : Evaluation) :
    t.Twins (Link.cell e.pull.queueKey) e t.entitlements e.config.priority where
  answers call p p' _ := ⟨h call p' p, trivial⟩
  queue _ _ hr := hr.queue.symm
  follow _ _ hr := hr.follow
  opened _ _ hr := hr.open
  update := by
    rintro q _ rfl r r' hr
    exact hr.update _
  leave _ _ hr := hr.update _
  prune _ _ hr := hr.prune
  refusal := rfl
  enqueued := by
    rintro q _ rfl
    exact .refl (fun _ => rfl) _
  plan := by
    rintro q _ rfl snapshot isBehind allowMerge
    exact ⟨rfl, rfl, rfl⟩
  same _ := rfl
  strict := by
    rintro q _ rfl
    rfl
  waiting := by
    rintro q _ rfl isBehind
    rfl

/-- **What comes of a call depends on one cell of the registry**, and so does what it leaves
there. -/
theorem TrainCall.result_congr (call : TrainCall σ) (hsteady : call.train.platform.Steady)
    {s s' : Session σ} (h : s.registry.AgreesAt s'.registry call.evaluation.pull.queueKey) :
    call.result s' = call.result s ∧
      (call.perform s).registry.AgreesAt (call.perform s').registry
        call.evaluation.pull.queueKey := by
  have htwin := (Train.twins_of_steady hsteady call.evaluation).perform_twin call.operation
  obtain ⟨-, -, -, hjoins, hresult⟩ := htwin s s' ⟨trivial, h⟩
  have hsame : Alike Eq (call.result s) (call.result s') :=
    hresult.mono fun _ _ ho => ho.eq_of_report ho.report
  exact ⟨hsame.eq.symm, hjoins.registry⟩

/-! ### The other cells -/

/-- What is left of the cell of another key after an operation on a pull request. If that goes after
its target, it leaves the cells of its repository. -/
def Operation.clears (op : Operation) (pull : PullRef) (key : QueueKey) (c : Cell) : Option Cell :=
  if op.followsTarget = true ∧ key.repository = pull.repository then c.without pull.number
  else some c

namespace Operation

variable {op op' : Operation} {pull pull' : PullRef} {key : QueueKey} {c : Cell}

/-- A cell in which the pull request does not wait is left alone. -/
theorem clears_of_not_contains
    (h : key.repository = pull.repository → c.queue.contains pull.number = false) :
    op.clears pull key c = some c := by
  rw [clears]
  split
  next hclears => exact Cell.without_of_not_contains (h hclears.2)
  next => rfl

/-- Two pull requests may leave the cells of third keys in any order. -/
theorem clears_comm (op op' : Operation) (pull pull' : PullRef) (key : QueueKey) (c : Cell) :
    (op.clears pull key c).bind (op'.clears pull' key)
      = (op'.clears pull' key c).bind (op.clears pull key) := by
  unfold clears
  split
  next =>
    split
    next => exact c.without_comm pull.number pull'.number
    next => simp
  next =>
    split
    next => simp
    next => rfl

end Operation

section Performs

variable {t : Train σ} {e : Evaluation} {r r' : Registry} {op : Operation} {made : List Exchange}
  {result : Except Error Outcome} {k : QueueKey} {other : PullRef}

/-- **What an operation does to the other cells.** -/
theorem Performs.cell?_of_ne (h : Performs t e r op made result r') (hr : r.Sound)
    (hk : k ≠ e.pull.queueKey) : r'.cell? k = (r.cell? k).bind (op.clears e.pull k) := by
  have hkept : Registry.Kept (fun r' => r'.cell? k = (op.begun e.pull r).cell? k)
      e.pull.queueKey :=
    ⟨fun _ h => (Registry.cell?_open_of_ne hk).trans h,
      fun _ _ h => (Registry.cell?_update_of_ne hk).trans h,
      fun _ h => (Registry.cell?_prune_of_ne hk).trans h⟩
  rw [h.kept hkept rfl, Operation.begun]
  unfold Operation.clears
  split
  next hop =>
    by_cases hrepository : k.repository = e.pull.repository
    · have hbranch : k.branch ≠ e.pull.baseRef := by
        rintro hbranch
        obtain ⟨repository, branch⟩ := k
        subst hrepository hbranch
        exact hk rfl
      simp [hr.cell?_follow, hop, hrepository, hbranch]
    · simp [hr.cell?_follow, hrepository]
  next hop => simp [hop]

theorem Performs.issued (h : Performs t e r op made result r') (hr : r.Issued) : r'.Issued := by
  refine h.kept ⟨fun _ h => h.open _, fun _ change h => h.update _ change, fun _ h => h.prune _⟩ ?_
  rw [Operation.begun]
  split
  · exact hr.follow e.pull
  · exact hr

/-! ### Pull requests that are apart -/

/-- Two pull requests have nothing to do with each other. They are in different repositories, or
have different numbers and targets and neither waits for the target of the other. -/
def Registry.Apart (r : Registry) (pull other : PullRef) : Prop :=
  pull.repository ≠ other.repository ∨
    pull.number ≠ other.number ∧ pull.baseRef ≠ other.baseRef ∧
      pull.number ∉ (r.queue other.queueKey).numbers ∧
      other.number ∉ (r.queue pull.queueKey).numbers

theorem Registry.Apart.symm {pull : PullRef} (h : r.Apart pull other) : r.Apart other pull := by
  rcases h with hrepository | ⟨hnumber, hbranch, hpull, hother⟩
  · exact .inl hrepository.symm
  · exact .inr ⟨hnumber.symm, hbranch.symm, hother, hpull⟩

theorem Registry.Apart.queueKey_ne {pull : PullRef} (h : r.Apart pull other) :
    other.queueKey ≠ pull.queueKey := by
  intro hkey
  rcases h with hrepository | ⟨-, hbranch, -⟩
  · exact hrepository (congrArg QueueKey.repository hkey).symm
  · exact hbranch (congrArg QueueKey.branch hkey).symm

/-- An operation leaves the cell of a target alone if its pull request is apart from the one that
has it. -/
theorem Performs.cell?_of_apart (h : Performs t e r op made result r') (hr : r.Sound)
    (hapart : r.Apart e.pull other) : r'.cell? other.queueKey = r.cell? other.queueKey := by
  rw [h.cell?_of_ne hr hapart.queueKey_ne]
  cases hc : r.cell? other.queueKey with
  | none => rfl
  | some c =>
    have hqueue : r.queue other.queueKey = c.queue := by
      rw [Registry.queue_eq_cell?, hc]
      rfl
    refine Operation.clears_of_not_contains fun hrepository => ?_
    rcases hapart with hne | ⟨-, -, habsent, -⟩
    · exact absurd hrepository.symm hne
    · rw [← hqueue, Bool.eq_false_iff, Ne, Queue.contains_iff]
      exact habsent

/-- Pull requests that are apart stay so. -/
theorem Performs.apart (h : Performs t e r op made result r') (hr : r.Sound)
    (hapart : r.Apart e.pull other) : r'.Apart e.pull other := by
  have hcell := h.cell?_of_apart hr hapart
  rcases hapart with hrepository | ⟨hnumber, hbranch, hpull, hother⟩
  · exact .inl hrepository
  refine .inr ⟨hnumber, hbranch, ?_, fun hmem => ?_⟩
  · rw [Registry.queue_eq_cell?, hcell, ← Registry.queue_eq_cell?]
    exact hpull
  · -- nobody else enters the queue of the target
    have hnew : r.holds { e.pull with number := other.number } = false :=
      Bool.eq_false_iff.mpr fun hheld => hother (Queue.contains_iff.mp hheld)
    have hheld : r'.holds { e.pull with number := other.number } = true :=
      Queue.contains_iff.mpr hmem
    exact hnumber (h.enters hr.distinct hnew hheld).2.2

end Performs

namespace TrainCall

variable {a b : TrainCall σ} {s : Session σ}

/-- A call comes to the same after one that is about a pull request apart from its own. -/
theorem result_of_apart (hsteady : b.train.platform.Steady) (hs : s.registry.Sound)
    (hissued : s.registry.Issued)
    (hapart : s.registry.Apart a.evaluation.pull b.evaluation.pull) :
    b.result (a.perform s) = b.result s ∧
      (b.perform s).registry.AgreesAt (b.perform (a.perform s)).registry
        b.evaluation.pull.queueKey := by
  obtain ⟨made, -, h⟩ := a.performs s
  exact b.result_congr hsteady ⟨h.cell?_of_apart hs hapart, hissued, h.issued hissued⟩

/-- The cell of the target of the second call is the same in whatever order they are performed. -/
theorem cell?_of_apart (hsteady : b.train.platform.Steady) (hs : s.registry.Sound)
    (hissued : s.registry.Issued)
    (hapart : s.registry.Apart a.evaluation.pull b.evaluation.pull) :
    (b.perform (a.perform s)).registry.cell? b.evaluation.pull.queueKey
      = (a.perform (b.perform s)).registry.cell? b.evaluation.pull.queueKey := by
  obtain ⟨-, hagrees⟩ := result_of_apart hsteady hs hissued hapart
  obtain ⟨made, -, hfirst⟩ := b.performs s
  obtain ⟨made', -, hsecond⟩ := a.performs (b.perform s)
  have hapart' := (hfirst.apart hs hapart.symm).symm
  rw [hagrees.cell, hsecond.cell?_of_apart (hfirst.sound hs) hapart']

/-- So is the cell of any third key. -/
theorem cell?_of_ne (hs : s.registry.Sound) {k : QueueKey}
    (ha : k ≠ a.evaluation.pull.queueKey) (hb : k ≠ b.evaluation.pull.queueKey) :
    (b.perform (a.perform s)).registry.cell? k = (a.perform (b.perform s)).registry.cell? k := by
  obtain ⟨_, -, hfirst⟩ := a.performs s
  obtain ⟨_, -, hsecond⟩ := b.performs (a.perform s)
  obtain ⟨_, -, hfirst'⟩ := b.performs s
  obtain ⟨_, -, hsecond'⟩ := a.performs (b.perform s)
  rw [hsecond.cell?_of_ne (hfirst.sound hs) hb, hfirst.cell?_of_ne hs ha,
    hsecond'.cell?_of_ne (hfirst'.sound hs) ha, hfirst'.cell?_of_ne hs hb, Option.bind_assoc,
    Option.bind_assoc]
  exact congrArg _ (funext fun c => Operation.clears_comm ..)

theorem issued_perform (call : TrainCall σ) (h : s.registry.Issued) :
    (call.perform s).registry.Issued := by
  obtain ⟨made, -, hperforms⟩ := call.performs s
  exact hperforms.issued h

end TrainCall

theorem issued_performAll (calls : List (TrainCall σ)) {s : Session σ} (hs : s.registry.Issued) :
    (performAll calls s).registry.Issued := by
  induction calls generalizing s with
  | nil => exact hs
  | cons call calls ih => exact ih (call.issued_perform hs)

/-- **Operations that do not meet commute.** Two operations are to be performed on platforms whose
answers depend on the calls alone, from a sound registry in which all serial numbers have been
issued, as they are in every registry that operations have built. Their pull requests are in
different repositories, or they have different numbers and targets and neither waits for the target
of the other. In whatever order they are performed, each comes to the same, and in the end the
registry has the same queues. -/
theorem Train.operations_apart_commute (a b : TrainCall σ) (s : Session σ)
    (ha : a.train.platform.Steady) (hb : b.train.platform.Steady) (hs : s.registry.Sound)
    (hissued : s.registry.Issued)
    (hapart : s.registry.Apart a.evaluation.pull b.evaluation.pull) :
    b.result (a.perform s) = b.result s ∧ a.result (b.perform s) = a.result s ∧
      ∀ key, (b.perform (a.perform s)).registry.queue? key
        = (a.perform (b.perform s)).registry.queue? key := by
  refine ⟨(TrainCall.result_of_apart hb hs hissued hapart).1,
    (TrainCall.result_of_apart ha hs hissued hapart.symm).1, fun key => ?_⟩
  rw [Registry.queue?_eq_cell?, Registry.queue?_eq_cell?]
  refine congrArg (Option.map Cell.queue) ?_
  by_cases hka : key = a.evaluation.pull.queueKey
  · rw [hka]
    exact (TrainCall.cell?_of_apart ha hs hissued hapart.symm).symm
  by_cases hkb : key = b.evaluation.pull.queueKey
  · rw [hkb]
    exact TrainCall.cell?_of_apart hb hs hissued hapart
  exact TrainCall.cell?_of_ne hs hka hkb

/-- An evaluation of a pull request that targets some branch. -/
def Still.targeting (number : UInt64) (branch : String) : TrainCall Unit :=
  ⟨train {}, { evaluation {} with pull := { pull number with baseRef := branch } }, .run⟩

/-- A session in which two pull requests wait for the same branch. -/
def Still.together : Session Unit :=
  performAll [targeting 1 "release", targeting 2 "release"] { platform := () }

/-- They are evaluated for two other branches, one after the other. When the second one has left,
whichever that is, the queue of the first branch is gone. -/
theorem Train.two_leave_release :
    Still.together.registry.Sound ∧ Still.together.registry.Issued ∧
      Still.together.registry.Apart (Still.targeting 1 "main").evaluation.pull
        (Still.targeting 2 "next").evaluation.pull ∧
      (∀ key, ((Still.targeting 2 "next").perform
          ((Still.targeting 1 "main").perform Still.together)).registry.queue? key
        = ((Still.targeting 1 "main").perform
          ((Still.targeting 2 "next").perform Still.together)).registry.queue? key) ∧
      (Still.together.registry.queue ⟨"acme/widgets", "release"⟩).numbers = [1, 2] ∧
      ((Still.targeting 2 "next").perform
        ((Still.targeting 1 "main").perform Still.together)).registry.queue?
          ⟨"acme/widgets", "release"⟩ = none := by
  have hs : Still.together.registry.Sound := sound_performAll _ Registry.sound_empty
  have hissued : Still.together.registry.Issued := issued_performAll _ Registry.issued_empty
  have hapart : Still.together.registry.Apart (Still.targeting 1 "main").evaluation.pull
      (Still.targeting 2 "next").evaluation.pull :=
    .inr ⟨by decide, by decide, by decide +kernel, by decide +kernel⟩
  obtain ⟨-, -, hsame⟩ := Train.operations_apart_commute (Still.targeting 1 "main")
    (Still.targeting 2 "next") Still.together (Still.steady {}) (Still.steady {}) hs hissued hapart
  exact ⟨hs, hissued, hapart, hsame, by decide +kernel, by decide +kernel⟩

end MergeTrain
