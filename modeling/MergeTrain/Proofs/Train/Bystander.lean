import MergeTrain.Proofs.Registry.Others
import MergeTrain.Proofs.Train.Move
import MergeTrain.Proofs.Train.Still

/-!
# Bystanders

An operation on one pull request may remove others from its queue, because they are late, and says
so in its outcome. An operation that fails has no outcome, so it had better remove nobody. That is
not quite how it is: the queue is swept before the head branch is updated, and an update can still
fail.

What a failed operation does to the others is told exactly. Nothing is assumed of the queues: they
may be out of order, and numbers may occur twice in them.

## Main results

* `Evaluation.filter_sweep_eq_iff` — a sweep changes nothing for the others exactly if none of them
  is late.
* `Ends.others_eq`, `Acts.others_eq`, `Plans.others_eq` — nothing but the sweep touches the others.
* `Train.others_stay_iff_of_error` — after a failure the others are where they were, unless the head
  branch was to be updated and one of them was late.
* `Train.late_leaves_silently` — and then they are not.
-/

namespace MergeTrain

/-- Entering a queue, or moving in it, is about the one entry. -/
theorem Train.filter_enqueued {entry : QueueEntry} {q q' : Queue} {keep : QueueEntry → Bool}
    (hkeep : ∀ x : QueueEntry, x.number = entry.number → keep x = false)
    (he : enqueued entry q = .ok q') : q'.entries.filter keep = q.entries.filter keep := by
  obtain ⟨-, ⟨-, rfl⟩ | ⟨x, hx, rfl⟩⟩ := enqueued_eq_ok_iff.mp he
  · have hnew : keep { entry with arrival := q.arrivals } = false := hkeep _ rfl
    exact Queue.filter_place hnew q.entries
  · have hnumber : x.number = entry.number := (Queue.mem_of_get? hx).2
    have hmoved : keep { x with priority := entry.priority, config := entry.config } = false :=
      hkeep _ hnumber
    refine (Queue.filter_place hmoved _).trans (Queue.filter_remove ?_)
    intro y hy
    exact hkeep y (hy.trans hnumber)

/-! ### The sweep -/

namespace Queue

/-- Who is removed by number is missing afterwards, even where another entry has that number. -/
theorem filter_foldl_remove_ne {q : Queue} {keep : QueueEntry → Bool} {n : UInt64}
    {ns : List UInt64} (hn : n ∈ q.numbers) (hkeep : ∀ x : QueueEntry, x.number = n → keep x = true) :
    ((n :: ns).foldl Queue.remove q).entries.filter keep ≠ q.entries.filter keep := by
  obtain ⟨x, hx⟩ : ∃ x, q.get? n = some x :=
    Option.ne_none_iff_exists'.mp fun hnone => get?_eq_none_iff.mp hnone hn
  obtain ⟨-, rfl⟩ := mem_of_get? hx
  have hone : (q.entries.filter keep).length = ((q.remove x.number).entries.filter keep).length + 1 := by
    have hperm := (perm_cons_remove hx).filter keep
    rw [List.filter_cons_of_pos (hkeep x rfl)] at hperm
    exact hperm.length_eq
  have hrest : (((x.number :: ns).foldl Queue.remove q).entries.filter keep).length
      ≤ ((q.remove x.number).entries.filter keep).length :=
    ((within_foldl_remove (q.remove x.number) ns).entries.filter keep).length_le
  intro heq
  rw [heq] at hrest
  omega

end Queue

namespace Evaluation

variable {e : Evaluation} {s : QueueSettings} {q : Queue} {snapshot : PullSnapshot}
  {isBehind allowMerge : Bool}

/-- **A sweep changes nothing for the others exactly if none of them is late.** -/
theorem filter_sweep_eq_iff :
    (e.sweep s q).queue.entries.filter (e.pull.isOther e.pull.queueKey)
        = q.entries.filter (e.pull.isOther e.pull.queueKey) ↔
      ∀ x ∈ q.entries.filter (e.pull.isOther e.pull.queueKey), e.isLate s x = false := by
  have hother : ∀ x, e.pull.isOther e.pull.queueKey x = true ↔ x.number ≠ e.pull.number := by
    intro x
    rw [PullRef.isOther_eq rfl, bne_iff_ne]
  change ((e.sweep s q).others.foldl Queue.remove q).entries.filter _ = _ ↔ _
  cases hns : (e.sweep s q).others with
  | nil =>
    refine iff_of_true rfl fun x hx => ?_
    obtain ⟨hx, hn⟩ := List.mem_filter.mp hx
    refine Bool.eq_false_iff.mpr fun hlate => ?_
    have hmem : x.number ∈ (e.sweep s q).others :=
      mem_others_sweep.mpr ⟨(hother x).mp hn, x, hx, rfl, hlate⟩
    rw [hns] at hmem
    exact List.not_mem_nil hmem
  | cons n ns =>
    obtain ⟨hne, x, hx, rfl, hlate⟩ := mem_others_sweep.mp (hns ▸ List.mem_cons_self)
    refine iff_of_false (Queue.filter_foldl_remove_ne ?_ fun y hy => ?_) fun hall => ?_
    · exact Queue.mem_numbers.mpr ⟨x, hx, rfl⟩
    · exact (hother y).mpr (hy ▸ hne)
    · have honTime := hall x (List.mem_filter.mpr ⟨hx, (hother x).mpr hne⟩)
      rw [hlate] at honTime
      cases honTime

/-- A plan does to the others what the sweep does. -/
theorem filter_plan :
    (e.plan s snapshot isBehind allowMerge q).queue.entries.filter (e.pull.isOther e.pull.queueKey)
      = (e.sweep s q).queue.entries.filter (e.pull.isOther e.pull.queueKey) := by
  rw [queue_plan]
  split
  · refine Queue.filter_remove ?_
    intro x hx
    exact PullRef.isOther_of_number_eq rfl hx
  · rfl

end Evaluation

/-! ### Operations -/

variable {σ : Type} {t : Train σ} {e : Evaluation} {r r₀ r' : Registry} {op : Operation}
  {snapshot : PullSnapshot} {isBehind allowMerge : Bool} {queue : Queue} {d : Decision}
  {made before : List Exchange} {result : Except Error Outcome} {error : Error}

/-- An operation that ends before a plan leaves the others alone. -/
theorem Ends.others_eq (h : Ends t e r op made result r') (key : QueueKey) :
    r'.others e.pull key = r.others e.pull key := by
  cases h <;>
    simp only [Registry.others_leave, Registry.others_open, Registry.others_follow]

/-- Until a plan is made the others are left alone. -/
theorem Plans.others_eq (h : Plans t e r op before snapshot isBehind r₀) (key : QueueKey) :
    r₀.others e.pull key = r.others e.pull key := by
  cases h with
  | run snapshot isBehind queue h hreport hqueue =>
    have hothers : queue.entries.filter (e.pull.isOther e.pull.queueKey)
        = r.others e.pull e.pull.queueKey := by
      refine Train.filter_enqueued ?_ hqueue
      intro x hx
      exact PullRef.isOther_of_number_eq rfl hx
    rw [Registry.others_update, Registry.others_open, Registry.others_follow]
    rw [hothers, Registry.others_open, Registry.others_follow]
  | cancelFlow => rw [Registry.others_open, Registry.others_follow]
  | completeMerge => rw [Registry.others_open]

/-- What is done about a decision concerns the pull request alone. -/
theorem Acts.others_eq (h : Acts t e snapshot isBehind queue r d made result r') (key : QueueKey) :
    r'.others e.pull key = r.others e.pull key := by
  cases h with
  | updateFails => exact Registry.others_leave _ _ _
  | _ => rfl

/-- What can fail after a plan is the update of the head branch. -/
theorem Acts.exists_isUpdate (h : Acts t e snapshot isBehind queue r d made (.error error) r') :
    ∃ x ∈ made, x.call.isUpdate := by
  cases h with
  | rereadFails => exact ⟨_, List.mem_cons_self, UpdateTask.isUpdate_call _⟩
  | updateBreaks => exact ⟨_, List.mem_cons_self, UpdateTask.isUpdate_call _⟩

/-- What is left of a failure when the list of those who were removed is put to the outcome. -/
theorem Advances.of_error
    (h : Advances t e snapshot isBehind allowMerge r made (.error error) r') :
    ∃ step, t.step e snapshot isBehind allowMerge (r.queue e.pull.queueKey) = step ∧
      Acts t e snapshot isBehind step.queue (r.update e.pull.queueKey fun _ => step.queue)
        step.decision made (.error error) r' := by
  generalize hresult : Except.error error = result at h
  obtain ⟨step, made, result, r', hstep, h⟩ := h
  cases result with
  | error error' =>
    cases hresult
    exact ⟨step, hstep, h⟩
  | ok outcome => cases hresult

/-- A plan that was carried out leaves the others as the sweep has left them. -/
theorem Advances.others_eq (hplan : Plans t e r op before snapshot isBehind r₀)
    (h : Advances t e snapshot isBehind allowMerge r₀ made result r') (key : QueueKey) :
    r'.others e.pull key =
      if key = e.pull.queueKey
        then (e.sweep t.settings.queue (r₀.queue e.pull.queueKey)).queue.entries.filter
          (e.pull.isOther e.pull.queueKey)
        else r.others e.pull key := by
  obtain ⟨step, made, result, r', rfl, hacts⟩ := h
  by_cases hkey : key = e.pull.queueKey
  · rw [if_pos hkey, hkey, hacts.others_eq, Registry.others,
      Registry.queue_update_self hplan.isSome_queue?]
    exact Evaluation.filter_plan
  · rw [if_neg hkey, hacts.others_eq, Registry.others_update_of_ne hkey, hplan.others_eq]

/-- After a plan the others are all where they were exactly if none of them is late. -/
theorem Advances.others_eq_iff (hplan : Plans t e r op before snapshot isBehind r₀)
    (h : Advances t e snapshot isBehind allowMerge r₀ made result r') :
    (∀ key, r'.others e.pull key = r.others e.pull key) ↔
      ∀ x ∈ r.others e.pull e.pull.queueKey, e.isLate t.settings.queue x = false := by
  have hiff := Evaluation.filter_sweep_eq_iff (e := e) (s := t.settings.queue)
    (q := r₀.queue e.pull.queueKey)
  rw [← Registry.others, hplan.others_eq] at hiff
  rw [← hiff]
  constructor
  · intro hall
    rw [← hall, h.others_eq hplan, if_pos rfl]
  · intro hswept key
    rw [h.others_eq hplan]
    split
    next hkey => rw [hkey, hswept]
    next => rfl

theorem Performs.others_eq_iff (h : Performs t e r op made (.error error) r') :
    (∀ key, r'.others e.pull key = r.others e.pull key) ↔
      ((∃ x ∈ made, x.call.isUpdate) →
        ∀ x ∈ r.others e.pull e.pull.queueKey, e.isLate t.settings.queue x = false) := by
  cases h with
  | ended _ _ r' h =>
    have hnone : ¬ ∃ x ∈ made, x.call.isUpdate := by
      rw [exists_isUpdate_iff]
      exact not_not.mpr h.filter_isUpdate
    refine iff_of_true (fun key => ?_) fun hupdate => absurd hupdate hnone
    rw [Registry.others_prune, h.others_eq]
  | planned before after snapshot isBehind _ r₀ r' hplan h =>
    obtain ⟨step, -, hacts⟩ := h.of_error
    obtain ⟨x, hx, hupdate⟩ := hacts.exists_isUpdate
    have hmade : ∃ x ∈ before ++ after, x.call.isUpdate :=
      ⟨x, List.mem_append_right _ hx, hupdate⟩
    simp only [Registry.others_prune, hmade, true_imp_iff]
    exact h.others_eq_iff hplan

/-- **Failing without a word.** When an operation fails, all other pull requests wait where they
waited, in whatever queue of whatever repository, in the same order and with the same entries,
unless the head branch was to be updated and one of those in its queue was late. Then the late ones
are gone, and there is no outcome to tell it. -/
theorem Train.others_stay_iff_of_error (t : Train σ) (e : Evaluation) (op : Operation)
    (s : Session σ) (error : Error) (herror : ((t.perform e op).runOn s).1 = .error error) :
    ∃ made, ((t.perform e op).runOn s).2.exchanges = s.exchanges ++ made ∧
      ((∀ key, ((t.perform e op).runOn s).2.registry.others e.pull key
          = s.registry.others e.pull key) ↔
        ((∃ x ∈ made, x.call.isUpdate) →
          ∀ x ∈ s.registry.others e.pull e.pull.queueKey, e.isLate t.settings.queue x = false)) := by
  obtain ⟨made, hmade, h⟩ := t.perform_does e s.registry op s rfl
  rw [herror] at h
  exact ⟨made, hmade, h.others_eq_iff⟩

/-- A platform on which the head branch is behind and cannot be updated. -/
def Still.unreachable : Still where
  isBehind := true
  update := .error (.platform "unreachable")

/-- An evaluation of the first pull request on it, with another one in the queue. -/
def Still.failing (other : QueueEntry) : Except Error Outcome × Session Unit :=
  ((train unreachable).perform (evaluation { strict := .continuous }) .run).runOn
    (waiting [other, newEntry 1 { strict := .continuous } 1])

/-- Who is not late stays through a failed update. -/
theorem Train.newcomer_stays :
    (Still.failing (Still.newEntry 2 {} 0)).1 = .error (.platform "unreachable") ∧
      ∀ key, (Still.failing (Still.newEntry 2 {} 0)).2.registry.others (Still.pull 1) key
        = (Still.waiting [Still.newEntry 2 {} 0,
            Still.newEntry 1 { strict := .continuous } 1]).registry.others (Still.pull 1) key := by
  have herror : (Still.failing (Still.newEntry 2 {} 0)).1 = .error (.platform "unreachable") := by
    decide +kernel
  obtain ⟨made, -, hiff⟩ := Train.others_stay_iff_of_error (Still.train .unreachable)
    (Still.evaluation { strict := .continuous }) .run _ _ herror
  exact ⟨herror, hiff.mpr fun _ => by decide⟩

/-- Who is late is removed, and the operation fails all the same. -/
theorem Train.late_leaves_silently :
    (Still.failing (Still.lateEntry 2 {} 0)).1 = .error (.platform "unreachable") ∧
      Still.lateEntry 2 {} 0 ∈ (Still.waiting [Still.lateEntry 2 {} 0,
        Still.newEntry 1 { strict := .continuous } 1]).registry.others (Still.pull 1)
          (Still.pull 1).queueKey ∧
      Still.lateEntry 2 {} 0 ∉ (Still.failing (Still.lateEntry 2 {} 0)).2.registry.others
        (Still.pull 1) (Still.pull 1).queueKey := by
  refine ⟨by decide +kernel, ?_, ?_⟩
  · decide
  · decide +kernel

end MergeTrain
