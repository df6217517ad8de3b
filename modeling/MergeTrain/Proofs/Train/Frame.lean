import MergeTrain.Proofs.Train.Bystander
import MergeTrain.Proofs.Train.Unmatched

/-!
# What an operation leaves alone

The registry holds all queues of all repositories, and an operation is about one pull request. The
others are to keep their entries, unchanged and in their order, whatever comes of the operation and
wherever it ends. There is one exception, and it is to be no larger than it has to be: in the queue
of the target branch the late ones may leave.

For each queue there are two ways it can come out for the others. Either nothing has happened to
them, or exactly the late ones are gone, and the second way is for the queue of the target alone.
Nobody enters but the pull request of an evaluation whose rule matches.

## Main definitions

* `Registry.Thinner` — entries may have left the queues, and none has come.

## Main results

* `Performs.others_eq` — what an operation does to the others.
* `Performs.thinner` — nobody enters unless a rule matches.
* `Performs.handles_eq`, `Performs.queue?_eq_none` — nobody's hold changes, and no empty queue is
  left where nobody holds one.
* `Train.others_stay_or_late_leave` — both, for any operation and any result.
-/

namespace MergeTrain

/-! ### Entries that leave -/

namespace Registry

variable {r r' r'' : Registry} {pull : PullRef}

/-- Entries may have left the queues, and none has come. Unlike `Registry.Within` this says nothing
about which queues are open. -/
def Thinner (r' r : Registry) : Prop :=
  ∀ key, (r'.queue key).entries.Sublist (r.queue key).entries

theorem Thinner.trans (h : r''.Thinner r') (h' : r'.Thinner r) : r''.Thinner r :=
  fun key => (h key).trans (h' key)

theorem Within.thinner (h : r'.Within r) : r'.Thinner r :=
  fun key => (h.queues key).entries

theorem thinner_open (r : Registry) (key : QueueKey) : (r.open key).Thinner r := by
  intro k
  rw [queue_open]

theorem thinner_prune (r : Registry) (key : QueueKey) : (r.prune key).Thinner r := by
  intro k
  rw [entries_queue_prune]

theorem thinner_follow (r : Registry) (pull : PullRef) : (r.follow pull).Thinner r := by
  intro k
  rw [entries_queue_follow]
  split
  · exact Queue.remove_sublist _ _
  · exact List.Sublist.refl _

/-- In the queues of other repositories everyone is another one. -/
theorem others_of_ne {key : QueueKey} (h : key.repository ≠ pull.repository) :
    r.others pull key = (r.queue key).entries := by
  refine List.filter_eq_self.mpr fun x _ => ?_
  rw [PullRef.isOther, bne_iff_ne.mpr h, Bool.true_or]

/-! ### Handles -/

theorem handles_open (r : Registry) (key : QueueKey) : (r.open key).handles = r.handles := by
  rw [Registry.open]
  split <;> rfl

theorem handles_prune (r : Registry) (key : QueueKey) : (r.prune key).handles = r.handles := by
  rw [Registry.prune]
  split <;> rfl

theorem handles_follow (r : Registry) (pull : PullRef) : (r.follow pull).handles = r.handles :=
  follow_induction (P := fun r' => r'.handles = r.handles) rfl
    fun r' key h => (r'.handles_prune key).trans h

/-- Where nobody holds a queue, one that is empty is dropped. -/
theorem queue?_prune_self {key : QueueKey} (hfree : r.handles = [])
    (hempty : (r.queue key).entries = []) : (r.prune key).queue? key = none := by
  rw [prune_eq, isIdle]
  cases hs : r.slot? key with
  | none => simp [queue?, hs]
  | some s =>
    have hslot : s.queue.entries = [] := by
      rwa [Registry.queue, queue?, hs] at hempty
    have hidle : (s.queue.isEmpty && !r.isHeld s) = true := by
      simp [Queue.isEmpty, hslot, isHeld, hfree]
    rw [if_pos hidle, queue?, slot?_without_self]
    rfl

end Registry

variable {σ : Type} {t : Train σ} {e : Evaluation} {r r₀ r' : Registry} {op : Operation}
  {snapshot : PullSnapshot} {isBehind allowMerge : Bool} {queue : Queue} {d : Decision}
  {made before : List Exchange} {result : Except Error Outcome}

/-! ### Nobody enters -/

theorem Ends.thinner (h : Ends t e r op made result r') : r'.Thinner r := by
  have hfollow : (r.follow e.pull).Thinner r := r.thinner_follow e.pull
  have hopen := r.thinner_open e.pull.queueKey
  have hfollowOpen := ((r.follow e.pull).thinner_open e.pull.queueKey).trans hfollow
  cases h with
  | refused | unread | unmatchedUnread => exact hfollow
  | notCompared | notEnqueued | resynchronizedUnknown | requiredUnknown | unmatchedNotCompared =>
    exact hfollowOpen
  | reported | unmatchedReported | unmatchedLoose | cancelled =>
    exact (Registry.within_leave _ e.pull).thinner.trans hfollowOpen
  | mergedUnread | rejectedUnread | rejectedForNow | rejectedNotCompared => exact hopen
  | mergeBreaks | merged | rejectedButMerged | rejected =>
    exact (Registry.within_leave _ e.pull).thinner.trans hopen

theorem Plans.thinner (h : Plans t e r op before snapshot isBehind r₀) (hop : op ≠ .run) :
    r₀.Thinner r := by
  cases h with
  | run => exact absurd rfl hop
  | cancelFlow => exact (Registry.thinner_open _ _).trans (r.thinner_follow e.pull)
  | completeMerge => exact r.thinner_open _

theorem Acts.thinner (h : Acts t e snapshot isBehind queue r d made result r') : r'.Thinner r := by
  cases h with
  | updateFails => exact (Registry.within_leave r e.pull).thinner
  | _ => exact fun key => List.Sublist.refl _

theorem Advances.thinner (h : Advances t e snapshot isBehind allowMerge r made result r') :
    r'.Thinner r := by
  obtain ⟨step, made, result, r', rfl, hacts⟩ := h
  exact hacts.thinner.trans (Registry.within_update (e.within_plan _ _)).thinner

/-- **Nobody enters** by an operation that does not evaluate a matching rule. -/
theorem Performs.thinner (h : Performs t e r op made result r') (hop : op ≠ .run) :
    r'.Thinner r := by
  cases h with
  | ended _ _ _ h => exact (Registry.thinner_prune _ _).trans h.thinner
  | planned _ _ _ _ _ _ _ hplan h =>
    exact (Registry.thinner_prune _ _).trans (h.thinner.trans (hplan.thinner hop))

/-! ### Nobody takes or drops a handle -/

theorem Performs.handles_eq (h : Performs t e r op made result r') : r'.handles = r.handles := by
  have hkept : Registry.Kept (fun r' => r'.handles = r.handles) e.pull.queueKey :=
    ⟨fun r' h => (r'.handles_open _).trans h, fun _ _ h => h,
      fun r' h => (r'.handles_prune _).trans h⟩
  refine h.kept hkept ?_
  rw [Operation.begun]
  split
  · exact r.handles_follow e.pull
  · rfl

/-- Where nobody holds a queue, no operation leaves an empty one for its branch. -/
theorem Performs.queue?_eq_none (h : Performs t e r op made result r') (hfree : r.handles = [])
    (hempty : (r'.queue e.pull.queueKey).entries = []) : r'.queue? e.pull.queueKey = none := by
  have hhandles := h.handles_eq.trans hfree
  cases h with
  | ended _ _ r' | planned _ _ _ _ _ _ r' =>
    rw [Registry.entries_queue_prune] at hempty
    exact Registry.queue?_prune_self ((r'.handles_prune _).symm.trans hhandles) hempty

/-! ### The others stay, or the late ones leave -/

/-- Where no pull request waits twice, the sweep takes the late ones out of the others. -/
theorem Evaluation.filter_sweep {s : QueueSettings} {q : Queue} (h : q.numbers.Nodup) :
    (e.sweep s q).queue.entries.filter (e.pull.isOther e.pull.queueKey)
      = (q.entries.filter (e.pull.isOther e.pull.queueKey)).filter fun x => !e.isLate s x := by
  rw [entries_sweep h, List.filter_filter, List.filter_filter]
  refine List.filter_congr fun x _ => ?_
  rw [PullRef.isOther_eq rfl]
  cases hn : x.number == e.pull.number <;> simp [bne, hn]

/-- After a plan the late ones among the others are gone from the queue of the target. -/
theorem Advances.others_eq_filter (hplan : Plans t e r op before snapshot isBehind r₀)
    (h : Advances t e snapshot isBehind allowMerge r₀ made result r') (hr : r.Distinct) :
    r'.others e.pull e.pull.queueKey
      = (r.others e.pull e.pull.queueKey).filter fun x => !e.isLate t.settings.queue x := by
  rw [h.others_eq hplan, if_pos rfl, Evaluation.filter_sweep (hplan.nodup_numbers hr),
    ← Registry.others, hplan.others_eq]

/-- **What an operation does to the others.** In each queue they stay as they are, but in the queue
of the target the late ones may have left. -/
theorem Performs.others_eq (h : Performs t e r op made result r') (hr : r.Distinct)
    (key : QueueKey) :
    r'.others e.pull key = r.others e.pull key ∨
      key = e.pull.queueKey ∧ r'.others e.pull key
        = (r.others e.pull key).filter fun x => !e.isLate t.settings.queue x := by
  cases h with
  | ended _ _ _ h => exact .inl (by rw [Registry.others_prune, h.others_eq])
  | planned _ _ _ _ _ _ _ hplan h =>
    rw [Registry.others_prune]
    by_cases hkey : key = e.pull.queueKey
    · subst hkey
      exact .inr ⟨rfl, h.others_eq_filter hplan hr⟩
    · exact .inl (by rw [h.others_eq hplan, if_neg hkey])

/-- **The others stay, or the late ones leave.** Whatever an operation is, whatever the platform
answers and however it ends: in every queue of every repository the other pull requests have the
entries that they had, in the same order, but for the queue of the target branch, where those who
waited too long may be gone. A pull request of another repository is another one even if the number
is the same, so the queues of other repositories are as they were. Only the evaluation of a rule
that matches lets an entry in. -/
theorem Train.others_stay_or_late_leave (t : Train σ) (e : Evaluation) (op : Operation)
    (s : Session σ) (hs : s.registry.Distinct) :
    let after := ((t.perform e op).runOn s).2.registry
    (∀ key, after.others e.pull key = s.registry.others e.pull key ∨
      key = e.pull.queueKey ∧ after.others e.pull key
        = (s.registry.others e.pull key).filter fun x => !e.isLate t.settings.queue x) ∧
    (∀ key, key.repository ≠ e.pull.repository →
      (after.queue key).entries = (s.registry.queue key).entries) ∧
    (op ≠ .run → ∀ key, (after.queue key).entries.Sublist (s.registry.queue key).entries) := by
  intro after
  obtain ⟨made, -, h⟩ := t.perform_does e s.registry op s rfl
  have hothers := h.others_eq hs
  refine ⟨hothers, fun key hkey => ?_, h.thinner⟩
  have hne : key ≠ e.pull.queueKey := by
    rintro rfl
    exact hkey rfl
  rw [← Registry.others_of_ne hkey, ← Registry.others_of_ne hkey]
  exact (hothers key).resolve_right fun hown => hne hown.1

/-- The first pull request of another repository, which has waited for two hours. -/
def Still.namesake : QueueEntry :=
  { lateEntry 1 {} 0 with pull := { pull 1 with repo := "gadgets" } }

/-- An ordered train in which the first pull request stands behind one that is late and one that is
not, while its namesake waits in another repository. -/
def Still.crowded : Session Unit where
  registry :=
    { slots :=
        [{ key := (pull 1).queueKey, serial := 0,
           queue := { repository := "acme/widgets", branch := "main",
                      entries := [lateEntry 2 { strict := .ordered } 0,
                        newEntry 3 { strict := .ordered } 1, newEntry 1 { strict := .ordered } 2],
                      arrivals := 3 } },
          { key := ⟨"acme/gadgets", "main"⟩, serial := 1,
            queue := { repository := "acme/gadgets", branch := "main", entries := [namesake],
                       arrivals := 1 } }]
      opened := 2 }
  platform := ()

/-- Of the others in the queue of the target the late one leaves, the namesake stays where it is,
and nobody enters. -/
theorem Train.namesake_stays :
    Still.crowded.registry.Distinct ∧ Operation.cancelFlow ≠ .run ∧
      (Still.runningUnmatched Still.crowded).2.registry.others (Still.pull 1)
          (Still.pull 1).queueKey = [Still.newEntry 3 { strict := .ordered } 1] ∧
      ((Still.runningUnmatched Still.crowded).2.registry.queue ⟨"acme/gadgets", "main"⟩).entries
        = [Still.namesake] ∧
      ∀ key, ((Still.runningUnmatched Still.crowded).2.registry.queue key).entries.Sublist
        (Still.crowded.registry.queue key).entries := by
  have hs : Still.crowded.registry.Distinct := by decide
  obtain ⟨hothers, helsewhere, hthinner⟩ :=
    Train.others_stay_or_late_leave (Still.train {}) Still.unmatched .cancelFlow Still.crowded hs
  refine ⟨hs, by simp, ?_, helsewhere _ (by decide), hthinner (by simp)⟩
  rcases hothers (Still.pull 1).queueKey with hsame | ⟨-, hlate⟩
  · -- the late one is gone, so it is not as it was
    exact absurd hsame (by decide +kernel)
  · exact hlate

end MergeTrain
