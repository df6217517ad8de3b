import MergeTrain.Proofs.Registry.Sound
import MergeTrain.Proofs.Train.Served
import MergeTrain.Scenario.Platform

/-!
# What a scenario provides

A scenario stands for a queue and for a platform. Neither gives an operation on its pull request a
reason to fail.

The queue is filled from a list, and every entry targets the branch of the queue, so an entry is
refused only for a number that is there already. The list itself decides whether that happens. What
has been taken in makes up a sound queue all along.

The platform knows one pull request, by its number, and all that an operation asks is about this
one. It fails when check states are asked for that are not given, when a head branch is to be
updated, and when a merge is to be performed, each time in a way that operations deal with.

## Main results

* `Scenario.seedQueue_eq_none_iff` — when the queue takes all entries.
* `Scenario.soundAt_seedQueue` — what the queue is like then.
* `Scenario.serves_platform` — the platform serves the pull request of the scenario.
-/

namespace MergeTrain

/-! ### Filling a queue -/

namespace Queue

variable {q : Queue} {e : QueueEntry} {key : QueueKey}

theorem numbers_taking_perm (q : Queue) (e : QueueEntry) :
    (q.taking e).numbers.Perm (e.number :: q.numbers) :=
  (place_perm _ q.entries).map QueueEntry.number

/-- An entry that belongs to a queue can be taken in, unless its number is there already. -/
theorem SoundAt.insert_of_not_mem (h : q.SoundAt key) (he : e.pull.queueKey = key)
    (hn : e.number ∉ q.numbers) : q.insert e = .ok (q.taking e) ∧ (q.taking e).SoundAt key := by
  have hbranch : e.pull.baseRef = q.branch := by
    rw [h.branch, ← he]
    rfl
  have hentered : Train.enqueued e q = .ok (q.taking e) :=
    Train.enqueued_eq_ok_iff.mpr ⟨hbranch, .inl ⟨hn, rfl⟩⟩
  exact ⟨insert_eq_ok_iff.mpr ⟨hbranch, hn, rfl⟩, (h.enqueued he hentered).1⟩

theorem SoundAt.insert_of_mem (h : q.SoundAt key) (he : e.pull.queueKey = key)
    (hn : e.number ∈ q.numbers) : q.insert e = .error (.alreadyQueued q.branch e.number) := by
  refine insert_eq_alreadyQueued_iff.mpr ⟨?_, hn⟩
  rw [h.branch, ← he]
  rfl

end Queue

namespace Scenario

variable {s : Scenario} {config : MergeConfig} {q : Queue}

/-- What a queue has taken in from a list keeps it sound, whether or not that was all. -/
theorem soundAt_go (hq : q.SoundAt s.pull.pull.queueKey) (entries : List ScenarioEntry) :
    (seedQueue.go s config q entries).2.SoundAt s.pull.pull.queueKey := by
  induction entries generalizing q with
  | nil => exact hq
  | cons e rest ih =>
    rw [seedQueue.go]
    by_cases hn : e.number ∈ q.numbers
    · rw [hq.insert_of_mem (e := s.queueEntry config e) rfl hn]
      exact hq
    · obtain ⟨hinsert, htaking⟩ := hq.insert_of_not_mem (e := s.queueEntry config e) rfl hn
      rw [hinsert]
      exact ih htaking

/-- A queue takes all entries of a list if their numbers are new and differ from each other. -/
theorem go_eq_none_iff (hq : q.SoundAt s.pull.pull.queueKey) (entries : List ScenarioEntry) :
    (seedQueue.go s config q entries).1 = none ↔
      (q.numbers ++ entries.map ScenarioEntry.number).Nodup := by
  induction entries generalizing q with
  | nil => simpa [seedQueue.go] using hq.sound.numbers
  | cons e rest ih =>
    have hperm : (q.numbers ++ (e :: rest).map ScenarioEntry.number).Perm
        (e.number :: q.numbers ++ rest.map ScenarioEntry.number) := List.perm_middle
    rw [seedQueue.go, hperm.nodup_iff]
    by_cases hn : e.number ∈ q.numbers
    · rw [hq.insert_of_mem (e := s.queueEntry config e) rfl hn]
      simp [hn]
    · obtain ⟨hinsert, htaking⟩ := hq.insert_of_not_mem (e := s.queueEntry config e) rfl hn
      have htaken : (q.taking (s.queueEntry config e)).numbers.Perm (e.number :: q.numbers) :=
        q.numbers_taking_perm (s.queueEntry config e)
      rw [hinsert, ← (htaken.append_right _).nodup_iff]
      exact ih htaking

theorem soundAt_seedQueue (config : MergeConfig) (hq : q.SoundAt s.pull.pull.queueKey) :
    (s.seedQueue config q).2.SoundAt s.pull.pull.queueKey :=
  soundAt_go hq s.queue

/-- **An empty queue takes all entries of a scenario** if no two of them have the same number. -/
theorem seedQueue_eq_none_iff (config : MergeConfig) (hq : q.SoundAt s.pull.pull.queueKey)
    (hempty : q.entries = []) :
    (s.seedQueue config q).1 = none ↔ (s.queue.map ScenarioEntry.number).Nodup := by
  have hnumbers : q.numbers = [] := by rw [Queue.numbers, hempty, List.map_nil]
  rw [seedQueue, go_eq_none_iff hq, hnumbers, List.nil_append]

/-! ### The platform -/

variable {login : String} {snapshot : PullSnapshot} {error : Error}

theorem number_pull (s : Scenario) : s.pull.pull.number = s.pull.number :=
  rfl

/-- The platform knows the pull request of the scenario. -/
theorem about_pull {α : Type} (s : Scenario) (answer : Except Error α) :
    s.about s.pull.pull answer = answer :=
  if_pos s.number_pull

/-- An update of the head branch fails in one way. -/
theorem update_eq_error (h : (s.update s.pull.pull snapshot).1 = .error error) :
    ∃ title message, error = .branchUpdate title message := by
  rw [update, if_pos s.number_pull] at h
  split at h <;> cases h
  exact ⟨_, _, rfl⟩

/-- And so does a merge. -/
theorem merge_eq_error {request : MergeRequest} (hpull : request.pull = s.pull.pull)
    (h : (s.merge login request snapshot).1 = .error error) :
    ∃ status message, error = .mergeRejected status message := by
  rw [merge, hpull, if_pos s.number_pull] at h
  split at h <;> cases h
  exact ⟨_, _, rfl⟩

/-- **The platform of a scenario serves the pull request of the scenario.** -/
theorem serves_platform (s : Scenario) (login : String) :
    (s.platform login).Serves s.pull.pull := by
  intro call snapshot error habout herror hout
  cases call with
  | getPull pull | isBehind pull | haveBeenSynchronized pull =>
    obtain rfl : pull = s.pull.pull := habout
    cases (s.about_pull _).symm.trans herror
  | getChecks pull => exact hout.checks pull rfl
  | requiredChecks repository branch => cases herror
  | updateBranch pull | rewriteBranch pull _ _ =>
    obtain rfl : pull = s.pull.pull := habout
    obtain ⟨title, message, rfl⟩ := update_eq_error herror
    exact hout.update rfl title message rfl
  | mergePull request =>
    obtain ⟨status, message, rfl⟩ := merge_eq_error habout herror
    exact hout.merge rfl status message rfl

end Scenario

end MergeTrain
