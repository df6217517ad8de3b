import Mathlib.Data.List.Induction
import MergeTrain.Proofs.Queue.Arrival
import MergeTrain.Proofs.Train.Frame

/-!
# First come, first served

Nobody overtakes anybody at equal priority, whatever happens between two moments: evaluations that
enter again, that find others late, that fail, pull requests that come and go, queues that are
dropped and opened anew. It is a statement about histories, and two things are needed to make it one
about a single call.

One is where the entries of a queue come from. Each bears the time of an evaluation and the priority
of an evaluation, both on its branch. If all those evaluations ask for one priority and the clock
does not go back, then a newcomer is behind everybody, and nobody else has a reason to move. The
other is that a pull request which leaves and comes back is a newcomer: nothing is claimed for who
has not waited all the time.

## Main definitions

* `TrainCall.MayEnter` — a call may let its pull request into a queue.
* `Orderly` — a history in which priorities are alike and the clock does not go back.
* `queueAfter` — a queue after a history.

## Main results

* `Performs.entries_sublist` — entries leave, and the pull request of an evaluation enters.
* `exists_mayEnter_of_mem` — where the entries of a queue come from.
* `Train.no_overtaking` — nobody is overtaken in an orderly history.
-/

namespace MergeTrain

variable {σ : Type}

/-! ### One operation -/

section Operation

variable {t : Train σ} {e : Evaluation} {r r' : Registry} {op : Operation} {made : List Exchange}
  {result : Except Error Outcome} {entry x : QueueEntry} {q q' : Queue}

/-- Entries leave a queue, and only an evaluation of a matching rule lets one in before. -/
theorem Performs.entries_sublist (h : Performs t e r op made result r') (key : QueueKey) :
    (r'.queue key).entries.Sublist (r.queue key).entries ∨
      op = .run ∧ e.pull.queueKey = key ∧ ∃ queue,
        Train.enqueued (e.entry t.entitlements) (r.queue key) = .ok queue ∧
        (r'.queue key).entries.Sublist queue.entries := by
  by_cases hop : op = .run
  · subst hop
    cases h with
    | ended _ _ r' h => exact .inl (((Registry.thinner_prune r' _).trans h.thinner) key)
    | planned _ _ _ _ _ r₀ r' hplan h =>
      have hafter := ((Registry.thinner_prune r' e.pull.queueKey).trans h.thinner) key
      cases hplan with
      | run snapshot isBehind queue _ _ hqueue =>
        by_cases hkey : e.pull.queueKey = key
        · subst hkey
          refine .inr ⟨rfl, rfl, queue, hqueue, ?_⟩
          rwa [Registry.queue_update_self (by simp [Registry.queue?_open_self])] at hafter
        · rw [Registry.queue_update_of_ne (Ne.symm hkey)] at hafter
          exact .inl (hafter.trans
            (((Registry.thinner_open _ _).trans (r.thinner_follow e.pull)) key))
  · exact .inl (h.thinner hop key)

/-- An entry in the queue that a pull request entered was there before, is the new one, or is one
that was there and has been brought up to date. -/
theorem Train.mem_enqueued (h : enqueued entry q = .ok q') (hx : x ∈ q'.entries) :
    x ∈ q.entries ∨ x = { entry with arrival := q.arrivals } ∨
      ∃ y ∈ q.entries, x = { y with priority := entry.priority, config := entry.config } := by
  obtain ⟨-, ⟨-, rfl⟩ | ⟨y, hy, rfl⟩⟩ := enqueued_eq_ok_iff.mp h
  · rcases List.mem_cons.mp ((Queue.place_perm _ _).mem_iff.mp hx) with hnew | hold
    · exact .inr (.inl hnew)
    · exact .inl hold
  · rcases List.mem_cons.mp ((Queue.place_perm _ _).mem_iff.mp hx) with hmoved | hold
    · exact .inr (.inr ⟨y, (Queue.mem_of_get? hy).1, hmoved⟩)
    · exact .inl ((Queue.remove_sublist _ _).subset hold)

/-- Where all have one priority and nobody came later, who enters is put at the end or has been
there before, and then nobody moves. -/
theorem Queue.Sound.tickets_enqueued (hq : q.Sound) (h : Train.enqueued entry q = .ok q')
    (hpriority : ∀ x ∈ q.entries, x.priority = entry.priority)
    (htime : ∀ x ∈ q.entries, ¬ entry.enqueuedAt.before x.enqueuedAt = true) :
    q'.tickets = q.tickets ∨
      entry.number ∉ q.numbers ∧
        q'.tickets = q.tickets ++ [(entry.pull, entry.enqueuedAt, q.arrivals)] := by
  obtain ⟨-, ⟨hnew, rfl⟩ | ⟨x, hx, rfl⟩⟩ := Train.enqueued_eq_ok_iff.mp h
  · refine .inr ⟨hnew, ?_⟩
    rw [tickets, hq.entries_taking hpriority htime, List.map_append]
    rfl
  · rw [← hpriority x (mem_of_get? hx).1]
    exact .inl (hq.tickets_moving hx entry.config)

/-- A queue in which all stand as they came stays one when somebody enters. -/
theorem Queue.FirstCome.enqueued (hcome : q.FirstCome) (hq : q.Sound)
    (h : Train.enqueued entry q = .ok q')
    (hpriority : ∀ x ∈ q.entries, x.priority = entry.priority)
    (htime : ∀ x ∈ q.entries, ¬ entry.enqueuedAt.before x.enqueuedAt = true) : q'.FirstCome := by
  rw [firstCome_iff] at hcome ⊢
  rcases hq.tickets_enqueued h hpriority htime with hsame | ⟨-, hnew⟩
  · rw [hsame]
    exact hcome
  · rw [hnew]
    refine List.pairwise_append.mpr ⟨hcome, List.pairwise_singleton _ _, ?_⟩
    intro ticket hticket new hlast
    obtain ⟨x, hx, rfl⟩ := List.mem_map.mp hticket
    obtain rfl := List.mem_singleton.mp hlast
    exact ⟨hq.fresh x hx, htime x hx⟩

theorem Queue.FirstCome.sublist (hcome : q.FirstCome) (h : q'.entries.Sublist q.entries) :
    q'.FirstCome :=
  List.Pairwise.sublist h hcome

end Operation

/-! ### Histories -/

namespace TrainCall

/-- The entry of the pull request that a call is about. -/
def entry (call : TrainCall σ) : QueueEntry :=
  call.evaluation.entry call.train.entitlements

/-- A call may let its pull request into the queue of a key. -/
def MayEnter (call : TrainCall σ) (key : QueueKey) : Prop :=
  call.operation = .run ∧ call.evaluation.pull.queueKey = key

end TrainCall

/-- The clock does not go back during a history, and whoever may enter the queue of a key has the
priority of all others who may. -/
structure Orderly (calls : List (TrainCall σ)) (key : QueueKey) : Prop where
  clock : calls.Pairwise fun a b => ¬ b.evaluation.now.before a.evaluation.now = true
  priority : ∀ a ∈ calls, ∀ b ∈ calls, a.MayEnter key → b.MayEnter key →
    a.entry.priority = b.entry.priority

/-- The queue of a key after calls that began with an empty registry. -/
def queueAfter (calls : List (TrainCall σ)) (platform : σ) (key : QueueKey) : Queue :=
  (performAll calls { platform }).registry.queue key

variable {calls before : List (TrainCall σ)} {call : TrainCall σ} {platform : σ} {key : QueueKey}
  {x : QueueEntry}

theorem Orderly.of_prefix (h : Orderly calls key) (hbefore : before <+: calls) :
    Orderly before key where
  clock := h.clock.sublist hbefore.sublist
  priority := fun a ha b hb => h.priority a (hbefore.subset ha) b (hbefore.subset hb)

theorem sound_queueAfter (calls : List (TrainCall σ)) (platform : σ) (key : QueueKey) :
    (queueAfter calls platform key).Sound :=
  ((sound_performAll calls Registry.sound_empty).queues key).sound

/-- What one more call does to a queue. -/
theorem entries_queueAfter_concat (calls : List (TrainCall σ)) (call : TrainCall σ) (platform : σ)
    (key : QueueKey) :
    (queueAfter (calls ++ [call]) platform key).entries.Sublist
        (queueAfter calls platform key).entries ∨
      call.MayEnter key ∧ ∃ queue,
        Train.enqueued call.entry (queueAfter calls platform key) = .ok queue ∧
        (queueAfter (calls ++ [call]) platform key).entries.Sublist queue.entries := by
  obtain ⟨made, -, h⟩ := call.performs (performAll calls { platform })
  rw [queueAfter, performAll, List.foldl_concat]
  exact (h.entries_sublist key).imp_right fun ⟨hop, hkey, hqueue⟩ => ⟨⟨hop, hkey⟩, hqueue⟩

/-- **Where the entries of a queue come from.** Each came at the time of a call that may enter, and
has the priority of such a call. -/
theorem exists_mayEnter_of_mem (hx : x ∈ (queueAfter calls platform key).entries) :
    (∃ call ∈ calls, call.MayEnter key ∧ x.enqueuedAt = call.evaluation.now) ∧
      ∃ call ∈ calls, call.MayEnter key ∧ x.priority = call.entry.priority := by
  -- from the last call back: it has put the entry in, brought it up to date or let it be
  induction calls using List.reverseRecOn generalizing x with
  | nil => cases hx
  | append_singleton calls call ih =>
    have hmono : ∀ {p : TrainCall σ → Prop}, (∃ c ∈ calls, p c) → ∃ c ∈ calls ++ [call], p c :=
      fun ⟨c, hc, hp⟩ => ⟨c, List.mem_append_left _ hc, hp⟩
    have hlast : call ∈ calls ++ [call] := List.mem_append_right _ List.mem_cons_self
    rcases entries_queueAfter_concat calls call platform key with
      hsub | ⟨hmay, queue, hqueue, hsub⟩
    · exact (ih (hsub.subset hx)).imp hmono hmono
    · rcases Train.mem_enqueued hqueue (hsub.subset hx) with hold | rfl | ⟨y, hy, rfl⟩
      · exact (ih hold).imp hmono hmono
      · exact ⟨⟨call, hlast, hmay, rfl⟩, call, hlast, hmay, rfl⟩
      · exact ⟨hmono (ih hy).1, call, hlast, hmay, rfl⟩

/-- Whoever may enter at the end of an orderly history finds nobody of another priority. -/
theorem Orderly.priority_eq (h : Orderly (calls ++ [call]) key) (hmay : call.MayEnter key)
    (hx : x ∈ (queueAfter calls platform key).entries) : x.priority = call.entry.priority := by
  obtain ⟨-, before, hbefore, hmay', hpriority⟩ := exists_mayEnter_of_mem hx
  rw [hpriority]
  exact h.priority before (List.mem_append_left _ hbefore) call
    (List.mem_append_right _ List.mem_cons_self) hmay' hmay

/-- Nobody who is found there came later. -/
theorem Orderly.not_before (h : Orderly (calls ++ [call]) key)
    (hx : x ∈ (queueAfter calls platform key).entries) :
    ¬ call.entry.enqueuedAt.before x.enqueuedAt = true := by
  obtain ⟨⟨before, hbefore, -, htime⟩, -⟩ := exists_mayEnter_of_mem hx
  rw [htime]
  exact (List.pairwise_append.mp h.clock).2.2 before hbefore call List.mem_cons_self

theorem Orderly.firstCome (h : Orderly calls key) (platform : σ) :
    (queueAfter calls platform key).FirstCome := by
  induction calls using List.reverseRecOn with
  | nil => exact List.Pairwise.nil
  | append_singleton calls call ih =>
    have hcome := ih (h.of_prefix (List.prefix_append calls [call]))
    rcases entries_queueAfter_concat calls call platform key with
      hsub | ⟨hmay, queue, hqueue, hsub⟩
    · exact hcome.sublist hsub
    · refine (hcome.enqueued (sound_queueAfter calls platform key) hqueue ?_ ?_).sublist hsub
      · exact fun x hx => h.priority_eq hmay hx
      · exact fun x hx => h.not_before hx

/-- One more call lets entries out, or lets a newcomer in at the end. -/
theorem Orderly.numbers_concat (h : Orderly (calls ++ [call]) key) (platform : σ) :
    let queue := queueAfter calls platform key
    let queue' := queueAfter (calls ++ [call]) platform key
    queue'.numbers.Sublist queue.numbers ∨
      call.MayEnter key ∧ call.evaluation.pull.number ∉ queue.numbers ∧
        ∃ stayed, stayed.Sublist queue.numbers ∧
          queue'.numbers = stayed ++ [call.evaluation.pull.number] := by
  intro queue queue'
  rcases entries_queueAfter_concat calls call platform key with
    hsub | ⟨hmay, entered, hentered, hsub⟩
  · exact .inl (hsub.map _)
  · have hnumbers : queue'.numbers.Sublist (entered.tickets.map fun k => k.1.number) := by
      rw [← Queue.numbers_eq_map_tickets]
      exact hsub.map _
    rcases (sound_queueAfter calls platform key).tickets_enqueued hentered
      (fun x hx => h.priority_eq hmay hx) (fun x hx => h.not_before hx) with hsame | ⟨hnew, hlast⟩
    · rw [hsame, ← Queue.numbers_eq_map_tickets] at hnumbers
      exact .inl hnumbers
    · rw [hlast, List.map_append, ← Queue.numbers_eq_map_tickets] at hnumbers
      obtain ⟨stayed, end', heq, hstayed, hend⟩ := List.sublist_append_iff.mp hnumbers
      rcases List.sublist_singleton.mp hend with rfl | rfl
      · rw [List.append_nil] at heq
        exact .inl (heq ▸ hstayed)
      · exact .inr ⟨hmay, hnew, stayed, hstayed, heq⟩

/-- Who is ahead stays ahead for as long as both wait. -/
theorem Orderly.ahead_concat {a b : UInt64} (h : Orderly (calls ++ [call]) key)
    (hahead : (queueAfter calls platform key).Ahead a b)
    (ha : a ∈ (queueAfter (calls ++ [call]) platform key).numbers)
    (hb : b ∈ (queueAfter (calls ++ [call]) platform key).numbers) :
    (queueAfter (calls ++ [call]) platform key).Ahead a b := by
  have hnodup := (sound_queueAfter calls platform key).numbers
  rcases h.numbers_concat platform with hsub | ⟨-, hnew, stayed, hsub, heq⟩
  · exact Queue.pair_sublist_of_mem hnodup hsub hahead ha hb
  · -- neither of them is the newcomer
    have hstayed : ∀ n ∈ [a, b], n ∈ (queueAfter (calls ++ [call]) platform key).numbers →
        n ∈ stayed := by
      intro n hn hmem
      rw [heq] at hmem
      refine (List.mem_append.mp hmem).resolve_right fun hlast => hnew ?_
      rw [← List.mem_singleton.mp hlast]
      exact hahead.subset hn
    rw [Queue.Ahead, heq]
    exact (Queue.pair_sublist_of_mem hnodup hsub hahead (hstayed a (by simp) ha)
      (hstayed b (by simp) hb)).trans (List.sublist_append_left _ _)

/-- **No overtaking at equal priority.** In a history that begins with an empty registry, whose
clock does not go back and whose evaluations for a branch all have one effective priority, the queue
of the branch is always in the order of arrival, whatever the platforms answer. Each call lets
entries out and keeps the order of all others, and it may be the evaluation of a pull request that
did not wait, which then stands at the end. And if a pull request stands ahead of another one, and
both wait at every moment from then on, it still does. -/
theorem Train.no_overtaking (calls : List (TrainCall σ)) (platform : σ) (key : QueueKey)
    (h : Orderly calls key) :
    (∀ before, before <+: calls → (queueAfter before platform key).FirstCome) ∧
    (∀ before call, before ++ [call] <+: calls →
      let queue := queueAfter before platform key
      let queue' := queueAfter (before ++ [call]) platform key
      queue'.numbers.Sublist queue.numbers ∨
        call.MayEnter key ∧ call.evaluation.pull.number ∉ queue.numbers ∧
          ∃ stayed, stayed.Sublist queue.numbers ∧
            queue'.numbers = stayed ++ [call.evaluation.pull.number]) ∧
    ∀ before later a b, before ++ later <+: calls →
      (queueAfter before platform key).Ahead a b →
      (∀ passed, passed <+: later →
        a ∈ (queueAfter (before ++ passed) platform key).numbers ∧
          b ∈ (queueAfter (before ++ passed) platform key).numbers) →
      (queueAfter (before ++ later) platform key).Ahead a b := by
  refine ⟨fun before hbefore => (h.of_prefix hbefore).firstCome platform,
    fun before call hbefore => (h.of_prefix hbefore).numbers_concat platform, ?_⟩
  intro before later a b hlater hahead hboth
  induction later using List.reverseRecOn with
  | nil => rwa [List.append_nil]
  | append_singleton later call ih =>
    obtain ⟨ha, hb⟩ := hboth (later ++ [call]) (List.prefix_refl _)
    rw [← List.append_assoc] at hlater ha hb ⊢
    refine (h.of_prefix hlater).ahead_concat ?_ ha hb
    exact ih ((List.prefix_append _ _).trans hlater) fun passed hpassed =>
      hboth passed (hpassed.trans (List.prefix_append _ _))

/-- The first pull request comes, a second later another one, and then the first one again. -/
def Still.line : List (TrainCall Unit) :=
  [calling 1 .epoch, calling 2 ⟨1, 0, by decide⟩, calling 1 ⟨1, 0, by decide⟩]

/-- That it is evaluated again does not put the first one behind the other. -/
theorem Train.first_stays_ahead :
    Orderly Still.line (Still.pull 1).queueKey ∧
      (queueAfter Still.line () (Still.pull 1).queueKey).FirstCome ∧
      (queueAfter Still.line () (Still.pull 1).queueKey).Ahead 1 2 := by
  have hpriority : ∀ a ∈ Still.line, a.entry.priority = .medium := by decide
  have horderly : Orderly Still.line (Still.pull 1).queueKey :=
    ⟨by decide, fun a ha b hb _ _ => (hpriority a ha).trans (hpriority b hb).symm⟩
  obtain ⟨hcome, -, hahead⟩ := Train.no_overtaking Still.line () (Still.pull 1).queueKey horderly
  refine ⟨horderly, hcome _ (List.prefix_refl _), ?_⟩
  refine hahead (Still.line.take 2) (Still.line.drop 2) 1 2 (List.prefix_refl _)
    (by decide +kernel) fun passed hpassed => ?_
  -- both wait before the last call and after it
  rcases List.prefix_cons_iff.mp hpassed with rfl | ⟨rest, rfl, hrest⟩
  · exact ⟨by decide +kernel, by decide +kernel⟩
  · obtain rfl := List.prefix_nil.mp hrest
    exact ⟨by decide +kernel, by decide +kernel⟩

end MergeTrain
