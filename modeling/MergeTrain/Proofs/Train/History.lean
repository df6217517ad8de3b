import MergeTrain.Proofs.Registry.Sound
import MergeTrain.Proofs.Train.Move
import MergeTrain.Proofs.Train.Still

/-!
# Histories

What the queues are like after any number of operations, performed one after the other from an empty
registry. Pull requests change their targets in between, operations fail halfway, queues are opened,
dropped and opened again; each operation may have settings and entitlements of its own. The registry
is sound all the same, and the reason is the order in which an operation goes about it: a pull
request leaves all other branches before it enters a queue.

That order also mends what is broken. From any registry whose queues hold no number twice, an
evaluation of a pull request leaves it on no branch but its target, however it ends.

## Main definitions

* `TrainCall`, `performAll` — operations one after the other.
* `Operation.followsTarget` — the operations that evaluate a rule.
* `Registry.Kept` — no change to the queue of a key takes a property away.

## Main results

* `Performs.sound` — one operation keeps a registry sound.
* `Performs.kept` — it keeps what the single changes keep.
* `Performs.settled` — an evaluation settles its pull request.
* `distinct_performAll` — no history makes a pull request wait twice for a branch.
* `Train.sound_and_settled` — both, over any history and from any registry.
-/

namespace MergeTrain

/-- Whether an operation begins with the pull request leaving the branches that it does not
target. -/
def Operation.followsTarget : Operation → Bool
  | .completeMerge _ => false
  | _ => true

/-- An operation that is to be performed on a train. -/
structure TrainCall (σ : Type) where
  train : Train σ
  evaluation : Evaluation
  operation : Operation

variable {σ : Type}

/-- What comes of a call. -/
def TrainCall.result (call : TrainCall σ) (s : Session σ) : Except Error Outcome :=
  ((call.train.perform call.evaluation call.operation).runOn s).1

/-- What a call leaves, whether it fails or not. -/
def TrainCall.perform (call : TrainCall σ) (s : Session σ) : Session σ :=
  ((call.train.perform call.evaluation call.operation).runOn s).2

/-- A call takes one of the routes of its operation. -/
theorem TrainCall.performs (call : TrainCall σ) (s : Session σ) :
    ∃ made, (call.perform s).exchanges = s.exchanges ++ made ∧
      Performs call.train call.evaluation s.registry call.operation made (call.result s)
        (call.perform s).registry :=
  call.train.perform_does call.evaluation s.registry call.operation s rfl

/-- What calls leave that are performed one after the other. -/
def performAll (calls : List (TrainCall σ)) (s : Session σ) : Session σ :=
  calls.foldl (fun s call => call.perform s) s

variable {t : Train σ} {e : Evaluation} {r r₀ r' : Registry} {op : Operation}
  {snapshot : PullSnapshot} {isBehind allowMerge : Bool} {queue : Queue} {d : Decision}
  {made before : List Exchange} {result : Except Error Outcome}

/-! ### One operation keeps a registry sound -/

/-- A plan lets entries out, and lets none in. -/
theorem Evaluation.within_plan (e : Evaluation) (s : QueueSettings) (q : Queue) :
    (e.plan s snapshot isBehind allowMerge q).queue.Within q := by
  have hsweep : (e.sweep s q).queue.Within q := Queue.within_foldl_remove q _
  rw [queue_plan]
  split
  · exact (Queue.within_remove _ _).trans hsweep
  · exact hsweep

theorem Ends.sound (h : Ends t e r op made result r') (hr : r.Sound) : r'.Sound := by
  have hfollow : (r.follow e.pull).Sound := hr.follow e.pull
  have hfollowOpen := hfollow.open e.pull.queueKey
  have hopen := hr.open e.pull.queueKey
  cases h with
  | refused | unread | unmatchedUnread => exact hfollow
  | notCompared | notEnqueued | resynchronizedUnknown | requiredUnknown | unmatchedNotCompared =>
    exact hfollowOpen
  | reported | unmatchedReported | unmatchedLoose | cancelled => exact hfollowOpen.leave e.pull
  | mergedUnread | rejectedUnread | rejectedForNow | rejectedNotCompared => exact hopen
  | mergeBreaks | merged | rejectedButMerged | rejected => exact hopen.leave e.pull

/-- In a sound registry a pull request can enter the queue of its target. -/
theorem Registry.Sound.exists_enqueued (hr : r.Sound) (e : Evaluation)
    (entitlements : Entitlements) :
    ∃ queue, Train.enqueued (e.entry entitlements) (r.queue e.pull.queueKey) = .ok queue :=
  Train.exists_enqueued (hr.queues e.pull.queueKey).branch.symm

theorem Plans.sound (h : Plans t e r op before snapshot isBehind r₀) (hr : r.Sound) :
    r₀.Sound := by
  have hfollow : (r.follow e.pull).Sound := hr.follow e.pull
  cases h with
  | run snapshot isBehind queue h hreport hqueue =>
    -- the pull request has left the other branches by now
    have hsettled : ((r.follow e.pull).open e.pull.queueKey).Settled e.pull :=
      (Registry.settled_follow hr.nodup_numbers e.pull).open _
    rw [← r.queue_follow e.pull, ← Registry.queue_open _ e.pull.queueKey] at hqueue
    refine (hfollow.open _).enter hsettled rfl ?_ hqueue
    rw [Registry.queue?_open_self]
    rfl
  | cancelFlow => exact hfollow.open _
  | completeMerge => exact hr.open _

theorem Acts.sound (h : Acts t e snapshot isBehind queue r d made result r') (hr : r.Sound) :
    r'.Sound := by
  cases h with
  | updateFails => exact hr.leave e.pull
  | _ => exact hr

theorem Advances.sound (h : Advances t e snapshot isBehind allowMerge r made result r')
    (hr : r.Sound) : r'.Sound := by
  obtain ⟨step, made, result, r', rfl, h⟩ := h
  exact h.sound (hr.within (Registry.within_update (e.within_plan _ _)))

theorem Performs.sound (h : Performs t e r op made result r') (hr : r.Sound) : r'.Sound := by
  cases h with
  | ended _ _ _ h => exact (h.sound hr).prune _
  | planned _ _ _ _ _ _ _ hplan h => exact (h.sound (hplan.sound hr)).prune _

/-! ### What every operation keeps -/

/-- No change to the queue of a key takes a property of registries away. -/
structure Registry.Kept (P : Registry → Prop) (key : QueueKey) : Prop where
  opened : ∀ r : Registry, P r → P (r.open key)
  update : ∀ (r : Registry) (change : Queue → Queue), P r → P (r.update key change)
  prune : ∀ r : Registry, P r → P (r.prune key)

/-- The registry when an operation comes to the queue of the target. -/
def Operation.begun (op : Operation) (pull : PullRef) (r : Registry) : Registry :=
  if op.followsTarget then r.follow pull else r

variable {P : Registry → Prop}

theorem Ends.kept (h : Ends t e r op made result r') (hP : Registry.Kept P e.pull.queueKey)
    (hr : P (op.begun e.pull r)) : P r' := by
  have hopen := hP.opened _ hr
  cases h with
  | refused | unread | unmatchedUnread => exact hr
  | notCompared | notEnqueued | resynchronizedUnknown | requiredUnknown | unmatchedNotCompared
  | mergedUnread | rejectedUnread | rejectedForNow | rejectedNotCompared => exact hopen
  | reported | unmatchedReported | unmatchedLoose | cancelled | mergeBreaks | merged
  | rejectedButMerged | rejected => exact hP.update _ _ hopen

theorem Plans.kept (h : Plans t e r op before snapshot isBehind r₀)
    (hP : Registry.Kept P e.pull.queueKey) (hr : P (op.begun e.pull r)) : P r₀ := by
  have hopen := hP.opened _ hr
  cases h with
  | run => exact hP.update _ _ hopen
  | cancelFlow | completeMerge => exact hopen

theorem Acts.kept (h : Acts t e snapshot isBehind queue r d made result r')
    (hP : Registry.Kept P e.pull.queueKey) (hr : P r) : P r' := by
  cases h with
  | updateFails => exact hP.update _ _ hr
  | _ => exact hr

theorem Advances.kept (h : Advances t e snapshot isBehind allowMerge r made result r')
    (hP : Registry.Kept P e.pull.queueKey) (hr : P r) : P r' := by
  obtain ⟨step, made, result, r', -, hacts⟩ := h
  exact hacts.kept hP (hP.update _ _ hr)

/-- **What the single changes keep is kept by every operation**, from when it has come to the queue
of the target. -/
theorem Performs.kept (h : Performs t e r op made result r')
    (hP : Registry.Kept P e.pull.queueKey) (hr : P (op.begun e.pull r)) : P r' := by
  cases h with
  | ended _ _ _ h => exact hP.prune _ (h.kept hP hr)
  | planned _ _ _ _ _ _ _ hplan h => exact hP.prune _ (h.kept hP (hplan.kept hP hr))

/-- An evaluation settles its pull request. -/
theorem Performs.settled (h : Performs t e r op made result r') (hop : op.followsTarget = true)
    (hr : ∀ key, (r.queue key).numbers.Nodup) : r'.Settled e.pull := by
  have hkept : Registry.Kept (fun r => r.Settled e.pull) e.pull.queueKey :=
    ⟨fun _ h => h.open _, fun _ change h => h.update change, fun _ h => h.prune _⟩
  refine h.kept hkept ?_
  rw [Operation.begun, if_pos hop]
  exact Registry.settled_follow hr e.pull

/-! ### Histories -/

theorem TrainCall.sound_perform (call : TrainCall σ) {s : Session σ} (hs : s.registry.Sound) :
    (call.perform s).registry.Sound := by
  obtain ⟨made, -, h⟩ := call.performs s
  exact h.sound hs

theorem sound_performAll (calls : List (TrainCall σ)) {s : Session σ} (hs : s.registry.Sound) :
    (performAll calls s).registry.Sound := by
  induction calls generalizing s with
  | nil => exact hs
  | cons call calls ih => exact ih (call.sound_perform hs)

/-- Operations that began with an empty registry have built one in which no pull request waits twice
for a branch. That is what theorems about a single operation ask for. -/
theorem distinct_performAll (calls : List (TrainCall σ)) (platform : σ) :
    (performAll calls { platform }).registry.Distinct :=
  (sound_performAll calls Registry.sound_empty).distinct

/-- **Queues in good order.** After any operations from an empty registry, failed ones among them,
every queue bears the labels of its key, is sorted, holds no number twice and only entries that
belong to its key, and no pull request waits on two branches of its repository. And from any
registry whose queues hold no number twice, an evaluation leaves its pull request on no branch but
the one that it targets, whatever comes of it. -/
theorem Train.sound_and_settled :
    (∀ (calls : List (TrainCall σ)) (platform : σ),
      (performAll calls { platform }).registry.Sound) ∧
    ∀ (t : Train σ) (e : Evaluation) (op : Operation) (s : Session σ),
      op.followsTarget = true → s.registry.Distinct →
        ((t.perform e op).runOn s).2.registry.Settled e.pull := by
  constructor
  · intro calls platform
    exact sound_performAll calls Registry.sound_empty
  · intro t e op s hop hs
    obtain ⟨made, -, h⟩ := t.perform_does e s.registry op s rfl
    exact h.settled hop hs.queue

/-- An evaluation of a pull request whose rule matches. -/
def Still.calling (number : UInt64) (now : Instant) : TrainCall Unit :=
  ⟨train {}, { evaluation {} with pull := Still.pull number, now }, .run⟩

/-- A session in which one pull request waits on two branches. -/
def Still.strayed : Session Unit where
  registry :=
    { slots :=
        [{ key := (pull 1).queueKey, serial := 0,
           queue := { repository := "acme/widgets", branch := "main",
                      entries := [newEntry 1 {} 0], arrivals := 1 } },
          { key := ⟨"acme/widgets", "release"⟩, serial := 1,
            queue := { repository := "acme/widgets", branch := "release",
                       entries := [strayEntry 1 {} 0, strayEntry 2 {} 1], arrivals := 2 } }]
      opened := 2 }
  platform := ()

/-- An evaluation of it leaves it on one branch. -/
theorem Train.stray_returns :
    Operation.cancelFlow.followsTarget = true ∧ Still.strayed.registry.Distinct ∧
      1 ∈ (Still.strayed.registry.queue ⟨"acme/widgets", "release"⟩).numbers ∧
      (((Still.train {}).perform (Still.evaluation {}) .cancelFlow).runOn
        Still.strayed).2.registry.Settled (Still.pull 1) := by
  have hs : Still.strayed.registry.Distinct := by decide
  exact ⟨rfl, hs, by decide,
    Train.sound_and_settled.2 (Still.train {}) (Still.evaluation {}) .cancelFlow _ rfl hs⟩

end MergeTrain
