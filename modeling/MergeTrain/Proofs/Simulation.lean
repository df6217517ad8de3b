import MergeTrain.CommandLine.Commands
import MergeTrain.Proofs.Rule
import MergeTrain.Proofs.Scenario

/-!
# Simulations that end well

A replay can fail in many places: while everything is made ready, in the evaluation, and in the
merge that this hands out. Only the first of these ever happens, and for two reasons, both of which
can be read off the scenario. Its queue may hold a number twice, and its rule may be one that cannot
be evaluated.

Once everything is ready, the registry is sound and the platform serves the pull request, and then
no operation fails. The registry stays sound under the first operation, which hands out a merge of
the same pull request, so the second does not fail either.

## Main definitions

* `Prepared.Ready` — nothing that was made ready gives an operation a reason to fail.

## Main results

* `Simulation.exists_prepare_iff` — when everything can be made ready.
* `Prepared.Ready.exists_outcome`, `Prepared.Ready.exists_merge_outcome` — the two operations.
* `CommandLine.simulate_fails_iff` — what makes a simulation fail, and that nothing else does.
-/

namespace MergeTrain

/-! ### A registry with one queue -/

namespace Registry

variable {key k : QueueKey} {queue : Queue}

/-- A registry in which one queue was opened and filled. -/
def single (key : QueueKey) (queue : Queue) : Registry :=
  (({} : Registry).open key).update key fun _ => queue

theorem queue_single_self (key : QueueKey) (queue : Queue) :
    (single key queue).queue key = queue := by
  refine queue_update_self ?_ _
  rw [queue?_open_self]
  rfl

theorem queue_single_of_ne (h : k ≠ key) :
    (single key queue).queue k = { repository := k.repository, branch := k.branch } := by
  rw [single, queue_update_of_ne h, queue_open]
  rfl

theorem sound_single (h : queue.SoundAt key) : (single key queue).Sound := by
  -- whoever waits at all, waits in the one queue
  have honly : ∀ k, ∀ n ∈ ((single key queue).queue k).numbers, k = key := by
    intro k n hn
    by_contra hk
    rw [queue_single_of_ne hk] at hn
    cases hn
  refine ⟨?_, fun k => ?_, fun k k' _ n hn hn' => (honly k n hn).trans (honly k' n hn').symm⟩
  · rw [single, keys_update]
    exact List.nodup_singleton key
  · by_cases hk : k = key
    · rw [hk, queue_single_self]
      exact h
    · rw [queue_single_of_ne hk]
      exact Queue.soundAt_empty k

end Registry

/-! ### Making ready -/

namespace Simulation

variable {s : Simulation} {p : Prepared} {queue : Queue}

/-- Nothing is in the cache yet, and the scenario has an answer for its owner. -/
theorem subscription_eq (s : Simulation) : s.subscription = .ok s.scenario.ownerSubscription :=
  congrArg Except.ok (if_pos rfl)

theorem seeded_eq_ok_iff : s.seeded = .ok queue ↔
    s.scenario.seedQueue s.policy.merge
      { repository := s.pull.repository, branch := s.pull.baseRef } = (none, queue) := by
  rw [seeded]
  generalize s.scenario.seedQueue _ _ = seeding
  rcases seeding with ⟨_ | error, queue⟩ <;> simp

/-- The queue that the entries of the scenario are put into. -/
theorem soundAt_unseeded (s : Simulation) :
    Queue.SoundAt { repository := s.pull.repository, branch := s.pull.baseRef } s.pull.queueKey :=
  Queue.soundAt_empty s.pull.queueKey

theorem exists_seeded_iff :
    (∃ queue, s.seeded = .ok queue) ↔ (s.scenario.queue.map ScenarioEntry.number).Nodup := by
  rw [← Scenario.seedQueue_eq_none_iff s.policy.merge s.soundAt_unseeded rfl]
  simp only [seeded_eq_ok_iff]
  exact ⟨fun ⟨_, h⟩ => congrArg Prod.fst h, fun h => ⟨_, Prod.ext h rfl⟩⟩

theorem soundAt_of_seeded (h : s.seeded = .ok queue) : queue.SoundAt s.pull.queueKey := by
  have hsound := Scenario.soundAt_seedQueue s.policy.merge s.soundAt_unseeded
  rw [seeded_eq_ok_iff.mp h] at hsound
  exact hsound

theorem exists_rule_iff :
    (∃ rule, s.rule = .ok rule) ↔ ∀ rule, s.scenario.rule = some rule →
      Rule.Consistent rule.conditions rule.missing := by
  rw [rule]
  cases s.scenario.rule with
  | none => simp
  | some rule =>
    simp only [Option.some.injEq, forall_eq']
    rw [← Rule.exists_ofTexts_iff rule.name]
    change _ ↔ ∃ r, rule.evaluate = .ok r
    cases rule.evaluate with
    | ok r => simp [Except.map, Except.mapError]
    | error error => simp [Except.map, Except.mapError]

/-- What is made ready, with a queue and a rule. -/
def prepared (s : Simulation) (queue : Queue) (rule : Option Rule) : Prepared where
  train :=
    { platform := s.scenario.platform s.usualBot
      entitlements := s.scenario.ownerSubscription.entitlements
      settings := { bots := s.policy.reporting.botIdentities, queue := s.policy.queue } }
  evaluation := { pull := s.pull, config := s.policy.merge, rule, now := s.now }
  session := { registry := .single s.pull.queueKey queue, platform := s.scenario.pull }

theorem prepare_eq_ok_iff : s.prepare = .ok p ↔
    ∃ queue, s.seeded = .ok queue ∧ ∃ rule, s.rule = .ok rule ∧ p = s.prepared queue rule := by
  simp only [prepare, bind_eq_ok_iff, pure_eq_ok_iff, subscription_eq, Except.ok.injEq,
    exists_eq_left']
  rfl

/-- **Everything can be made ready** unless the queue of the scenario holds a number twice or its
rule cannot be evaluated. -/
theorem exists_prepare_iff :
    (∃ p, s.prepare = .ok p) ↔ (s.scenario.queue.map ScenarioEntry.number).Nodup ∧
      ∀ rule, s.scenario.rule = some rule → Rule.Consistent rule.conditions rule.missing := by
  rw [← exists_seeded_iff, ← exists_rule_iff]
  simp only [prepare_eq_ok_iff]
  constructor
  · rintro ⟨_, queue, hqueue, rule, hrule, -⟩
    exact ⟨⟨queue, hqueue⟩, rule, hrule⟩
  · rintro ⟨⟨queue, hqueue⟩, rule, hrule⟩
    exact ⟨_, queue, hqueue, rule, hrule, rfl⟩

end Simulation

/-! ### Operations -/

namespace Prepared

variable {p : Prepared} {op : Operation} {first second : Outcome} {request : MergeRequest}
  {session : Session PullSnapshot}

/-- The call for an operation on what is ready. -/
def call (p : Prepared) (op : Operation) : TrainCall PullSnapshot :=
  ⟨p.train, p.evaluation, op⟩

/-- Nothing gives an operation a reason to fail: the platform serves the pull request, and the
registry is sound. -/
structure Ready (p : Prepared) : Prop where
  serves : p.train.platform.Serves p.evaluation.pull
  sound : p.session.registry.Sound

/-- An evaluation does not fail, whether the rule matches or not. -/
theorem Ready.exists_outcome (h : p.Ready) (hop : op.followsTarget = true) :
    ∃ first, (p.call op).result p.session = .ok first := by
  refine TrainCall.exists_outcome h.serves ?_ h.sound
  cases op with
  | run | cancelFlow => trivial
  | completeMerge => cases hop

/-- Neither does the merge that it hands out. -/
theorem Ready.exists_merge_outcome (h : p.Ready)
    (hfirst : (p.call op).result p.session = .ok first) (hmerge : first.merge = some request) :
    ∃ second, (p.call (.completeMerge request)).result ((p.call op).perform p.session)
      = .ok second := by
  obtain ⟨made, -, hperforms⟩ := (p.call op).performs p.session
  rw [hfirst] at hperforms
  exact TrainCall.exists_outcome h.serves (hperforms.merge_about hmerge)
    ((p.call op).sound_perform h.sound)

theorem failure_merge (h : (p.call (.completeMerge request)).result session = .ok second) :
    (p.merge first request session).failure = none := by
  have hrun : (p.train.completeMerge p.evaluation request).run.run session
      = (.ok second, (p.call (.completeMerge request)).perform session) := Prod.ext h rfl
  rw [merge, hrun]

/-- So a replay does not fail. -/
theorem Ready.failure_replay (h : p.Ready) (ruleMatches : Bool) :
    (p.replay ruleMatches).failure = none := by
  let op : Operation := if ruleMatches then .run else .cancelFlow
  have hop : op.followsTarget = true := by cases ruleMatches <;> rfl
  obtain ⟨first, hfirst⟩ := h.exists_outcome hop
  have hrun : ((if ruleMatches then p.train.run else p.train.cancelFlow) p.evaluation).run.run
      p.session = (.ok first, (p.call op).perform p.session) := by
    rw [← hfirst]
    cases ruleMatches <;> rfl
  simp only [replay, hrun]
  split
  next => rfl
  next request hmerge =>
    obtain ⟨second, hsecond⟩ := h.exists_merge_outcome hfirst hmerge
    exact failure_merge hsecond

end Prepared

/-- What can be made ready is so. -/
theorem Simulation.ready_of_prepare {s : Simulation} {p : Prepared} (h : s.prepare = .ok p) :
    p.Ready := by
  obtain ⟨queue, hqueue, rule, -, rfl⟩ := prepare_eq_ok_iff.mp h
  exact ⟨s.scenario.serves_platform s.usualBot,
    Registry.sound_single (soundAt_of_seeded hqueue)⟩

/-! ### The command -/

namespace CommandLine

theorem failure_replay (s : Simulation) : (replay s).failure = none ↔ ∃ p, s.prepare = .ok p := by
  rw [replay]
  cases hprepare : s.prepare with
  | error error => simp [Printed.failed]
  | ok p =>
    exact iff_of_true ((s.ready_of_prepare hprepare).failure_replay s.scenario.ruleMatches) ⟨p, rfl⟩

/-- **What makes a simulation fail.** Whatever policy and scenario are loaded, the simulation fails
if and only if two entries of the queue of the scenario have the same number, or the scenario has a
rule that cannot be evaluated: one of its conditions denotes none, or something missing is none of
its conditions. In every other case all is made ready, and then the evaluation of the pull request
comes to an outcome, whether or not the rule is said to match, and so does the merge that it may
hand out. -/
theorem simulate_fails_iff (files : Files) (clock : Instant) (name : String)
    (policyName : Option String) {policy : Policy} {scenario : Scenario}
    (hpolicy : loadPolicy files (policyName.getD defaultPolicyFile) = .ok policy)
    (hscenario : loadScenario files name = .ok scenario) :
    ((simulate files clock name policyName).failure ≠ none ↔
      ¬ (scenario.queue.map ScenarioEntry.number).Nodup ∨
        ∃ rule, scenario.rule = some rule ∧ ¬ Rule.Consistent rule.conditions rule.missing) ∧
    ((simulate files clock name policyName).failure = none →
      ∃ p, Simulation.prepare { policy, scenario, now := scenario.now.getD clock } = .ok p ∧
        ∀ op, op = .run ∨ op = .cancelFlow → ∃ first, (p.call op).result p.session = .ok first ∧
          ∀ request, first.merge = some request → ∃ second,
            (p.call (.completeMerge request)).result ((p.call op).perform p.session)
              = .ok second) := by
  rw [simulate, hpolicy]
  dsimp only
  rw [hscenario]
  dsimp only
  rw [failure_replay]
  refine ⟨?_, ?_⟩
  · rw [Ne, failure_replay, Simulation.exists_prepare_iff, not_and_or]
    simp
  · rintro ⟨p, hprepare⟩
    have hready := Simulation.ready_of_prepare hprepare
    refine ⟨p, hprepare, fun op hop => ?_⟩
    have hevaluates : op.followsTarget = true := by rcases hop with rfl | rfl <;> rfl
    obtain ⟨first, hfirst⟩ := hready.exists_outcome hevaluates
    exact ⟨first, hfirst, fun request hmerge => hready.exists_merge_outcome hfirst hmerge⟩

/-- A scenario in pieces: the merge of a pull request is refused because its base branch has moved,
and the pull request waits already. -/
def refusedPieces : List String :=
  ["\x7b\"pull\": \x7b\"pull\": \x7b", "\"owner\": \x7b\"id\": 42, \"login\": \"acme\"\x7d, ",
    "\"repo\": \"widgets\", ", "\"number\": 1, ", "\"head_sha\": \"sha\", ",
    "\"base_ref\": \"main\"\x7d, ", "\"title\": \"Change\", ", "\"state\": \"open\", ",
    "\"mergeable_state\": \"clean\"\x7d, ", "\"queue\": [\x7b\"number\": 1, ",
    "\"enqueued_at\": \"2026-03-01T12:00:00Z\"\x7d], ", "\"merge_error\": \x7b\"status\": 405, ",
    "\"message\": \"Base branch was modified\"\x7d\x7d"]

/-- The one file there is. -/
def refusedFiles : Files := fun name =>
  if name = "refused.json" then .text (.join refusedPieces) else .absent

/-- A merge is handed out, and it is refused without a failure. The pull request is as mergeable
afterwards as before. -/
theorem refusal_is_no_failure :
    ∃ scenario, loadPolicy refusedFiles defaultPolicyFile = .ok {} ∧
      loadScenario refusedFiles "refused.json" = .ok scenario ∧
      (simulate refusedFiles .epoch "refused.json" none).failure = none ∧
      ∃ p, Simulation.prepare { policy := {}, scenario, now := scenario.now.getD .epoch } = .ok p ∧
        ∃ first, (p.call .run).result p.session = .ok first ∧
          ∃ request, first.merge = some request ∧
            ∃ second, (p.call (.completeMerge request)).result ((p.call .run).perform p.session)
              = .ok second ∧ second.state = .mergeable := by
  have hpolicy : loadPolicy refusedFiles defaultPolicyFile = .ok {} := by
    rw [loadPolicy, refusedFiles, if_neg (by decide)]
  have hread : loadScenario refusedFiles "refused.json"
      = Scenario.ofText (.join refusedPieces) := by
    rw [loadScenario, refusedFiles, if_pos rfl]
  -- a text in pieces is evaluated piece by piece
  have hnone : (simulate refusedFiles .epoch "refused.json" none).failure = none := by
    rw [simulate, hread, Scenario.ofText, Json.read?, String.toList_join]
    decide +kernel
  have hrefused : ((loadScenario refusedFiles "refused.json").toOption.any fun scenario =>
      (Simulation.prepare { policy := {}, scenario, now := scenario.now.getD .epoch }).toOption.any
        fun p => ((p.call .run).result p.session).toOption.any fun first =>
          first.merge.any fun request => ((p.call (.completeMerge request)).result
            ((p.call .run).perform p.session)).toOption.any fun second =>
              second.state = .mergeable) = true := by
    rw [hread, Scenario.ofText, Json.read?, String.toList_join]
    decide +kernel
  cases hscenario : loadScenario refusedFiles "refused.json" with
  | error error =>
    rw [simulate, Option.getD_none, hpolicy, hscenario] at hnone
    cases hnone
  | ok scenario =>
    obtain ⟨p, hprepare, hall⟩ :=
      (simulate_fails_iff refusedFiles .epoch "refused.json" none hpolicy hscenario).2 hnone
    obtain ⟨first, hfirst, hcompletes⟩ := hall .run (.inl rfl)
    rw [hscenario, Except.toOption, Option.any_some, hprepare, Except.toOption, Option.any_some,
      hfirst, Except.toOption, Option.any_some] at hrefused
    obtain ⟨request, hmerge, hrefused⟩ := Option.any_eq_true _ _ |>.mp hrefused
    obtain ⟨second, hsecond⟩ := hcompletes request hmerge
    rw [hsecond] at hrefused
    exact ⟨scenario, hpolicy, rfl, hnone, p, hprepare, first, hfirst, request, hmerge, second,
      hsecond, of_decide_eq_true hrefused⟩

end CommandLine

end MergeTrain
