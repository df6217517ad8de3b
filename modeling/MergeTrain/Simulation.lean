import MergeTrain.EntitlementCache
import MergeTrain.Scenario.Platform
import MergeTrain.Train.Run

/-!
# Simulations

A scenario replayed under a policy: the pull request is evaluated, and the merge that this may hand
out is performed.

## Main definitions

* `Simulation` — a scenario, a policy and a time.
* `Simulation.prepare` — the train, the evaluation and the queue that these make.
* `Replay`, `Simulation.replay` — what happens.
-/

namespace MergeTrain

/-- A scenario to replay under a policy. -/
structure Simulation where
  policy : Policy
  scenario : Scenario
  now : Instant

/-- A train that is ready to evaluate a pull request. -/
structure Prepared where
  train : Train PullSnapshot
  evaluation : Evaluation
  session : Session PullSnapshot

/-- A cache with the windows of some settings. -/
def EntitlementSettings.cache (s : EntitlementSettings) : EntitlementCache :=
  .ofSeconds s.cacheValiditySeconds.toNat s.cacheRetentionSeconds.toNat

namespace Simulation

/-- The pull request under evaluation. -/
def pull (s : Simulation) : PullRef :=
  s.scenario.pull.pull

/-- The account that merges unless another one is configured. -/
def usualBot (s : Simulation) : String :=
  s.policy.reporting.botIdentities.head?.getD defaultBot

/-- The subscription of the owner. -/
def subscription (s : Simulation) : Except Error Subscription :=
  (s.policy.entitlements.cache.subscription (m := Id) s.scenario.fetchSubscription s.pull.owner.id
    s.now).1

/-- The queue with the other pull requests of the scenario. -/
def seeded (s : Simulation) : Except Error Queue :=
  match s.scenario.seedQueue s.policy.merge
      { repository := s.pull.repository, branch := s.pull.baseRef } with
  | (none, queue) => .ok queue
  | (some error, _) => .error error

/-- The rule of the scenario, evaluated. -/
def rule (s : Simulation) : Except Error (Option Rule) :=
  match s.scenario.rule with
  | none => .ok none
  | some rule => (rule.evaluate.map some).mapError .config

/-- Everything made ready. -/
def prepare (s : Simulation) : Except Error Prepared := do
  let subscription ← s.subscription
  let queue ← s.seeded
  let rule ← s.rule
  return {
    train :=
      { platform := s.scenario.platform s.usualBot
        entitlements := subscription.entitlements
        settings := { bots := s.policy.reporting.botIdentities, queue := s.policy.queue } }
    evaluation := { pull := s.pull, config := s.policy.merge, rule, now := s.now }
    session :=
      { registry := (({} : Registry).open s.pull.queueKey).update s.pull.queueKey fun _ => queue
        platform := s.scenario.pull } }

end Simulation

/-- What happened in a replay. -/
structure Replay where
  /-- What the evaluation came to. -/
  first : Option Outcome := none
  /-- What the merge that it handed out came to. -/
  second : Option Outcome := none
  /-- What ended the replay too early. -/
  failure : Option Error := none
  /-- The queues afterwards. -/
  registry : Registry

namespace Prepared

/-- Perform a merge that was handed out. -/
def merge (p : Prepared) (first : Outcome) (request : MergeRequest)
    (session : Session PullSnapshot) : Replay :=
  match (p.train.completeMerge p.evaluation request).run.run session with
  | (.ok second, session) =>
    { first := some first, second := some second, registry := session.registry }
  | (.error error, session) =>
    { first := some first, failure := some error, registry := session.registry }

/-- Evaluate the pull request, and perform the merge that this may hand out. -/
def replay (p : Prepared) (ruleMatches : Bool) : Replay :=
  let evaluate := if ruleMatches then p.train.run else p.train.cancelFlow
  match (evaluate p.evaluation).run.run p.session with
  | (.error error, session) => { failure := some error, registry := session.registry }
  | (.ok first, session) =>
    match first.merge with
    | none => { first := some first, registry := session.registry }
    | some request => p.merge first request session

end Prepared

end MergeTrain
