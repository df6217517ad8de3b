import MergeTrain.Json.Fields
import MergeTrain.Spelled

/-!
# Subscriptions

Some features depend on what the owner of a repository has subscribed to.

## Main definitions

* `Feature`, `FeatureSet` — the features, and sets of them.
* `Subscription` — what one owner may use.
* `Subscription.allows` — whether a given owner may use a feature under it.
* `Entitlements` — what any owner may use.
-/

namespace MergeTrain

open Json

/-- A feature that depends on a subscription. -/
inductive Feature where
  | privateRepository
  | largeRepository
  /-- Configured priorities count. -/
  | priorityQueues
  | customChecks
  | randomRequestReviews
  /-- Accounts of the owner's choice merge and update branches. -/
  | mergeBotAccount
  | botAccount
  | queueAction
  deriving DecidableEq, Repr

instance : Spelled Feature where
  all :=
    [.privateRepository, .largeRepository, .priorityQueues, .customChecks, .randomRequestReviews,
      .mergeBotAccount, .botAccount, .queueAction]
  text
    | .privateRepository => "private_repository"
    | .largeRepository => "large_repository"
    | .priorityQueues => "priority_queues"
    | .customChecks => "custom_checks"
    | .randomRequestReviews => "random_request_reviews"
    | .mergeBotAccount => "merge_bot_account"
    | .botAccount => "bot_account"
    | .queueAction => "queue_action"

/-- A set of features. -/
structure FeatureSet where
  has : Feature → Bool

namespace FeatureSet

/-- The features of a list. -/
def ofList (features : List Feature) : FeatureSet :=
  ⟨fun f => features.contains f⟩

/-- The features of a set, in the order of their declaration. -/
def toList (s : FeatureSet) : List Feature :=
  Spelled.all.filter s.has

theorem ext {s t : FeatureSet} (h : ∀ f, s.has f = t.has f) : s = t := by
  cases s; cases t; congr; funext f; exact h f

theorem has_ofList_toList (s : FeatureSet) (f : Feature) : (ofList s.toList).has f = s.has f := by
  cases h : s.has f <;> cases f <;> simp [ofList, toList, Spelled.all, h]

/-- A set is determined by its features. -/
theorem ofList_toList (s : FeatureSet) : ofList s.toList = s :=
  ext (has_ofList_toList s)

end FeatureSet

/-- What one owner may use. -/
structure Subscription where
  ownerId : UInt64
  active : Bool
  /-- What the subscription service says about it. -/
  reason : String
  features : FeatureSet

namespace Subscription

/-- The subscription of an owner without any. -/
def free (ownerId : UInt64) : Subscription :=
  { ownerId, active := false, reason := "No subscription", features := .ofList [] }

/-- A subscription to the features of the given names; unknown names are skipped. -/
def ofNames (ownerId : UInt64) (active : Bool) (reason : String) (names : List String) :
    Subscription :=
  { ownerId, active, reason, features := .ofList (names.filterMap Spelled.ofText?) }

/-- Whether the feature is part of the plan. -/
def has (s : Subscription) (feature : Feature) : Bool :=
  s.active && s.features.has feature

/-- Whether an owner may use a feature: the subscription has to be their own. -/
def allows (s : Subscription) (ownerId : UInt64) (feature : Feature) : Bool :=
  s.ownerId == ownerId && s.has feature

/-- The wire form. -/
def toJson (s : Subscription) : Json :=
  .object
    [("owner_id", .nat s.ownerId.toNat), ("active", .bool s.active), ("reason", .string s.reason),
      ("features", .array (s.features.toList.map Spelled.toJson))]

/-- The fields, in order. -/
def shape : Shape :=
  [("owner_id", .required), ("active", .required), ("reason", .required), ("features", .required)]

/-- A wire value read back. -/
def ofJson? (j : Json) : Option Subscription := do
  let [ownerId, active, reason, features] ← j.fields? shape false | none
  return {
    ownerId := ← required uint64? ownerId
    active := ← required bool? active
    reason := ← required text? reason
    features := .ofList (← required (list? Spelled.ofJson?) features) }

end Subscription

/-- How to get a feature that the subscription of an account lacks. -/
def upgradeAdvice (login : String) : String :=
  "⚠ The [subscription](https://dashboard.mergeq.dev/github/" ++ login ++
    "/subscription) needs to be updated to enable this feature."

/-- What owners may use, from wherever it is known. -/
structure Entitlements where
  /-- Whether the owner with this number may use a feature. -/
  allows : UInt64 → Feature → Bool
  /-- What to tell the account of this name about a feature that it lacks. -/
  advice : String → String := upgradeAdvice

/-- What a subscription entitles to. -/
def Subscription.entitlements (s : Subscription) : Entitlements where
  allows := s.allows

end MergeTrain
