import MergeTrain.Error
import MergeTrain.Instant.Rfc3339
import MergeTrain.Subscription

/-!
# Remembered subscriptions

A subscription is remembered for a while, so that its source need not be asked each time. When the
source fails, an answer that is too old to be used otherwise may still be served.

## Main definitions

* `CachedSubscription` — a subscription and when it was stored.
* `EntitlementCache` — what is remembered, and for how long.
* `EntitlementCache.subscription` — a subscription, remembered or fetched.
-/

namespace MergeTrain

open Json

/-- A subscription and when it was stored. -/
structure CachedSubscription where
  subscription : Subscription
  storedAt : Instant

namespace CachedSubscription

/-- The wire form. -/
def toJson (c : CachedSubscription) : Json :=
  .object [("subscription", c.subscription.toJson), ("stored_at", .string c.storedAt.toText)]

/-- A wire value read back. -/
def ofJson? (j : Json) : Option CachedSubscription := do
  let [subscription, storedAt] ←
    j.fields? [("subscription", .required), ("stored_at", .required)] false | none
  return {
    subscription := ← required Subscription.ofJson? subscription
    storedAt := ← required (fun j => j.text?.bind Instant.ofText?) storedAt }

/-- How long ago the subscription was stored, in nanoseconds. -/
def age (c : CachedSubscription) (now : Instant) : Int :=
  now.since c.storedAt

end CachedSubscription

/-- What is remembered, at most one subscription per owner, and for how long. -/
structure EntitlementCache where
  entries : List (UInt64 × CachedSubscription) := []
  /-- For how many nanoseconds a subscription is used without asking again. -/
  validity : Int
  /-- For how many nanoseconds it is used when asking fails. -/
  retention : Int

namespace EntitlementCache

/-- An empty cache with windows in seconds. -/
def ofSeconds (validity retention : Int) : EntitlementCache :=
  { validity := nanosOfSeconds validity, retention := nanosOfSeconds retention }

/-- An empty cache with windows of an hour and of three days. -/
def standard : EntitlementCache :=
  ofSeconds 3600 259200

/-- What is remembered about an owner. -/
def load? (cache : EntitlementCache) (ownerId : UInt64) : Option CachedSubscription :=
  cache.entries.lookup ownerId

/-- Forget an owner. -/
def invalidate (cache : EntitlementCache) (ownerId : UInt64) : EntitlementCache :=
  { cache with entries := cache.entries.filter fun e => e.1 != ownerId }

/-- Remember a subscription for its owner. -/
def put (cache : EntitlementCache) (subscription : Subscription) (now : Instant) :
    EntitlementCache :=
  { cache with
    entries := (subscription.ownerId, { subscription, storedAt := now }) ::
      (cache.invalidate subscription.ownerId).entries }

/-- Whether a subscription is too old to be used without asking again. -/
def hasExpired (cache : EntitlementCache) (entry : CachedSubscription) (now : Instant) : Bool :=
  cache.validity < entry.age now

/-- The subscription of an owner that need not be asked for. -/
def get? (cache : EntitlementCache) (ownerId : UInt64) (now : Instant) : Option Subscription :=
  ((cache.load? ownerId).filter fun entry => !cache.hasExpired entry now).map (·.subscription)

/-- The subscription of an owner that is served when asking fails. -/
def stale? (cache : EntitlementCache) (ownerId : UInt64) (now : Instant) : Option Subscription :=
  ((cache.load? ownerId).filter fun entry => entry.age now ≤ cache.retention).map (·.subscription)

/-- The subscription of an owner, and the cache afterwards. The source is asked unless there is no
need, and what it answers is remembered. -/
def subscription {m : Type → Type} [Monad m] (cache : EntitlementCache)
    (source : UInt64 → m (Except Error Subscription)) (ownerId : UInt64) (now : Instant) :
    m (Except Error Subscription × EntitlementCache) :=
  match cache.get? ownerId now with
  | some known => return (.ok known, cache)
  | none => do
    match ← source ownerId with
    | .ok fetched => return (.ok fetched, cache.put fetched now)
    | .error error =>
      match cache.stale? ownerId now with
      | some known => return (.ok known, cache)
      | none => return (.error error, cache)

end EntitlementCache

end MergeTrain
