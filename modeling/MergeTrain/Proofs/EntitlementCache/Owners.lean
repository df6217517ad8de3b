import MergeTrain.EntitlementCache

/-!
# Owners in the cache

A cache is asked about one owner and goes by what it has on that owner alone. What it stores is
another matter. A subscription is stored under the owner that it names, and that is the one who was
asked for only if the source has answered the question. So a lookup leaves all other owners alone,
and is remembered for its own, exactly if the subscription that it fetches is the one it has asked
for. A source that answers with the subscription of somebody else changes what is known about them,
and the one who was asked for stays unknown, however often the source is asked.

## Main definitions

* `SubscriptionSource` — somewhere to ask for subscriptions.
* `EntitlementCache.lookUp`, `EntitlementCache.fetched?` — a lookup, and what it fetches.
* `EntitlementCache.ShowsAlike` — two caches cannot be told apart by asking about one owner.

## Main results

* `EntitlementCache.lookUp_of_known`, `EntitlementCache.lookUp_of_unknown` — the two ways of a
  lookup.
* `EntitlementCache.showsAlike_of_load?_eq` — a cache goes by what it has on an owner.
* `EntitlementCache.owners_apart_iff` — when a lookup leaves the others alone and is remembered.
* `EntitlementCache.answer_for_another_replaces` — a lookup that does neither.
-/

namespace MergeTrain

/-- Somewhere to ask for subscriptions, with a state of its own. -/
abbrev SubscriptionSource (σ : Type) :=
  UInt64 → StateM σ (Except Error Subscription)

/-- What comes of a lookup: the answer, the cache afterwards, and the source. -/
structure LookedUp (σ : Type) where
  result : Except Error Subscription
  cache : EntitlementCache
  source : σ

theorem Instant.since_self (now : Instant) : now.since now = 0 := by
  simp [since, leapBetween]

/-- A list without one key is the same to all others. -/
theorem lookup_filter_ne {κ β : Type} [BEq κ] [LawfulBEq κ] {k key : κ} (h : k ≠ key)
    (l : List (κ × β)) : (l.filter fun e => e.1 != key).lookup k = l.lookup k := by
  induction l with
  | nil => rfl
  | cons e l ih =>
    obtain ⟨k', v⟩ := e
    by_cases hk : k' = key
    · subst hk
      have hne : (k == k') = false := beq_eq_false_iff_ne.mpr h
      simp [List.lookup_cons, hne, ih]
    · simp [hk, List.lookup_cons, ih]

namespace EntitlementCache

variable {σ : Type} {cache cache' : EntitlementCache} {source : SubscriptionSource σ}
  {a b : UInt64} {now : Instant} {s : Subscription} {p : σ}

/-! ### The entry of an owner -/

@[simp] theorem load?_put_self (cache : EntitlementCache) (s : Subscription) (now : Instant) :
    (cache.put s now).load? s.ownerId = some ⟨s, now⟩ := by
  simp [load?, put]

theorem load?_invalidate_of_ne (h : b ≠ a) : (cache.invalidate a).load? b = cache.load? b :=
  lookup_filter_ne h cache.entries

theorem load?_put_of_ne (h : b ≠ s.ownerId) : (cache.put s now).load? b = cache.load? b := by
  have hne : (b == s.ownerId) = false := beq_eq_false_iff_ne.mpr h
  have hrest : (cache.invalidate s.ownerId).load? b = cache.load? b := load?_invalidate_of_ne h
  rw [load?] at hrest
  rw [load?, put, List.lookup_cons, hne]
  exact hrest

@[simp] theorem load?_invalidate_self (cache : EntitlementCache) (a : UInt64) :
    (cache.invalidate a).load? a = none := by
  rw [load?, invalidate, List.lookup_eq_none_iff]
  intro e he
  have hne : e.1 ≠ a := by simpa using (List.mem_filter.mp he).2
  exact bne_iff_ne.mpr hne.symm

/-- What was stored just now is used, unless nothing is. -/
theorem get?_put_self (cache : EntitlementCache) (s : Subscription) (now : Instant) :
    (cache.put s now).get? s.ownerId now = if 0 ≤ cache.validity then some s else none := by
  have hexpired : (cache.put s now).hasExpired ⟨s, now⟩ now = decide (cache.validity < 0) := by
    rw [hasExpired, CachedSubscription.age, Instant.since_self]
    rfl
  rw [get?, load?_put_self, Option.filter_some, hexpired]
  by_cases h : 0 ≤ cache.validity
  · simp [h]
  · simp [h, Int.not_le.mp h]

/-! ### The two ways of a lookup -/

/-- Look a subscription up. -/
def lookUp (cache : EntitlementCache) (source : SubscriptionSource σ) (a : UInt64) (now : Instant)
    (p : σ) : LookedUp σ :=
  let ((result, cache), p) := (cache.subscription source a now).run p
  { result, cache, source := p }

/-- What a lookup comes to once the source has answered, and the cache afterwards. -/
def settle (cache : EntitlementCache) (a : UInt64) (now : Instant) :
    Except Error Subscription → Except Error Subscription × EntitlementCache
  | .ok fetched => (.ok fetched, cache.put fetched now)
  | .error error => ((cache.stale? a now).elim (.error error) .ok, cache)

/-- Nobody is asked for a subscription that can be used. -/
theorem lookUp_of_known (h : cache.get? a now = some s) :
    cache.lookUp source a now p = ⟨.ok s, cache, p⟩ := by
  rw [lookUp, subscription, h]
  rfl

/-- Otherwise the source is asked, once. -/
theorem lookUp_of_unknown (h : cache.get? a now = none) :
    cache.lookUp source a now p =
      ⟨(cache.settle a now (source a p).1).1, (cache.settle a now (source a p).1).2,
        (source a p).2⟩ := by
  rw [lookUp, subscription, h]
  dsimp only [bind, StateT.bind, StateT.run]
  rcases source a p with ⟨error | fetched, q⟩
  · dsimp only [settle]
    cases cache.stale? a now <;> rfl
  · rfl

/-- The subscription that a lookup fetches, if it asks the source and the source does not fail. -/
def fetched? (cache : EntitlementCache) (source : SubscriptionSource σ) (a : UInt64)
    (now : Instant) (p : σ) : Option Subscription :=
  match cache.get? a now with
  | some _ => none
  | none => (source a p).1.toOption

/-- A subscription that is fetched is the answer, and is stored under the owner that it names. -/
theorem lookUp_of_fetched (h : cache.fetched? source a now p = some s) :
    cache.get? a now = none ∧ (cache.lookUp source a now p).result = .ok s ∧
      (cache.lookUp source a now p).cache = cache.put s now := by
  rw [fetched?] at h
  split at h
  next => cases h
  next hunknown =>
    rw [lookUp_of_unknown hunknown]
    rcases hanswer : (source a p).1 with error | fetched
    · rw [hanswer] at h
      cases h
    · rw [hanswer] at h
      cases h
      exact ⟨hunknown, rfl, rfl⟩

/-- A lookup that fetches nothing changes nothing. -/
theorem cache_lookUp_of_not_fetched (h : cache.fetched? source a now p = none) :
    (cache.lookUp source a now p).cache = cache := by
  cases hknown : cache.get? a now with
  | some s => rw [lookUp_of_known hknown]
  | none =>
    rw [lookUp_of_unknown hknown]
    rw [fetched?, hknown] at h
    rcases hanswer : (source a p).1 with error | fetched
    · rfl
    · simp [hanswer, Except.toOption] at h

/-! ### Asking about one owner -/

/-- Two caches cannot be told apart by asking about an owner, whenever and whichever source is
there to help. -/
structure ShowsAlike (cache' cache : EntitlementCache) (b : UInt64) : Prop where
  get : ∀ later, cache'.get? b later = cache.get? b later
  lookUp : ∀ {τ : Type} (source : SubscriptionSource τ) (later : Instant) (q : τ),
    (cache'.lookUp source b later q).result = (cache.lookUp source b later q).result ∧
      (cache'.lookUp source b later q).source = (cache.lookUp source b later q).source

/-- **A cache goes by what it has on the owner that it is asked about**, and by its windows. -/
theorem showsAlike_of_load?_eq (hload : cache'.load? b = cache.load? b)
    (hvalidity : cache'.validity = cache.validity)
    (hretention : cache'.retention = cache.retention) : cache'.ShowsAlike cache b := by
  have hget : ∀ later, cache'.get? b later = cache.get? b later := by
    intro later
    simp only [get?, hload, hasExpired, hvalidity]
  have hstale : ∀ later, cache'.stale? b later = cache.stale? b later := by
    intro later
    simp only [stale?, hload, hretention]
  refine ⟨hget, fun source later q => ?_⟩
  cases hknown : cache.get? b later with
  | some s =>
    rw [lookUp_of_known hknown, lookUp_of_known ((hget later).trans hknown)]
    exact ⟨rfl, rfl⟩
  | none =>
    rw [lookUp_of_unknown hknown, lookUp_of_unknown ((hget later).trans hknown)]
    rcases (source b q).1 with error | fetched
    · simp only [settle, hstale, and_self]
    · exact ⟨rfl, rfl⟩

/-- To store a subscription shows to its owner alone. -/
theorem showsAlike_put_of_ne (h : b ≠ s.ownerId) : (cache.put s now).ShowsAlike cache b :=
  showsAlike_of_load?_eq (load?_put_of_ne h) rfl rfl

/-- **When owners do not get in each other's way.** A lookup shows to no other owner, and what it
fetches is used for the owner who was asked for from then on, exactly if the source does not answer
with the subscription of somebody else. (A window of less than no time is the one other reason for
which something that was fetched is not used.) -/
theorem owners_apart_iff (cache : EntitlementCache) (source : SubscriptionSource σ) (a : UInt64)
    (now : Instant) (p : σ) :
    ((∀ b, b ≠ a → (cache.lookUp source a now p).cache.ShowsAlike cache b) ∧
      ∀ s, cache.fetched? source a now p = some s →
        (cache.lookUp source a now p).result = .ok s ∧
          (cache.lookUp source a now p).cache.get? a now = some s) ↔
    ∀ s, cache.fetched? source a now p = some s → s.ownerId = a ∧ 0 ≤ cache.validity := by
  constructor
  · rintro ⟨-, hkept⟩ s hs
    obtain ⟨hunknown, -, hcache⟩ := lookUp_of_fetched hs
    have hget := (hkept s hs).2
    rw [hcache] at hget
    -- under another name the subscription would not be found by asking for this owner
    by_cases howner : s.ownerId = a
    · subst howner
      rw [get?_put_self] at hget
      split at hget
      next hvalidity => exact ⟨rfl, hvalidity⟩
      next => cases hget
    · rw [(showsAlike_put_of_ne (Ne.symm howner)).get now, hunknown] at hget
      cases hget
  · intro hown
    cases hfetched : cache.fetched? source a now p with
    | none =>
      rw [cache_lookUp_of_not_fetched hfetched]
      exact ⟨fun b _ => showsAlike_of_load?_eq rfl rfl rfl, fun s hs => nomatch hs⟩
    | some s =>
      obtain ⟨rfl, hvalidity⟩ := hown s hfetched
      obtain ⟨-, hresult, hcache⟩ := lookUp_of_fetched hfetched
      rw [hcache]
      refine ⟨fun b hb => showsAlike_put_of_ne hb, fun s' hs' => ?_⟩
      cases hs'
      exact ⟨hresult, by rw [get?_put_self, if_pos hvalidity]⟩

/-- A source that has the same answer for everybody. -/
def sameForAll (s : Subscription) : SubscriptionSource Unit :=
  fun _ => pure (.ok s)

/-- The subscription of an owner who has paid. -/
def paid : Subscription :=
  .ofNames 42 true "active" ["priority_queues"]

/-- What is known about one owner is replaced when another one is asked for, and that one is not
known afterwards. -/
theorem answer_for_another_replaces :
    let before := standard.put paid .epoch
    let source := sameForAll (.free 42)
    let after := before.lookUp source 7 .epoch ()
    before.get? 42 .epoch = some paid ∧ after.cache.get? 42 .epoch = some (.free 42) ∧
      ¬ (∀ b, b ≠ 7 → after.cache.ShowsAlike before b) ∧
      ∃ s, before.fetched? source 7 .epoch () = some s ∧ after.result = .ok s ∧
        after.cache.get? 7 .epoch = none := by
  intro before source after
  have hfetched : before.fetched? source 7 .epoch () = some (.free 42) := rfl
  obtain ⟨hunknown, hresult, hcache⟩ := lookUp_of_fetched hfetched
  have hpaid : before.get? 42 .epoch = some paid := rfl
  have hfree : after.cache.get? 42 .epoch = some (.free 42) := rfl
  have hother : after.cache.get? 7 .epoch = none := by
    rw [hcache, (showsAlike_put_of_ne (by decide)).get, hunknown]
  refine ⟨hpaid, hfree, fun halike => ?_, _, hfetched, hresult, hother⟩
  have hsame := (halike 42 (by decide)).get .epoch
  rw [hfree, hpaid] at hsame
  have hactive : false = true := congrArg Subscription.active (Option.some.inj hsame)
  cases hactive

end EntitlementCache

end MergeTrain
