import MergeTrain.Proofs.EntitlementCache.Owners

/-!
# The windows of a cache

What a cache answers is settled by what has happened before. For each owner there is a last entry:
the latest subscription that was put into the cache, or fetched for the owner, unless the owner was
invalidated since. Within one window of its age the last entry is used, and nobody is asked. After
that the source is asked, and only if it fails, and within the other window, is the last entry used
again. A time may lie before the last one, either window may be the longer one, and no window need
reach beyond zero.

The account of what has happened is kept apart from the cache. It is written by those who call, and
by the source whenever it is asked; so it also shows how often that was.

## Main definitions

* `CacheEvent`, `lastStored?` — what has happened, and the last entry of an owner.
* `CacheSession`, `CacheSession.lookUp` — a cache with its source and the account.
* `CacheCall`, `CacheCall.performAll` — calls one after the other.
* `CacheSession.Follows` — the cache has what the account says.

## Main results

* `CacheSession.lookUp_of_fresh`, `CacheSession.lookUp_of_old` — one lookup.
* `CacheSession.Follows.perform` — every call keeps cache and account together.
* `CacheSession.serves_within_windows` — over any calls.
-/

namespace MergeTrain

/-- What happens to a cache. -/
inductive CacheEvent where
  | put (subscription : Subscription) (now : Instant)
  | invalidated (ownerId : UInt64)
  /-- The source was asked for the subscription of an owner. -/
  | asked (ownerId : UInt64) (now : Instant) (answer : Except Error Subscription)

/-- What an event does to the last entry of an owner, if it does anything: there is another one
then, or none. -/
def CacheEvent.lastStored? (ownerId : UInt64) : CacheEvent → Option (Option CachedSubscription)
  | .put subscription now =>
    if subscription.ownerId = ownerId then some (some ⟨subscription, now⟩) else none
  | .invalidated owner => if owner = ownerId then some none else none
  | .asked owner now (.ok subscription) =>
    if owner = ownerId then some (some ⟨subscription, now⟩) else none
  | .asked _ _ (.error _) => none

/-- The last entry of an owner after some events, the latest of which comes first. -/
def lastStored? (ownerId : UInt64) (journal : List CacheEvent) : Option CachedSubscription :=
  (journal.findSome? (CacheEvent.lastStored? ownerId)).join

theorem lastStored?_cons (ownerId : UInt64) (event : CacheEvent) (journal : List CacheEvent) :
    lastStored? ownerId (event :: journal)
      = (event.lastStored? ownerId).getD (lastStored? ownerId journal) := by
  rw [lastStored?, List.findSome?_cons]
  cases event.lastStored? ownerId <;> rfl

/-- The subscription of the last entry, if that is no older than a window. -/
def servedWithin (window : Int) (last : Option CachedSubscription) (now : Instant) :
    Option Subscription :=
  (last.filter fun e => e.age now ≤ window).map (·.subscription)

theorem servedWithin_eq_some_iff {window : Int} {last : Option CachedSubscription} {now : Instant}
    {subscription : Subscription} :
    servedWithin window last now = some subscription ↔
      ∃ e, last = some e ∧ e.age now ≤ window ∧ e.subscription = subscription := by
  simp [servedWithin, Option.filter_eq_some_iff, and_assoc]

theorem servedWithin_eq_none {window : Int} {last : Option CachedSubscription} {now : Instant}
    (h : ∀ e, last = some e → window < e.age now) : servedWithin window last now = none := by
  refine Option.eq_none_iff_forall_ne_some.mpr fun subscription hserved => ?_
  obtain ⟨e, hlast, hage, -⟩ := servedWithin_eq_some_iff.mp hserved
  exact absurd hage (Int.not_le.mpr (h e hlast))

/-- A cache, the state of its source, and what has happened, the latest first. -/
structure CacheSession (σ : Type) where
  cache : EntitlementCache
  source : σ
  journal : List CacheEvent := []

/-- What can be asked of a cache. -/
inductive CacheCall where
  | put (subscription : Subscription) (now : Instant)
  | invalidate (ownerId : UInt64)
  | get (ownerId : UInt64) (now : Instant)
  | lookUp (ownerId : UInt64) (now : Instant)

variable {σ : Type}

/-- A source that puts on record what it was asked and how it answered. -/
def SubscriptionSource.recorded (source : SubscriptionSource σ) (now : Instant) :
    SubscriptionSource (σ × List CacheEvent) := fun ownerId (p, journal) =>
  let (answer, p) := source ownerId p
  (answer, (p, .asked ownerId now answer :: journal))

/-- Look the subscription of an owner up. -/
def CacheSession.lookUp (s : CacheSession σ) (source : SubscriptionSource σ) (ownerId : UInt64)
    (now : Instant) : Except Error Subscription × CacheSession σ :=
  let found := s.cache.lookUp (source.recorded now) ownerId now (s.source, s.journal)
  (found.result, ⟨found.cache, found.source.1, found.source.2⟩)

namespace CacheCall

/-- Make a call. -/
def perform (source : SubscriptionSource σ) (s : CacheSession σ) : CacheCall → CacheSession σ
  | .put subscription now =>
    { s with cache := s.cache.put subscription now, journal := .put subscription now :: s.journal }
  | .invalidate ownerId =>
    { s with cache := s.cache.invalidate ownerId, journal := .invalidated ownerId :: s.journal }
  | .get _ _ => s
  | .lookUp ownerId now => (s.lookUp source ownerId now).2

/-- Make calls one after the other. -/
def performAll (source : SubscriptionSource σ) (calls : List CacheCall) (s : CacheSession σ) :
    CacheSession σ :=
  calls.foldl (perform source) s

end CacheCall

namespace CacheSession

variable {s : CacheSession σ} {source : SubscriptionSource σ} {ownerId : UInt64} {now : Instant}
  {validity retention : Int} {last : Option CachedSubscription} {entry : CachedSubscription}

/-! ### The cache and the account -/

/-- The cache has the windows that it began with, and of every owner what the account says. -/
structure Follows (s : CacheSession σ) (validity retention : Int) : Prop where
  validity : s.cache.validity = validity
  retention : s.cache.retention = retention
  entry : ∀ ownerId, s.cache.load? ownerId = lastStored? ownerId s.journal

theorem follows_empty (validity retention : Int) (p : σ) :
    Follows { cache := { validity, retention }, source := p } validity retention :=
  ⟨rfl, rfl, fun _ => rfl⟩

/-- The last entry is used within the first window. -/
theorem Follows.get?_eq (h : s.Follows validity retention) (ownerId : UInt64) (now : Instant) :
    s.cache.get? ownerId now = servedWithin validity (lastStored? ownerId s.journal) now := by
  have hused : ∀ e : CachedSubscription,
      (!s.cache.hasExpired e now) = decide (e.age now ≤ validity) := by
    intro e
    rw [EntitlementCache.hasExpired, h.validity, ← decide_not]
    exact decide_eq_decide.mpr Int.not_lt
  simp only [EntitlementCache.get?, h.entry, hused, servedWithin]

/-- It is used within the second one when the source has failed. -/
theorem Follows.stale?_eq (h : s.Follows validity retention) (ownerId : UInt64) (now : Instant) :
    s.cache.stale? ownerId now = servedWithin retention (lastStored? ownerId s.journal) now := by
  rw [EntitlementCache.stale?, h.entry, h.retention, servedWithin]

/-! ### One lookup -/

/-- Within the first window nobody is asked. -/
theorem lookUp_of_fresh (h : s.Follows validity retention)
    (hlast : lastStored? ownerId s.journal = some entry) (hage : entry.age now ≤ validity) :
    s.lookUp source ownerId now = (.ok entry.subscription, s) := by
  have hget : s.cache.get? ownerId now = some entry.subscription := by
    rw [h.get?_eq]
    exact servedWithin_eq_some_iff.mpr ⟨entry, hlast, hage, rfl⟩
  rw [lookUp, EntitlementCache.lookUp_of_known hget]

/-- After it the source is asked, once, and what is made of its answer is settled. -/
theorem lookUp_of_old (source : SubscriptionSource σ) (h : s.Follows validity retention)
    (hold : ∀ e, lastStored? ownerId s.journal = some e → validity < e.age now) :
    s.lookUp source ownerId now =
      ((s.cache.settle ownerId now (source ownerId s.source).1).1,
        { cache := (s.cache.settle ownerId now (source ownerId s.source).1).2
          source := (source ownerId s.source).2
          journal := .asked ownerId now (source ownerId s.source).1 :: s.journal }) := by
  have hget : s.cache.get? ownerId now = none :=
    (h.get?_eq ownerId now).trans (servedWithin_eq_none hold)
  rw [lookUp, EntitlementCache.lookUp_of_unknown hget]
  rfl

/-! ### Any calls -/

theorem Follows.put (h : s.Follows validity retention) (subscription : Subscription)
    (now : Instant) (p : σ) (event : CacheEvent)
    (hevent : ∀ ownerId, event.lastStored? ownerId =
      if subscription.ownerId = ownerId then some (some ⟨subscription, now⟩) else none) :
    Follows ⟨s.cache.put subscription now, p, event :: s.journal⟩ validity retention where
  validity := h.validity
  retention := h.retention
  entry := by
    intro ownerId
    rw [lastStored?_cons, hevent]
    by_cases howner : subscription.ownerId = ownerId
    · subst howner
      simp
    · rw [if_neg howner, EntitlementCache.load?_put_of_ne (Ne.symm howner)]
      exact h.entry ownerId

theorem Follows.invalidate (h : s.Follows validity retention) (owner : UInt64) :
    Follows { s with
      cache := s.cache.invalidate owner
      journal := .invalidated owner :: s.journal } validity retention where
  validity := h.validity
  retention := h.retention
  entry := by
    intro ownerId
    rw [lastStored?_cons, CacheEvent.lastStored?]
    by_cases howner : owner = ownerId
    · subst howner
      simp
    · rw [if_neg howner, EntitlementCache.load?_invalidate_of_ne (Ne.symm howner)]
      exact h.entry ownerId

theorem Follows.lookUp (h : s.Follows validity retention)
    (hsource : ∀ ownerId p answer, (source ownerId p).1 = .ok answer → answer.ownerId = ownerId)
    (ownerId : UInt64) (now : Instant) :
    (s.lookUp source ownerId now).2.Follows validity retention := by
  by_cases hfresh : ∃ e, lastStored? ownerId s.journal = some e ∧ e.age now ≤ validity
  · obtain ⟨e, hlast, hage⟩ := hfresh
    rw [lookUp_of_fresh h hlast hage]
    exact h
  · have hold : ∀ e, lastStored? ownerId s.journal = some e → validity < e.age now :=
      fun e hlast => Int.not_le.mp fun hage => hfresh ⟨e, hlast, hage⟩
    rw [lookUp_of_old source h hold]
    cases hanswer : (source ownerId s.source).1 with
    | error error => exact ⟨h.validity, h.retention, h.entry⟩
    | ok answer =>
      -- the entry is stored under the owner who was asked for
      obtain rfl := hsource ownerId s.source answer hanswer
      exact h.put answer now _ _ fun _ => rfl

/-- **Every call keeps cache and account together.** -/
theorem Follows.perform (h : s.Follows validity retention)
    (hsource : ∀ ownerId p answer, (source ownerId p).1 = .ok answer → answer.ownerId = ownerId)
    (call : CacheCall) : (call.perform source s).Follows validity retention := by
  cases call with
  | put subscription now => exact h.put subscription now _ _ fun _ => rfl
  | invalidate owner => exact h.invalidate owner
  | get ownerId now => exact h
  | lookUp ownerId now => exact h.lookUp hsource ownerId now

theorem Follows.performAll (h : s.Follows validity retention)
    (hsource : ∀ ownerId p answer, (source ownerId p).1 = .ok answer → answer.ownerId = ownerId)
    (calls : List CacheCall) :
    (CacheCall.performAll source calls s).Follows validity retention := by
  induction calls generalizing s with
  | nil => exact h
  | cons call calls ih => exact ih (h.perform hsource call)

/-- **A cache serves what its windows allow.** The source answers with the subscription of the owner
who is asked for, or fails. After any calls to a cache that was empty in the beginning, at any times
and with any windows, it has the last entry of every owner. Asked for a subscription it has, it uses
the last entry exactly if that is not older than the first window. A lookup comes to the last entry
then, and nobody is asked and nothing changes. If not, the source is asked, once. Its answer is
passed on, and is the last entry from then on. If it fails, the cache stays as it is, and the lookup
comes to the last entry if that is not older than the second window, and to the failure if it is, or
if there is none. -/
theorem serves_within_windows (source : SubscriptionSource σ)
    (hsource : ∀ ownerId p answer, (source ownerId p).1 = .ok answer → answer.ownerId = ownerId)
    (validity retention : Int) (calls : List CacheCall) (p : σ) (ownerId : UInt64)
    (now : Instant) :
    let s := CacheCall.performAll source calls { cache := { validity, retention }, source := p }
    let last := lastStored? ownerId s.journal
    let answer := (source ownerId s.source).1
    let result := (s.lookUp source ownerId now).1
    let s' := (s.lookUp source ownerId now).2
    s.cache.load? ownerId = last ∧
      (∀ subscription, s.cache.get? ownerId now = some subscription ↔
        ∃ e, last = some e ∧ e.age now ≤ validity ∧ e.subscription = subscription) ∧
      (∀ e, last = some e → e.age now ≤ validity → result = .ok e.subscription ∧ s' = s) ∧
      ((∀ e, last = some e → validity < e.age now) →
        s'.journal = .asked ownerId now answer :: s.journal ∧
        (∀ fetched, answer = .ok fetched →
          result = .ok fetched ∧ s'.cache.load? ownerId = some ⟨fetched, now⟩) ∧
        ∀ error, answer = .error error → s'.cache = s.cache ∧
          (∀ e, last = some e → e.age now ≤ retention → result = .ok e.subscription) ∧
          ((∀ e, last = some e → retention < e.age now) → result = .error error)) := by
  intro s last answer result s'
  have h : s.Follows validity retention :=
    (follows_empty validity retention p).performAll hsource calls
  refine ⟨h.entry ownerId, fun subscription => ?_, fun e hlast hage => ?_, fun hold => ?_⟩
  · rw [h.get?_eq]
    exact servedWithin_eq_some_iff
  · have hfresh : s.lookUp source ownerId now = (.ok e.subscription, s) :=
      lookUp_of_fresh h hlast hage
    exact ⟨congrArg Prod.fst hfresh, congrArg Prod.snd hfresh⟩
  · have hasked := lookUp_of_old source h hold
    have hresult : result = (s.cache.settle ownerId now answer).1 := congrArg Prod.fst hasked
    have hcache : s'.cache = (s.cache.settle ownerId now answer).2 :=
      congrArg (fun x => x.2.cache) hasked
    refine ⟨congrArg (fun x => x.2.journal) hasked, fun fetched hfetched => ?_,
      fun error herror => ?_⟩
    · rw [hresult, hcache, hfetched]
      obtain rfl := hsource ownerId s.source fetched hfetched
      exact ⟨rfl, EntitlementCache.load?_put_self ..⟩
    · rw [hresult, hcache, herror, EntitlementCache.settle, h.stale?_eq]
      refine ⟨rfl, fun e hlast hage => ?_, fun hgone => ?_⟩
      · rw [servedWithin_eq_some_iff.mpr ⟨e, hlast, hage, rfl⟩]
        rfl
      · rw [servedWithin_eq_none hgone]
        rfl

/-- A source that fails after its first answer. -/
def onceThenDown : SubscriptionSource Nat := fun ownerId asked =>
  (if asked = 0 then .ok (.free ownerId) else .error (.entitlement "down"), asked + 1)

/-- A subscription is fetched at the first instant, by a cache with windows of five and of seven
nanoseconds. It is used without asking until the end of the first one. It is still served at the
end of the second one, when asking has failed, and after that the failure is all there is. -/
theorem stale_entry_is_served :
    let s := CacheCall.performAll onceThenDown [.lookUp 42 .epoch]
      { cache := { validity := 5, retention := 7 }, source := 0 }
    let lookUpAt (nanos : Nat) (h : Instant.isValid 0 nanos = true) :=
      s.lookUp onceThenDown 42 ⟨0, nanos, h⟩
    (∀ ownerId p answer, (onceThenDown ownerId p).1 = .ok answer → answer.ownerId = ownerId) ∧
      lookUpAt 5 (by decide) = (.ok (.free 42), s) ∧
      (lookUpAt 7 (by decide)).1 = .ok (.free 42) ∧
      (lookUpAt 7 (by decide)).2.journal.length = s.journal.length + 1 ∧
      (lookUpAt 8 (by decide)).1 = .error (.entitlement "down") := by
  intro s lookUpAt
  have hsource : ∀ ownerId p answer,
      (onceThenDown ownerId p).1 = .ok answer → answer.ownerId = ownerId := by
    intro ownerId p answer h
    rw [onceThenDown] at h
    split at h
    next => cases h; rfl
    next => cases h
  have hserves := serves_within_windows onceThenDown hsource 5 7 [.lookUp 42 .epoch] 0 42
  have hlast : lastStored? 42 s.journal = some ⟨.free 42, .epoch⟩ := rfl
  have hage : ∀ e, lastStored? 42 s.journal = some e → e = ⟨.free 42, .epoch⟩ :=
    fun e he => Option.some.inj (he.symm.trans hlast)
  have hold : ∀ (now : Instant), 5 < now.since .epoch →
      ∀ e, lastStored? 42 s.journal = some e → 5 < e.age now := by
    rintro now hnow e he
    obtain rfl := hage e he
    exact hnow
  obtain ⟨-, -, hfresh, -⟩ := hserves ⟨0, 5, by decide⟩
  obtain ⟨-, -, -, hstale⟩ := hserves ⟨0, 7, by decide⟩
  obtain ⟨-, -, -, hgone⟩ := hserves ⟨0, 8, by decide⟩
  obtain ⟨hresult, hsame⟩ := hfresh _ hlast (by decide)
  obtain ⟨hasked, -, hfailed⟩ := hstale (hold _ (by decide))
  obtain ⟨-, -, hfailed'⟩ := hgone (hold _ (by decide))
  refine ⟨hsource, Prod.ext hresult hsame, (hfailed _ rfl).2.1 _ hlast (by decide),
    congrArg List.length hasked, (hfailed' _ rfl).2.2 fun e he => ?_⟩
  obtain rfl := hage e he
  decide

end CacheSession

end MergeTrain
