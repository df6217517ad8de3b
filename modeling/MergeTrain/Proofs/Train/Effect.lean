import MergeTrain.Session

/-!
# What operations do

A statement about every platform is a statement about every list of answers. `TrainM.Does` is the
form in which such statements are proved: from a given registry, and whatever the platform answers,
an operation makes certain exchanges, ends in a certain way and leaves a certain registry. The state
of the platform is gone from it, and so are the exchanges that were made before.

There is one rule for each way in which operations are put together. They are used from the front:
a rule for a call asks for what follows it, with the exchange put before what the rest makes.

## Main definitions

* `TrainM.runOn` — an operation carried out from a session.
* `TrainM.Does` — what an operation does from a registry.

## Main results

* `TrainM.Does.bind`, `TrainM.Does.mono` — one after the other, and less precisely.
* `TrainM.Does.ask_bind`, `TrainM.Does.consult_bind` — the rules for calls to the platform.
* `TrainM.Does.thenPrune` — the rule for an operation that leaves no idle queue behind.
-/

namespace MergeTrain

namespace TrainM

variable {σ α β : Type}

/-- Carry an operation out: how it ends, and what it leaves. -/
def runOn (m : TrainM σ α) (s : Session σ) : Except Error α × Session σ :=
  m.run.run s

theorem runOn_bind (m : TrainM σ α) (f : α → TrainM σ β) (s : Session σ) :
    (m >>= f).runOn s =
      match m.runOn s with
      | (.ok a, s') => (f a).runOn s'
      | (.error error, s') => (.error error, s') := by
  change (ExceptT.bindCont f (m.runOn s).1).run (m.runOn s).2 = _
  rcases m.runOn s with ⟨_ | _, _⟩ <;> rfl

/-- From the registry `r`, whatever the platform answers, `m` makes exchanges, ends and leaves a
registry as `E` tells. -/
def Does (m : TrainM σ α) (r : Registry)
    (E : List Exchange → Except Error α → Registry → Prop) : Prop :=
  ∀ s : Session σ, s.registry = r → ∃ made,
    (m.runOn s).2.exchanges = s.exchanges ++ made ∧
      E made (m.runOn s).1 (m.runOn s).2.registry

namespace Does

variable {m : TrainM σ α} {f : α → TrainM σ β} {r : Registry}
  {E F : List Exchange → Except Error α → Registry → Prop}
  {G : List Exchange → Except Error β → Registry → Prop}

theorem mono (h : m.Does r E) (hEF : ∀ made result r', E made result r' → F made result r') :
    m.Does r F := fun s hs => by
  obtain ⟨made, hx, hE⟩ := h s hs
  exact ⟨made, hx, hEF _ _ _ hE⟩

theorem pure {a : α} (h : E [] (.ok a) r) : (Pure.pure a : TrainM σ α).Does r E := by
  rintro s rfl
  exact ⟨[], (List.append_nil _).symm, h⟩

theorem throw {error : Error} (h : E [] (.error error) r) :
    (MonadExcept.throw error : TrainM σ α).Does r E := by
  rintro s rfl
  exact ⟨[], (List.append_nil _).symm, h⟩

/-- **One operation after the other.** If the first one fails, the second is not begun. -/
theorem bind (hm : m.Does r E)
    (hok : ∀ made a r', E made (.ok a) r' →
      (f a).Does r' fun made' result r'' => G (made ++ made') result r'')
    (herror : ∀ made error r', E made (.error error) r' → G made (.error error) r') :
    (m >>= f).Does r G := by
  intro s hs
  obtain ⟨made, hx, hE⟩ := hm s hs
  rw [runOn_bind]
  rcases hr : m.runOn s with ⟨error | a, s'⟩
  · rw [hr] at hx hE
    exact ⟨made, hx, herror _ _ _ hE⟩
  · rw [hr] at hx hE
    obtain ⟨made', hx', hG⟩ := hok made a s'.registry hE s' rfl
    refine ⟨made ++ made', ?_, hG⟩
    rw [hx', hx, List.append_assoc]

/-! ### Calls to the platform -/

variable {platform : Platform σ} {call : Call}

theorem ask : (MergeTrain.ask platform call).Does r fun made result r' =>
    made = [⟨call, result⟩] ∧ r' = r := by
  rintro s rfl
  exact ⟨_, rfl, rfl, rfl⟩

theorem consult : (MergeTrain.consult platform call).Does r fun made result r' =>
    ∃ answer, made = [⟨call, answer⟩] ∧ result = .ok answer ∧ r' = r := by
  rintro s rfl
  exact ⟨_, rfl, _, rfl, rfl, rfl⟩

theorem ask_bind {f : call.Answer → TrainM σ β}
    (herror : ∀ error, G [⟨call, .error error⟩] (.error error) r)
    (hok : ∀ a, (f a).Does r fun made result r' => G (⟨call, .ok a⟩ :: made) result r') :
    (MergeTrain.ask platform call >>= f).Does r G := by
  refine ask.bind (fun made a r' h => ?_) (fun made error r' h => ?_)
  · obtain ⟨rfl, rfl⟩ := h
    exact hok a
  · obtain ⟨rfl, rfl⟩ := h
    exact herror error

theorem consult_bind {f : Except Error call.Answer → TrainM σ β}
    (h : ∀ answer, (f answer).Does r fun made result r' => G (⟨call, answer⟩ :: made) result r') :
    (MergeTrain.consult platform call >>= f).Does r G := by
  refine consult.bind (fun made a r' h' => ?_) (fun made error r' h' => ?_)
  · obtain ⟨answer, rfl, ha, rfl⟩ := h'
    cases ha
    exact h a
  · obtain ⟨answer, -, ha, -⟩ := h'
    cases ha

/-! ### Changes to the registry -/

theorem changeRegistry_bind {change : Registry → Registry} {f : Unit → TrainM σ β}
    (h : (f ()).Does (change r) G) : (changeRegistry change >>= f).Does r G := by
  rintro s rfl
  exact h { s with registry := change s.registry } rfl

theorem changeQueue_bind {pull : PullRef} {change : Queue → Queue} {f : Unit → TrainM σ β}
    (h : (f ()).Does (r.update pull.queueKey change) G) :
    (changeQueue pull change >>= f).Does r G :=
  changeRegistry_bind h

theorem queueOf_bind {pull : PullRef} {f : Queue → TrainM σ β}
    (h : (f (r.queue pull.queueKey)).Does r G) : (queueOf pull >>= f).Does r G := by
  rintro s rfl
  exact h s rfl

theorem thenPrune {pull : PullRef}
    (h : m.Does r fun made result r' => E made result (r'.prune pull.queueKey)) :
    (MergeTrain.thenPrune pull m).Does r E :=
  h

end Does

end TrainM

end MergeTrain
