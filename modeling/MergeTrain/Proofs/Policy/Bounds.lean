import MergeTrain.Policy.Toml
import MergeTrain.Proofs.Except
import MergeTrain.Proofs.Keyed

/-!
# Bounds of policies

A weight of zero, or a limit of no minutes, would be a mistake of whoever wrote the policy. Both are
refused when a policy is read, in whichever way they are written, so they never occur in one.

## Main definitions

* `Priority.WithinBounds`, `Policy.WithinBounds` — the bounds.

## Main results

* `Priority.withinBounds_of_ofText` — a weight that is read, from its name or in digits.
* `QueueSettings.validate_eq_ok_iff` — limits that are accepted.
* `Policy.withinBounds_of_ofToml` — a policy that is read.
-/

namespace MergeTrain

/-! ### Weights -/

namespace Priority

/-- The weights that a policy may give. -/
def WithinBounds (p : Priority) : Prop :=
  1 ≤ p.weight.toNat ∧ p.weight.toNat ≤ 10000

instance (p : Priority) : Decidable p.WithinBounds :=
  inferInstanceAs (Decidable (_ ∧ _))

theorem withinBounds_of_ofInt {value : Int} {p : Priority} (h : ofInt value = .ok p) :
    p.WithinBounds := by
  unfold ofInt at h
  split at h
  next hbounds =>
    cases h
    have hmax : (highest.weight.toNat : Int) = 10000 := rfl
    simp only [WithinBounds, UInt32.toNat_ofNat']
    omega
  next => cases h

theorem WithinBounds.ofInt_toNat {p : Priority} (h : p.WithinBounds) :
    ofInt p.weight.toNat = .ok p := by
  obtain ⟨hleast, hmost⟩ := h
  have hmax : (highest.weight.toNat : Int) = 10000 := rfl
  rw [ofInt, if_pos (by omega)]
  simp

theorem withinBounds_of_ofText {text : String} {p : Priority} (h : ofText text = .ok p) :
    p.WithinBounds := by
  unfold ofText at h
  split at h
  next q halias =>
    cases h
    have hmem : (text, p) ∈ aliases := (lookup_eq_some_iff_mem (by decide)).mp halias
    have hall : ∀ a ∈ aliases, a.2.WithinBounds := by decide
    exact hall _ hmem
  next =>
    split at h
    next => exact withinBounds_of_ofInt h
    next => cases h

end Priority

/-- The priority of a policy is the default, or one that has been looked at. -/
theorem WrittenMerge.priority_of_normalize {w : WrittenMerge} {c : MergeConfig}
    (h : w.normalize = .ok c) :
    c.priority = .medium ∨ ∃ written : WrittenPriority, written.normalize = .ok c.priority := by
  unfold normalize at h
  dsimp only at h
  split at h <;> split at h <;>
    obtain ⟨_, -, h⟩ := bind_eq_ok_iff.mp h <;> obtain ⟨_, hpriority, h⟩ := bind_eq_ok_iff.mp h <;>
    cases h
  · exact .inl (Except.ok.inj hpriority).symm
  · exact .inr ⟨_, hpriority⟩
  · exact .inl (Except.ok.inj hpriority).symm
  · exact .inr ⟨_, hpriority⟩

theorem WrittenMerge.withinBounds_of_normalize {w : WrittenMerge} {c : MergeConfig}
    (h : w.normalize = .ok c) : c.priority.WithinBounds := by
  rcases priority_of_normalize h with hdefault | ⟨_ | _, hwritten⟩
  · rw [hdefault]
    decide
  · exact Priority.withinBounds_of_ofInt hwritten
  · exact Priority.withinBounds_of_ofText hwritten

/-! ### Limits -/

theorem QueueSettings.validate_eq_ok_iff (s : QueueSettings) :
    s.validate = .ok () ↔
      s.maxWaitMinutes ≠ some 0 ∧ ∀ e ∈ s.branches.entries, e.2.maxWaitMinutes ≠ some 0 := by
  unfold validate
  split
  next hzero => simp [hzero]
  next hlimit =>
    split
    next branch limit hfound =>
      have hzero := List.find?_some hfound
      have hmem := List.mem_of_find?_eq_some hfound
      simp only [reduceCtorEq, false_iff, not_and]
      exact fun _ hbranches => hbranches _ hmem (by simpa using hzero)
    next hnone => simpa [hlimit] using hnone

/-! ### Policies -/

namespace Policy

/-- The bounds of a policy. -/
structure WithinBounds (p : Policy) : Prop where
  priority : p.merge.priority.WithinBounds
  maxWait : p.queue.maxWaitMinutes ≠ some 0
  branches : ∀ e ∈ p.queue.branches.entries, e.2.maxWaitMinutes ≠ some 0

theorem withinBounds_of_normalize {w : WrittenPolicy} {p : Policy} (h : w.normalize = .ok p) :
    p.WithinBounds := by
  unfold WrittenPolicy.normalize at h
  obtain ⟨⟨⟩, hvalid, h⟩ := bind_eq_ok_iff.mp h
  obtain ⟨merge, hmerge, h⟩ := bind_eq_ok_iff.mp h
  obtain ⟨hlimit, hbranches⟩ := w.queue.validate_eq_ok_iff.mp hvalid
  cases h
  exact ⟨w.merge.withinBounds_of_normalize hmerge, hlimit, hbranches⟩

theorem withinBounds_of_ofToml {t : Toml} {p : Policy} (h : ofToml t = .ok p) :
    p.WithinBounds := by
  unfold ofToml at h
  split at h
  next => cases h
  next w _ =>
    refine withinBounds_of_normalize (w := w) ?_
    cases hw : w.normalize with
    | error e => rw [hw] at h; cases h
    | ok q => rw [hw] at h; cases h; rfl

end Policy

end MergeTrain
