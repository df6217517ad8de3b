import Mathlib.Tactic.MkIffOfInductiveProp
import MergeTrain.Cancellation
import MergeTrain.Proofs.Keyed

/-!
# When a pull request whose rule does not match leaves

The decision is a rule on what is known, with no regard to how that is listed. Four things settle it
at once: the pull request is closed, new commits have come, something else than a check is missing,
or there is nothing to wait for. Otherwise it waits for checks, namely those that the base branch
requires and those that a missing condition accepts, and it leaves once some of them are known and
all that are known have ended.

So neither the order nor the number of mentions of a condition or of a required check counts. And a
decision to leave that is made without any check states stands when there are some, for it was one
of the four.

## Main definitions

* `Unmatched.Awaits` — the checks that are waited for.
* `Unmatched.LeavesAnyway` — there is no need to look at checks.
* `Unmatched.HaveEnded` — the checks that are waited for have ended, as far as they are known.

## Main results

* `Unmatched.isSettled_iff`, `Unmatched.shouldCancel_iff` — the rule.
* `Unmatched.cancels_by_rule` — the rule, and what follows from it.
-/

namespace MergeTrain

theorem CheckStatus.isTerminal_iff {status : CheckStatus} :
    status.isTerminal = true ↔ status = .success ∨ status = .failure := by
  cases status <;> decide

/-- The condition on a required check accepts the check of that name and no other. -/
theorem Condition.accepts_checkSuccess {name value : String} :
    (checkSuccess name).accepts value = true ↔ value = name := by
  simp [accepts, holds, checkSuccess, ValueTest.passes]

namespace Unmatched

variable {u : Unmatched} {checks : CheckStates} {name : String} {status : CheckStatus}

/-- A check that is waited for: the base branch requires one of this name, or a missing condition
on checks accepts it. -/
def Awaits (u : Unmatched) (name : String) : Prop :=
  name ∈ u.required ∨ ∃ c ∈ u.missing, c.isCheckRelated = true ∧ c.accepts name = true

/-- There is no need to look at checks. -/
@[mk_iff]
inductive LeavesAnyway (u : Unmatched) : Prop where
  | closed (h : u.state = .closed)
  | resynchronized (h : u.resynchronized = true)
  /-- Something is missing that no check can bring. -/
  | otherMissing {c : Condition} (hc : c ∈ u.missing) (h : c.isCheckRelated = false)
  | nothingAwaited (hrequired : u.required = []) (hmissing : u.missing = [])

/-- Some check that is waited for is known, and all of those that are known have ended. -/
@[mk_iff]
structure HaveEnded (u : Unmatched) (checks : CheckStates) : Prop where
  known : ∃ name status, checks.get? name = some status ∧ u.Awaits name
  ended : ∀ name status, checks.get? name = some status → u.Awaits name →
    status = .success ∨ status = .failure

/-! ### The checks that are waited for -/

theorem exists_awaited_iff : (∃ c ∈ u.awaited, c.accepts name = true) ↔ u.Awaits name := by
  have hrequired : (∃ c ∈ requiredCheckConditions u.required, c.accepts name = true) ↔
      name ∈ u.required := by
    simp [requiredCheckConditions, Condition.accepts_checkSuccess]
  simp only [awaited, List.mem_append, or_and_right, exists_or, hrequired, List.mem_filter,
    and_assoc, Awaits]

theorem mem_awaitedStates_iff : status ∈ u.awaitedStates checks ↔
    ∃ name, checks.get? name = some status ∧ u.Awaits name := by
  simp only [awaitedStates, List.mem_map, List.mem_filter, List.any_eq_true, exists_awaited_iff,
    NameMap.get?_eq_some_iff]
  constructor
  · rintro ⟨⟨name, _⟩, ⟨hmem, hawaits⟩, rfl⟩
    exact ⟨name, hmem, hawaits⟩
  · rintro ⟨name, hmem, hawaits⟩
    exact ⟨(name, status), ⟨hmem, hawaits⟩, rfl⟩

/-- Nothing is waited for if nothing is required and nothing but other conditions are missing. -/
theorem awaited_eq_nil_iff :
    u.awaited = [] ↔ u.required = [] ∧ ∀ c ∈ u.missing, c.isCheckRelated = false := by
  simp [awaited, requiredCheckConditions, List.filter_eq_nil_iff]

/-! ### The rule -/

theorem isSettled_iff :
    u.isSettled = true ↔ ∃ checks, u.checks = some checks ∧ u.HaveEnded checks := by
  rw [isSettled]
  cases u.checks with
  | none => simp
  | some checks =>
    simp only [Option.some.injEq, exists_eq_left', Bool.and_eq_true, Bool.not_eq_true',
      List.isEmpty_eq_false_iff_exists_mem, List.all_eq_true, CheckStatus.isTerminal_iff,
      mem_awaitedStates_iff]
    constructor
    · rintro ⟨⟨status, name, hknown, hawaits⟩, hended⟩
      exact ⟨⟨name, status, hknown, hawaits⟩, fun n s hn hs => hended s ⟨n, hn, hs⟩⟩
    · rintro ⟨⟨name, status, hknown, hawaits⟩, hended⟩
      exact ⟨⟨status, name, hknown, hawaits⟩, fun s ⟨n, hn, hs⟩ => hended n s hn hs⟩

theorem shouldCancel_iff : u.shouldCancel = true ↔
    u.LeavesAnyway ∨ ∃ checks, u.checks = some checks ∧ u.HaveEnded checks := by
  simp only [shouldCancel, Bool.or_eq_true, beq_iff_eq, List.any_eq_true, Bool.not_eq_true',
    List.isEmpty_iff, awaited_eq_nil_iff, isSettled_iff]
  constructor
  · rintro ((((hclosed | hresync) | ⟨c, hc, hother⟩) | ⟨hrequired, hothers⟩) | hended)
    · exact .inl (.closed hclosed)
    · exact .inl (.resynchronized hresync)
    · exact .inl (.otherMissing hc hother)
    · -- with nothing required, the first missing condition is another one, or there is none
      cases hmissing : u.missing with
      | nil => exact .inl (.nothingAwaited hrequired hmissing)
      | cons c rest =>
        have hc : c ∈ u.missing := hmissing ▸ List.mem_cons_self
        exact .inl (.otherMissing hc (hothers c hc))
    · exact .inr hended
  · rintro ((hclosed | hresync | ⟨hc, hother⟩ | ⟨hrequired, hmissing⟩) | hended)
    · exact .inl (.inl (.inl (.inl hclosed)))
    · exact .inl (.inl (.inl (.inr hresync)))
    · exact .inl (.inl (.inr ⟨_, hc, hother⟩))
    · exact .inl (.inr ⟨hrequired, by simp [hmissing]⟩)
    · exact .inr hended

/-! ### What does not count -/

section Listing

variable {missing : List Condition} {required : List String}
  (hmissing : ∀ c, c ∈ missing ↔ c ∈ u.missing) (hrequired : ∀ n, n ∈ required ↔ n ∈ u.required)
include hmissing hrequired

theorem awaits_congr : ({ u with missing, required } : Unmatched).Awaits name ↔ u.Awaits name := by
  simp only [Awaits, hmissing, hrequired]

theorem leavesAnyway_congr :
    ({ u with missing, required } : Unmatched).LeavesAnyway ↔ u.LeavesAnyway := by
  have hnone : missing = [] ↔ u.missing = [] := by
    simp only [List.eq_nil_iff_forall_not_mem, hmissing]
  have hnothing : required = [] ↔ u.required = [] := by
    simp only [List.eq_nil_iff_forall_not_mem, hrequired]
  simp only [leavesAnyway_iff, hmissing, hnone, hnothing]

theorem haveEnded_congr :
    ({ u with missing, required } : Unmatched).HaveEnded checks ↔ u.HaveEnded checks := by
  simp only [haveEnded_iff, awaits_congr hmissing hrequired]

/-- A decision does not depend on how often, or in which order, something is listed. -/
theorem shouldCancel_congr :
    ({ u with missing, required } : Unmatched).shouldCancel = u.shouldCancel := by
  rw [Bool.eq_iff_iff, shouldCancel_iff, shouldCancel_iff, leavesAnyway_congr hmissing hrequired]
  simp only [haveEnded_congr hmissing hrequired]

end Listing

/-- What settles a decision at once has nothing to do with the states of checks. -/
theorem leavesAnyway_with_checks (known : Option CheckStates) :
    ({ u with checks := known } : Unmatched).LeavesAnyway ↔ u.LeavesAnyway := by
  simp only [leavesAnyway_iff]

/-- **The rule of leaving.** A pull request whose rule does not match leaves the queue if and only
if it is closed, new commits have come, something else than a check is missing, there is neither a
required check nor a missing condition, or check states are available, some check that is waited for
is among them, and all of these are a success or a failure. So the order and the repetition of
missing conditions and of required checks do not count, and what leaves without check states leaves
with any. -/
theorem cancels_by_rule (u : Unmatched) :
    (u.shouldCancel = true ↔
      u.LeavesAnyway ∨ ∃ checks, u.checks = some checks ∧ u.HaveEnded checks) ∧
    (∀ missing required, (∀ c, c ∈ missing ↔ c ∈ u.missing) →
      (∀ name, name ∈ required ↔ name ∈ u.required) →
      ({ u with missing, required } : Unmatched).shouldCancel = u.shouldCancel) ∧
    (({ u with checks := none } : Unmatched).shouldCancel = true →
      ∀ checks, ({ u with checks } : Unmatched).shouldCancel = true) := by
  refine ⟨shouldCancel_iff, fun missing required => shouldCancel_congr, fun hleaves checks => ?_⟩
  obtain hanyway | ⟨_, hnone, -⟩ := shouldCancel_iff.mp hleaves
  · rw [leavesAnyway_with_checks] at hanyway
    exact shouldCancel_iff.mpr (.inl ((leavesAnyway_with_checks checks).mpr hanyway))
  · cases hnone

/-- A pull request that waits for a required check and for a missing one. The linter runs on, but
nobody waits for it. -/
def failing : Unmatched where
  state := .isOpen
  resynchronized := false
  missing := [.checkSuccess "test"]
  required := ["build"]
  checks := some (.ofList [("build", .success), ("lint", .pending), ("test", .failure)])

/-- It leaves once both have ended, however often they are listed. -/
theorem failing_leaves :
    failing.shouldCancel = true ∧ failing.HaveEnded (failing.checks.getD {}) ∧
      ({ failing with
        missing := [.checkSuccess "test", .checkSuccess "test"]
        required := ["build", "build"] } : Unmatched).shouldCancel = true := by
  have hleaves : failing.shouldCancel = true := by decide
  obtain ⟨hrule, hlisting, -⟩ := cancels_by_rule failing
  refine ⟨hleaves, ?_, ?_⟩
  · obtain hanyway | ⟨checks, hchecks, hended⟩ := hrule.mp hleaves
    · obtain hclosed | hresync | ⟨hc, hother⟩ | ⟨hrequired, -⟩ := hanyway
      · cases hclosed
      · cases hresync
      · cases List.mem_singleton.mp hc
        cases hother
      · cases hrequired
    · rw [hchecks]
      exact hended
  · rw [hlisting _ _ (by simp [failing]) (by simp [failing])]
    exact hleaves

end Unmatched

end MergeTrain
