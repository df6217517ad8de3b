import Mathlib.Data.List.Induction
import MergeTrain.Proofs.Keyed
import MergeTrain.Scenario.Basic

/-!
# The states of checks from three sources

A scenario may give the states of checks as they are, as check runs, and as commit statuses, and
each source may name a check more than once. They are written into one map, one after the other, so
that a later entry takes the place of an earlier one of its name.

For a single name this comes to a rule of precedence that does not mention the map: the last commit
status of the name decides, without one the last check run, and without any the given state. An
entry of another name never matters, and nothing but the three sources brings a name in. The
induction is on the entries, last one first, and looks at one name all along.

## Main definitions

* `lastNamed?` — the last item of a list that bears a name.
* `Scenario.stateOf?` — the state of one check, by precedence.

## Main results

* `NameMap.get?_foldl_insert` — entries written into a map one after the other.
* `Scenario.get?_of_checkStates` — the states of the checks agree with the rule.
* `Scenario.folds_by_precedence` — when there are states, what they are, and of which names.
-/

namespace MergeTrain

variable {α β : Type} {label : α → String} {name : String}

/-- The last item that bears a name. -/
def lastNamed? (label : α → String) (name : String) (items : List α) : Option α :=
  (items.filter fun a => label a = name).getLast?

theorem lastNamed?_append (items later : List α) :
    lastNamed? label name (items ++ later) =
      (lastNamed? label name later).or (lastNamed? label name items) := by
  rw [lastNamed?, List.filter_append, List.getLast?_append]
  rfl

theorem lastNamed?_map (f : β → α) (items : List β) :
    lastNamed? label name (items.map f) =
      (lastNamed? (fun b => label (f b)) name items).map f := by
  rw [lastNamed?, List.filter_map, List.getLast?_map]
  rfl

theorem isSome_lastNamed?_iff {items : List α} :
    (lastNamed? label name items).isSome = true ↔ ∃ a ∈ items, label a = name := by
  rw [lastNamed?, List.getLast?_isSome, Ne, List.filter_eq_nil_iff]
  simp

/-- **The last entry of a name stays**, or what was there before if there is none. -/
theorem NameMap.get?_foldl_insert (entries : List (String × β)) (m : NameMap β) (name : String) :
    (entries.foldl (fun m e => m.insert e.1 e.2) m).get? name =
      ((lastNamed? Prod.fst name entries).map Prod.snd).or (m.get? name) := by
  induction entries using List.reverseRecOn with
  | nil => rfl
  | append_singleton entries e ih =>
    rw [List.foldl_append, List.foldl_cons, List.foldl_nil, get?_insert, ih, lastNamed?_append]
    by_cases h : e.1 = name
    · have hlast : lastNamed? Prod.fst name [e] = some e := by simp [lastNamed?, h]
      rw [if_pos h.symm, hlast]
      rfl
    · have hlast : lastNamed? Prod.fst name [e] = none := by simp [lastNamed?, h]
      rw [if_neg (Ne.symm h), hlast, Option.none_or]

namespace Scenario

variable {s : Scenario} {states : CheckStates}

/-- The state of one check: that of its last commit status, or else of its last check run, or else
the one that is given. -/
def stateOf? (s : Scenario) (name : String) : Option CheckStatus :=
  ((lastNamed? CommitStatus.context name s.commitStatuses).map fun status =>
      CheckStatus.ofCommitState status.state).or
    (((lastNamed? CheckRun.name name s.checkRuns).map fun run =>
        CheckStatus.ofCheckRun run.status run.conclusion).or
      (s.checks.bind fun given => given.get? name))

theorem checkStates_eq_none_iff :
    s.checkStates = none ↔ s.checks = none ∧ s.checkRuns = [] ∧ s.commitStatuses = [] := by
  rw [checkStates]
  split <;> simp_all [and_assoc]

/-- The entries of check runs and commit statuses, for one name. -/
theorem lastNamed?_reported (s : Scenario) (name : String) :
    (lastNamed? Prod.fst name s.reported).map Prod.snd =
      ((lastNamed? CommitStatus.context name s.commitStatuses).map fun status =>
          CheckStatus.ofCommitState status.state).or
        ((lastNamed? CheckRun.name name s.checkRuns).map fun run =>
          CheckStatus.ofCheckRun run.status run.conclusion) := by
  rw [reported, lastNamed?_append, lastNamed?_map, lastNamed?_map, Option.map_or, Option.map_map,
    Option.map_map]
  rfl

/-- **The states of the checks are those that the rule gives.** -/
theorem get?_of_checkStates (h : s.checkStates = some states) (name : String) :
    states.get? name = s.stateOf? name := by
  rw [checkStates] at h
  split at h
  · cases h
  · cases h
    rw [NameMap.get?_foldl_insert, lastNamed?_reported, stateOf?, Option.or_assoc]
    cases s.checks <;> rfl

/-- A check has a state if some source names it. -/
theorem isSome_stateOf?_iff : (s.stateOf? name).isSome = true ↔
    (∃ status ∈ s.commitStatuses, status.context = name) ∨ (∃ run ∈ s.checkRuns, run.name = name) ∨
      ∃ given, s.checks = some given ∧ name ∈ given.keys := by
  have hgiven : (s.checks.bind fun given => given.get? name).isSome = true ↔
      ∃ given, s.checks = some given ∧ name ∈ given.keys := by
    cases s.checks <;> simp [NameMap.mem_keys_iff]
  rw [stateOf?, Option.isSome_or, Option.isSome_or, Option.isSome_map, Option.isSome_map,
    Bool.or_eq_true, Bool.or_eq_true, isSome_lastNamed?_iff, isSome_lastNamed?_iff, hgiven]

/-- **Check states are folded by precedence.** There are none exactly if no source gives any. If
there are some, the state of each name is that of the last commit status, or else of the last check
run, or else the given one, and a name that no source gives does not occur. -/
theorem folds_by_precedence (s : Scenario) :
    (s.checkStates = none ↔ s.checks = none ∧ s.checkRuns = [] ∧ s.commitStatuses = []) ∧
    ∀ states, s.checkStates = some states → ∀ name,
      states.get? name = s.stateOf? name ∧
      (name ∈ states.keys ↔
        (∃ status ∈ s.commitStatuses, status.context = name) ∨
          (∃ run ∈ s.checkRuns, run.name = name) ∨
            ∃ given, s.checks = some given ∧ name ∈ given.keys) := by
  refine ⟨checkStates_eq_none_iff, ?_⟩
  intro states h name
  have hstate := get?_of_checkStates h name
  refine ⟨hstate, ?_⟩
  rw [NameMap.mem_keys_iff, hstate]
  exact isSome_stateOf?_iff

/-- A commit status overrides a check run and a given state, a check run overrides a given state,
and a later report an earlier one of its kind, whether it tells of an end or of a new beginning. -/
theorem later_status_decides :
    let pull : PullRef :=
      { owner := ⟨42, "acme"⟩, repo := "widgets", number := 1, headSha := "a1", baseRef := "main" }
    let s : Scenario :=
      { pull := { pull, title := "Change", state := .isOpen, mergeability := .clean }
        checks := some (.ofList [("build", .pending), ("docs", .failure), ("format", .failure),
          ("lint", .unknown)])
        checkRuns := [⟨"build", "completed", some "failure"⟩, ⟨"docs", "queued", none⟩,
          ⟨"docs", "completed", some "skipped"⟩, ⟨"format", "completed", some "success"⟩,
          ⟨"format", "queued", none⟩]
        commitStatuses := [⟨"build", "error"⟩, ⟨"build", "success"⟩] }
    ∃ states, s.checkStates = some states ∧ states.get? "build" = some .success ∧
      states.get? "docs" = some .success ∧ states.get? "format" = some .pending ∧
        states.get? "lint" = some .unknown ∧ "tests" ∉ states.keys := by
  intro pull s
  obtain ⟨states, hstates⟩ : ∃ states, s.checkStates = some states := ⟨_, rfl⟩
  have hfold := (folds_by_precedence s).2 states hstates
  have hbuild : s.stateOf? "build" = some .success := by decide +kernel
  have hdocs : s.stateOf? "docs" = some .success := by decide +kernel
  have hformat : s.stateOf? "format" = some .pending := by decide +kernel
  have hlint : s.stateOf? "lint" = some .unknown := by decide +kernel
  have htests : s.stateOf? "tests" = none := by decide +kernel
  refine ⟨states, hstates, (hfold "build").1.trans hbuild, (hfold "docs").1.trans hdocs,
    (hfold "format").1.trans hformat, (hfold "lint").1.trans hlint, ?_⟩
  rw [NameMap.mem_keys_iff, (hfold "tests").1, htests]
  decide

end Scenario

end MergeTrain
