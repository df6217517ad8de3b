import MergeTrain.MergeFailure
import MergeTrain.Proofs.Text

/-!
# What is made of a refused merge

The platform refuses a merge with a status code and a message for people, and the message is all
there is to tell one reason from another. Two sentences come first, whatever the status: that the
head branch was modified, and that the base branch was. Then a refusal with status 405 may say that
a required check is expected, and it names the check between quotes.

Such a sentence is sought from the front. What comes before it may look like its beginning, and may
name other checks: a name ends at its first quote, and if the sentence does not go on from there as
it should, the next place is tried. That the first place is found at which the sentence stands in
full is `MergeFailure.expectedCheck?_eq_some_iff`, by induction on the text: either the sentence
stands at its front, or the first one in the rest is the first one of all.

## Main definitions

* `MergeFailure.expectation` — the sentence for a check.
* `MergeFailure.ExpectsFirst` — the first such sentence of a text, and where it stands.

## Main results

* `MergeFailure.expectedCheck?_eq_some_iff` — the check of the first sentence is found.
* `MergeFailure.exists_expectedCheck?_iff` — one is found if there is one anywhere.
* `MergeFailure.conclusion_of_report` — what is published is pending for an expected check alone.
* `MergeFailure.classified_by_words` — what is made of a status and a message.
-/

namespace MergeTrain.MergeFailure

open Text

variable {s before check : List Char} {c : Char}

/-- How a sentence that says that a check is expected begins, up to the name of the check. -/
def opening : List Char :=
  "Required status check \"".toList

/-- How it goes on behind the name. -/
def closing : List Char :=
  "\" is expected.".toList

/-- The sentence that says that a check is expected. -/
def expectation (check : List Char) : List Char :=
  opening ++ (check ++ closing)

/-- A text starts with the sentence for a check. There are no quotes in the name of a check. -/
structure Expects (s check : List Char) : Prop where
  unquoted : '\"' ∉ check
  starts : expectation check <+: s

/-- The first sentence of a text that says that a check is expected is the one for `check`, and it
stands behind `before`. -/
structure ExpectsFirst (s before check : List Char) : Prop where
  here : ∃ rest, s = before ++ rest ∧ Expects rest check
  first : ∀ before' rest' check', s = before' ++ rest' → Expects rest' check' →
    before.length ≤ before'.length

/-! ### A sentence at the front -/

theorem expectation_append (check tail : List Char) :
    expectation check ++ tail = opening ++ (check ++ (closing ++ tail)) := by
  rw [expectation, List.append_assoc, List.append_assoc]

theorem expectation_ne_nil (check : List Char) : expectation check ≠ [] :=
  List.append_ne_nil_of_left_ne_nil (by decide) _

theorem not_expects_nil : ¬Expects [] check := fun h =>
  expectation_ne_nil check (List.prefix_nil.mp h.starts)

/-- A name without quotes ends where the first quote stands. -/
theorem takeWhile_name (h : '\"' ∉ check) (tail : List Char) :
    (check ++ (closing ++ tail)).takeWhile (· != '\"') = check := by
  have hname : ∀ c ∈ check, (c != '\"') = true := fun c hc =>
    bne_iff_ne.mpr fun heq => h (heq ▸ hc)
  rw [List.takeWhile_append_of_pos hname]
  exact List.append_nil check

theorem expectedCheckAt?_eq_some_iff : expectedCheckAt? s = some check ↔ Expects s check := by
  -- the parts of the sentence are named, so that nobody looks into their characters
  change (do
    let rest ← after? opening s
    let name := rest.takeWhile (· != '\"')
    let _ ← after? closing (rest.drop name.length)
    return name) = some check ↔ _
  simp only [Option.bind_eq_bind, Option.bind_eq_some_iff, after?_eq_some_iff,
    Option.pure_def, Option.some.injEq]
  constructor
  · rintro ⟨rest, rfl, tail, htail, rfl⟩
    have hrest : rest = rest.takeWhile (· != '\"') ++ (closing ++ tail) := by
      rw [← htail]
      exact (List.prefix_iff_eq_append.mp (List.takeWhile_prefix _)).symm
    refine ⟨fun hquote => ?_, tail, ?_⟩
    · exact absurd (List.mem_takeWhile_imp hquote) (by simp)
    · rw [expectation_append, ← hrest]
  · rintro ⟨hquote, tail, rfl⟩
    refine ⟨_, expectation_append check tail, ?_⟩
    rw [takeWhile_name hquote, List.drop_left]
    exact ⟨tail, rfl, rfl⟩

/-! ### The first sentence -/

theorem expectsFirst_nil (h : Expects s check) : ExpectsFirst s [] check :=
  ⟨⟨s, rfl, h⟩, fun _ _ _ _ _ => Nat.zero_le _⟩

/-- Where no such sentence starts, the first one is the first one of the rest. -/
theorem expectsFirst_cons_iff (h : ∀ check, ¬Expects (c :: s) check) :
    ExpectsFirst (c :: s) before check ↔
      ∃ between, before = c :: between ∧ ExpectsFirst s between check := by
  constructor
  · rintro ⟨⟨rest, hrest, hexpects⟩, hfirst⟩
    cases before with
    | nil => exact absurd (hrest ▸ hexpects) (h check)
    | cons d between =>
      obtain ⟨rfl, rfl⟩ := List.cons.inj hrest
      refine ⟨between, rfl, ⟨rest, rfl, hexpects⟩, fun before' rest' check' hs hexpects' => ?_⟩
      exact Nat.le_of_succ_le_succ (hfirst (c :: before') rest' check' (congrArg _ hs) hexpects')
  · rintro ⟨between, rfl, ⟨rest, rfl, hexpects⟩, hfirst⟩
    refine ⟨⟨rest, rfl, hexpects⟩, fun before' rest' check' hs hexpects' => ?_⟩
    cases before' with
    | nil => exact absurd (hs ▸ hexpects') (h check')
    | cons d before' =>
      obtain ⟨-, hs⟩ := List.cons.inj hs
      exact Nat.succ_le_succ (hfirst before' rest' check' hs hexpects')

theorem not_expects (h : expectedCheckAt? s = none) (check : List Char) : ¬Expects s check := by
  intro hexpects
  rw [expectedCheckAt?_eq_some_iff.mpr hexpects] at h
  cases h

/-- **The check of the first sentence is found.** -/
theorem expectedCheck?_eq_some_iff :
    expectedCheck? s = some check ↔ ∃ before, ExpectsFirst s before check := by
  induction s with
  | nil =>
    refine iff_of_false nofun ?_
    rintro ⟨before, ⟨rest, hrest, hexpects⟩, -⟩
    obtain ⟨-, rfl⟩ := List.nil_eq_append_iff.mp hrest
    exact not_expects_nil hexpects
  | cons c s ih =>
    rw [expectedCheck?]
    cases hat : expectedCheckAt? (c :: s) with
    | some name =>
      have hname : Expects (c :: s) name := expectedCheckAt?_eq_some_iff.mp hat
      rw [Option.some_or, Option.some.injEq]
      constructor
      · rintro rfl
        exact ⟨[], expectsFirst_nil hname⟩
      · rintro ⟨before, ⟨rest, hrest, hexpects⟩, hfirst⟩
        obtain rfl : before = [] :=
          List.length_eq_zero_iff.mp (Nat.le_zero.mp (hfirst [] _ name rfl hname))
        obtain rfl : c :: s = rest := hrest
        exact Option.some.inj (hat.symm.trans (expectedCheckAt?_eq_some_iff.mpr hexpects))
    | none =>
      simp only [Option.none_or, ih, expectsFirst_cons_iff (not_expects hat)]
      exact ⟨fun ⟨between, h⟩ => ⟨_, between, rfl, h⟩, fun ⟨_, between, _, h⟩ => ⟨between, h⟩⟩

/-- One is found if there is one anywhere. -/
theorem exists_expectedCheck?_iff :
    (∃ check, expectedCheck? s = some check) ↔
      ∃ check, '\"' ∉ check ∧ expectation check <:+: s := by
  induction s with
  | nil =>
    refine iff_of_false nofun ?_
    rintro ⟨check, -, hoccurs⟩
    exact expectation_ne_nil check (List.infix_nil.mp hoccurs)
  | cons c s ih =>
    rw [expectedCheck?]
    cases hat : expectedCheckAt? (c :: s) with
    | some name =>
      have hname : Expects (c :: s) name := expectedCheckAt?_eq_some_iff.mp hat
      exact iff_of_true ⟨name, rfl⟩ ⟨name, hname.unquoted, hname.starts.isInfix⟩
    | none =>
      simp only [Option.none_or, ih, List.infix_cons_iff]
      refine exists_congr fun check => and_congr_right fun hquote => ?_
      exact (or_iff_right fun hstarts => not_expects hat check ⟨hquote, hstarts⟩).symm

/-! ### Reasons -/

variable {status : UInt16} {message name text : String} {failure : MergeFailure}

theorem classify_eq_baseModified_iff :
    classify status message = .baseModified ↔
      "Base branch was modified".toList <:+: message.toList ∧
        ¬"Head branch was modified".toList <:+: message.toList := by
  rw [classify, ← occursIn_iff, ← occursIn_iff]
  cases occursIn "Head branch was modified" message with
  | true => simp
  | false =>
    cases occursIn "Base branch was modified" message with
    | true => simp
    | false =>
      by_cases hstatus : status = 405
      · cases expectedCheck? message.toList with
        | some check => simp [hstatus]
        | none => cases forbidden.find? fun f => occursIn f.1 message <;> simp [hstatus]
      · simp [hstatus]

theorem classify_eq_requiredStatusPending_iff :
    classify status message = .requiredStatusPending name text ↔
      (status = 405 ∧ ¬"Head branch was modified".toList <:+: message.toList ∧
        ¬"Base branch was modified".toList <:+: message.toList) ∧
      text = message ∧ expectedCheck? message.toList = some name.toList := by
  rw [classify, ← occursIn_iff, ← occursIn_iff]
  cases occursIn "Head branch was modified" message with
  | true => simp
  | false =>
    cases occursIn "Base branch was modified" message with
    | true => simp
    | false =>
      by_cases hstatus : status = 405
      · cases expectedCheck? message.toList with
        | some check => simp [hstatus, eq_comm, ← String.toList_inj, and_comm]
        | none => cases forbidden.find? fun f => occursIn f.1 message <;> simp [hstatus]
      · simp [hstatus]

theorem exists_classify_iff :
    (∃ name text, classify status message = .requiredStatusPending name text) ↔
      status = 405 ∧ ¬"Head branch was modified".toList <:+: message.toList ∧
        ¬"Base branch was modified".toList <:+: message.toList ∧
        ∃ check, '\"' ∉ check ∧ expectation check <:+: message.toList := by
  simp only [classify_eq_requiredStatusPending_iff, ← exists_expectedCheck?_iff]
  constructor
  · rintro ⟨name, text, ⟨hstatus, hhead, hbase⟩, -, hcheck⟩
    exact ⟨hstatus, hhead, hbase, name.toList, hcheck⟩
  · rintro ⟨hstatus, hhead, hbase, check, hcheck⟩
    refine ⟨.ofList check, message, ⟨hstatus, hhead, hbase⟩, rfl, ?_⟩
    rwa [String.toList_ofList]

/-! ### Reports -/

theorem report_eq_none_iff : failure.report = none ↔ failure = .baseModified := by
  cases failure <;> simp [report]

/-- What is published is pending for an expected check and for nothing else, and it never tells of a
merge. -/
theorem conclusion_of_report {report : StatusReport} (h : failure.report = some report) :
    (report.conclusion = none ↔ ∃ name text, failure = .requiredStatusPending name text) ∧
      report.conclusion ≠ some .success := by
  cases failure <;> cases h <;> simp [StatusReport.concluded, StatusReport.pending]

/-- **What is made of a status and a message.** A check is expected exactly if the status is 405,
the message says of neither branch that it was modified, and somewhere in it stands the sentence for
a check; then the check is the one of the first such sentence. Nothing is published exactly if the
base branch was modified, and the head branch was not. All else that is published is pending for an
expected check, and has a conclusion for any other reason, which is not that of a merge. -/
theorem classified_by_words (status : UInt16) (message : String) :
    let failure := classify status message
    let tells (words : String) := words.toList <:+: message.toList
    ((∃ name text, failure = .requiredStatusPending name text) ↔
      status = 405 ∧ ¬tells "Head branch was modified" ∧ ¬tells "Base branch was modified" ∧
        ∃ check, '\"' ∉ check ∧ expectation check <:+: message.toList) ∧
    (∀ name text, failure = .requiredStatusPending name text ↔
      (status = 405 ∧ ¬tells "Head branch was modified" ∧ ¬tells "Base branch was modified") ∧
        text = message ∧ ∃ before, ExpectsFirst message.toList before name.toList) ∧
    (failure.report = none ↔
      tells "Base branch was modified" ∧ ¬tells "Head branch was modified") ∧
    ∀ report, failure.report = some report →
      (report.conclusion = none ↔ ∃ name text, failure = .requiredStatusPending name text) ∧
        report.conclusion ≠ some .success := by
  intro failure tells
  refine ⟨exists_classify_iff, fun name text => ?_, ?_, fun report => conclusion_of_report⟩
  · rw [← expectedCheck?_eq_some_iff]
    exact classify_eq_requiredStatusPending_iff
  · rw [report_eq_none_iff]
    exact classify_eq_baseModified_iff

/-- A message that says of one check that it has failed, and of another that it is expected. -/
def twoChecks : String :=
  "Required status check \"lint\" has failed. Required status check \"ci/build\" is expected."

/-- It is the second check that is expected, and what is published is pending. -/
theorem second_check_is_expected :
    classify 405 twoChecks = .requiredStatusPending "ci/build" twoChecks ∧
      (∃ before, ExpectsFirst twoChecks.toList before "ci/build".toList) ∧
      ∃ report, (classify 405 twoChecks).report = some report ∧ report.conclusion = none := by
  obtain ⟨-, hwhich, -, hpublished⟩ := classified_by_words 405 twoChecks
  have hpending : classify 405 twoChecks = .requiredStatusPending "ci/build" twoChecks := by
    decide +kernel
  obtain ⟨-, -, hfirst⟩ := (hwhich _ _).mp hpending
  have hreport := congrArg report hpending
  exact ⟨hpending, hfirst, _, hreport, (hpublished _ hreport).1.mpr ⟨_, _, hpending⟩⟩

end MergeTrain.MergeFailure
