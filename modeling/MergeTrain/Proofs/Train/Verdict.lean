import MergeTrain.Proofs.Train.Gate

/-!
# Verdicts

An outcome says twice how it stands with a pull request: by a state, and by a report that may have a
conclusion. Nothing computes the one from the other. Where a pull request goes no further because of
what it looks like, the state is taken from the snapshot. Where an update of its head branch has
failed, it is taken from the report. Everywhere else both are fixed.

What is said about a merge can be relied on in one respect: nobody is reported as merged whom the
platform has not just shown as merged, and a merge that the platform shows after it was asked for is
always reported, even if it had been refused.

The two halves need not agree, though. A report on a draft comes before one on a merge, and has no
conclusion. So a merged draft is reported as a draft that is in the state of being merged, unless it
is found out after an update that failed.

## Main definitions

* `Outcome.Agrees` — the state and the report of an outcome say the same.
* `Outcome.TellsMerge` — one of them says that the pull request is merged.
* `Operation.MeetsMergedDraft` — an operation reports on a merged draft.

## Main results

* `Ends.verdict`, `Acts.verdict` — where the two halves of an outcome come from.
* `Train.agrees_iff` — they agree unless a merged draft is met.
* `Train.merged_draft_disagrees` — and then they do not.
* `Train.tells_merge_as_read` — a merge is reported if it happened, and only then.
-/

namespace MergeTrain

/-! ### Reports -/

/-- A report that ends the stay of a pull request that is not merged. -/
def StatusReport.isDismissal (r : StatusReport) : Bool :=
  r.isTerminal && r.conclusion != some .success

theorem PullSnapshot.isDismissal_of_mergeabilityReport {s : PullSnapshot} {strict : StrictMode}
    {report : StatusReport} (h : s.mergeabilityReport strict = some report) :
    report.isDismissal = true := by
  rw [mergeabilityReport] at h
  split at h
  · obtain rfl := Option.some.inj h
    rfl
  · obtain rfl := Option.some.inj h
    rfl
  · split at h <;> cases h
    rfl
  · cases h

/-- A report on a draft has no conclusion, one on a merged pull request is a success if it is no
draft, and every other one is a dismissal. -/
theorem PullSnapshot.mergeReport_cases {s : PullSnapshot} {bots : List String}
    {strict : StrictMode} {report : StatusReport} (h : s.mergeReport bots strict = some report) :
    (s.isDraft = true ∧ report.conclusion = none) ∨
      (s.isDraft = false ∧ s.merged = true ∧ report.conclusion = some .success) ∨
      (s.isDraft = false ∧ s.merged = false ∧ report.isDismissal = true) := by
  rw [mergeReport] at h
  cases hdraft : s.isDraft with
  | true =>
    rw [hdraft, if_pos rfl] at h
    obtain rfl := Option.some.inj h
    exact .inl ⟨rfl, rfl⟩
  | false =>
    cases hmerged : s.merged with
    | true =>
      simp only [hdraft, hmerged, Bool.false_eq_true, if_false, if_true] at h
      obtain rfl := Option.some.inj h
      exact .inr (.inl ⟨rfl, rfl, rfl⟩)
    | false =>
      refine .inr (.inr ⟨rfl, rfl, ?_⟩)
      simp only [hdraft, hmerged, Bool.false_eq_true, if_false] at h
      split at h
      · obtain rfl := Option.some.inj h
        rfl
      · -- what is left is a verdict of the platform, or a change to the workflows
        rcases Option.or_eq_some_iff.mp h with hverdict | ⟨-, hworkflow⟩
        · exact isDismissal_of_mergeabilityReport hverdict
        · split at hworkflow <;> cases hworkflow
          rfl

/-- There is a report on every merged pull request, and on every draft. -/
theorem PullSnapshot.of_mergeReport_eq_none {s : PullSnapshot} {bots : List String}
    {strict : StrictMode} (h : s.mergeReport bots strict = none) :
    s.isDraft = false ∧ s.merged = false := by
  rw [mergeReport] at h
  cases hdraft : s.isDraft <;> cases hmerged : s.merged <;> simp [hdraft, hmerged] at h ⊢

theorem MergeConfig.isDismissal_of_refusal {config : MergeConfig} {entitlements : Entitlements}
    {owner : Owner} {report : StatusReport} (h : config.refusal entitlements owner = some report) :
    report.isDismissal = true := by
  rw [refusal] at h
  split at h
  · cases h
  · obtain ⟨option, -, rfl⟩ := Option.map_eq_some_iff.mp h
    rfl

theorem EvictionReason.isDismissal_report (reason : EvictionReason) :
    reason.report.isDismissal = true := by
  cases reason <;> rfl

/-- What is published about a refused merge is pending or a dismissal. -/
theorem MergeFailure.isDismissal_of_report {failure : MergeFailure} {report : StatusReport}
    (h : failure.report = some report) : report.isDismissal = report.isTerminal := by
  cases failure <;> cases h <;> rfl

/-- A plan that lets a pull request out of the queue dismisses it. -/
theorem Facts.isDismissal_of_decision {f : Facts} {q : Queue} {report : StatusReport}
    (h : (f.decision q).report? = some report) : report.isDismissal = true := by
  rw [decision] at h
  split at h
  · -- it is late
    obtain rfl := Option.some.inj h
    rfl
  · split at h
    · split at h
      · split at h
        · cases h
        · -- it cannot be rebased, and nothing else is allowed
          obtain rfl := Option.some.inj h
          rfl
      · cases h
    · split at h <;> cases h

/-! ### Outcomes -/

namespace Outcome

variable {outcome : Outcome} {snapshot : PullSnapshot} {report : StatusReport}

/-- The state and the report say the same: a final state goes with a conclusion, and to be merged
with success. -/
def Agrees (outcome : Outcome) : Prop :=
  (outcome.state.isFinal = true → outcome.report.isTerminal = true) ∧
    (outcome.state = .merged ↔ outcome.report.conclusion = some .success)

instance : Decidable outcome.Agrees :=
  inferInstanceAs (Decidable (_ ∧ _))

/-- The state or the report says that the pull request is merged. -/
def TellsMerge (outcome : Outcome) : Prop :=
  outcome.state = .merged ∨ outcome.report.conclusion = some .success

/-- Neither of them says that the pull request is merged, and if it has left the train the report
dismisses it. -/
structure Unmerged (outcome : Outcome) : Prop where
  state : outcome.state ≠ .merged
  conclusion : outcome.report.conclusion ≠ some .success
  dismissed : outcome.state = .cancelled → outcome.report.isTerminal = true

theorem Unmerged.agrees (h : outcome.Unmerged) : outcome.Agrees := by
  refine ⟨fun hfinal => ?_, iff_of_false h.state h.conclusion⟩
  cases hstate : outcome.state with
  | merged => exact absurd hstate h.state
  | cancelled => exact h.dismissed hstate
  | _ =>
    rw [hstate] at hfinal
    cases hfinal

theorem Unmerged.not_tellsMerge (h : outcome.Unmerged) : ¬ outcome.TellsMerge :=
  not_or.mpr ⟨h.state, h.conclusion⟩

theorem unmerged_of_isDismissal (h : outcome.report.isDismissal = true)
    (hstate : outcome.state ≠ .merged) : outcome.Unmerged := by
  obtain ⟨hterminal, hsuccess⟩ := Bool.and_eq_true_iff.mp h
  exact ⟨hstate, bne_iff_ne.mp hsuccess, fun _ => hterminal⟩

theorem unmerged_of_pending (h : outcome.report.conclusion = none)
    (hstate : outcome.state.isFinal = false) : outcome.Unmerged := by
  refine ⟨?_, by simp [h], ?_⟩ <;> intro hfinal <;> simp [hfinal, TrainState.isFinal] at hstate

/-- Whoever looks unmerged is not told to be merged. -/
theorem unmerged_ofSnapshot {bots : List String} {strict : StrictMode}
    (h : snapshot.mergeReport bots strict = some report) (hmerged : snapshot.merged = false) :
    (ofSnapshot snapshot report).Unmerged := by
  have hstate : (ofSnapshot snapshot report).state
      = if report.isTerminal then .cancelled else .notQueued := by
    simp [ofSnapshot, stateOf, hmerged]
  rcases PullSnapshot.mergeReport_cases h with ⟨-, hnone⟩ | ⟨-, htrue, -⟩ | ⟨-, -, hdismissal⟩
  · exact unmerged_of_pending hnone (by simp [hstate, StatusReport.isTerminal, hnone,
      TrainState.isFinal])
  · cases hmerged.symm.trans htrue
  · exact unmerged_of_isDismissal hdismissal (by rw [hstate]; split <;> simp)

/-- Whoever goes no further because of what it looks like is told so in agreement, unless it is a
merged draft. -/
theorem agrees_ofSnapshot_iff {bots : List String} {strict : StrictMode}
    (h : snapshot.mergeReport bots strict = some report) :
    (ofSnapshot snapshot report).Agrees ↔
      ¬ (snapshot.isDraft = true ∧ snapshot.merged = true) := by
  cases hmerged : snapshot.merged with
  | false => exact iff_of_true (unmerged_ofSnapshot h hmerged).agrees (by simp)
  | true =>
    rcases PullSnapshot.mergeReport_cases h with ⟨hdraft, hnone⟩ | ⟨hdraft, -, hsuccess⟩ |
      ⟨-, hfalse, -⟩
    · simp [Agrees, ofSnapshot, stateOf, hmerged, hdraft, hnone, StatusReport.isTerminal,
        TrainState.isFinal]
    · simp [Agrees, ofSnapshot, stateOf, hmerged, hdraft, hsuccess, StatusReport.isTerminal]
    · cases hmerged.symm.trans hfalse

/-- Whoever leaves after an update that failed is told so in agreement. -/
theorem agrees_stateAfterUpdate (hstate : outcome.state = stateAfterUpdate outcome.report) :
    outcome.Agrees := by
  rw [Agrees, hstate, stateAfterUpdate, StatusReport.isTerminal]
  split
  · simp [*]
  · simp_all [TrainState.isFinal]
  · simp_all [TrainState.isFinal]

end Outcome

/-! ### Where the two halves come from -/

/-- An operation reports on a merged draft: it has read one, and no update came before that. An
operation whose rule does not match has to find it closed as well. -/
structure Operation.MeetsMergedDraft (op : Operation) (e : Evaluation) (made : List Exchange) :
    Prop where
  read : ∃ snapshot : PullSnapshot, ⟨.getPull e.pull, .ok snapshot⟩ ∈ made ∧
    snapshot.isDraft = true ∧ snapshot.merged = true ∧
    (op = .cancelFlow → snapshot.isClosed = true)
  direct : (made.map Exchange.call).filter Call.isUpdate = []

variable {σ : Type} {t : Train σ} {e : Evaluation} {r r₀ r' : Registry} {op : Operation}
  {snapshot : PullSnapshot} {isBehind allowMerge : Bool} {queue : Queue} {d : Decision}
  {made before after : List Exchange} {outcome : Outcome}

/-- Where one snapshot was read and nothing was updated, it is the one that counts. -/
theorem Operation.meetsMergedDraft_iff (snapshot : PullSnapshot)
    (hmem : ⟨.getPull e.pull, .ok snapshot⟩ ∈ made)
    (hread : made.filterMap Exchange.snapshot? = [snapshot])
    (hdirect : (made.map Exchange.call).filter Call.isUpdate = []) :
    op.MeetsMergedDraft e made ↔ snapshot.isDraft = true ∧ snapshot.merged = true ∧
      (op = .cancelFlow → snapshot.isClosed = true) := by
  constructor
  · rintro ⟨⟨seen, hseen, h⟩, -⟩
    have honly : seen ∈ [snapshot] := hread ▸ List.mem_filterMap.mpr ⟨_, hseen, rfl⟩
    rwa [← List.mem_singleton.mp honly]
  · exact fun h => ⟨⟨snapshot, hmem, h⟩, hdirect⟩

/-- What comes of a merge that is done speaks of the snapshot, unless that looks as if nothing had
happened. -/
theorem Train.mergedOutcome_cases (t : Train σ) (e : Evaluation) (snapshot : PullSnapshot) :
    (t.report? e snapshot = none ∧ (t.mergedOutcome e snapshot).Unmerged) ∨
      ∃ report, t.report? e snapshot = some report ∧
        t.mergedOutcome e snapshot = .ofSnapshot snapshot report := by
  rw [mergedOutcome]
  cases h : t.report? e snapshot with
  | none => exact .inl ⟨rfl, Outcome.unmerged_of_isDismissal rfl TrainState.noConfusion⟩
  | some report => exact .inr ⟨report, rfl, rfl⟩

/-- A refused or a confirmed merge is followed by one look at the pull request. -/
theorem Operation.meetsMergedDraft_completeMerge_iff {request : MergeRequest}
    {answer : Except Error Unit} :
    (completeMerge request).MeetsMergedDraft e
        [⟨.mergePull request, answer⟩, ⟨.getPull e.pull, .ok snapshot⟩] ↔
      snapshot.isDraft = true ∧ snapshot.merged = true := by
  rw [meetsMergedDraft_iff snapshot (by simp) rfl rfl]
  simp

/-- The outcome of an operation that ends before a plan speaks of the snapshot that was read, or
does not speak of a merge. -/
theorem Ends.verdict (h : Ends t e r op made (.ok outcome) r') :
    (outcome.Unmerged ∧ ¬ op.MeetsMergedDraft e made) ∨
      ∃ snapshot report, t.report? e snapshot = some report ∧
        outcome = .ofSnapshot snapshot report ∧ ⟨.getPull e.pull, .ok snapshot⟩ ∈ made ∧
        (op.MeetsMergedDraft e made ↔ snapshot.isDraft = true ∧ snapshot.merged = true) := by
  have hevicted : (Outcome.evicted EvictionReason.ruleUnmatched.report).Unmerged :=
    Outcome.unmerged_of_isDismissal rfl TrainState.noConfusion
  cases h with
  | refused report h =>
    refine .inl ⟨Outcome.unmerged_of_isDismissal (MergeConfig.isDismissal_of_refusal h)
      TrainState.noConfusion, fun hmeets => ?_⟩
    obtain ⟨_, hmem, -⟩ := hmeets.read
    cases hmem
  | reported snapshot report _ hreport =>
    refine .inr ⟨snapshot, report, hreport, rfl, by simp, ?_⟩
    rw [Operation.meetsMergedDraft_iff snapshot (by simp) rfl rfl]
    simp
  | unmatchedReported snapshot report hreport =>
    have hiff : Operation.cancelFlow.MeetsMergedDraft e [⟨.getPull e.pull, .ok snapshot⟩] ↔ _ :=
      Operation.meetsMergedDraft_iff snapshot (by simp) rfl rfl
    cases hclosed : snapshot.isClosed with
    | true =>
      refine .inr ⟨snapshot, report, hreport, rfl, by simp, ?_⟩
      simp [hiff, hclosed]
    | false =>
      refine .inl ⟨hevicted, ?_⟩
      simp [hiff, hclosed]
  | unmatchedLoose snapshot hreport =>
    refine .inl ⟨hevicted, ?_⟩
    rw [Operation.meetsMergedDraft_iff snapshot (by simp) rfl rfl,
      (PullSnapshot.of_mergeReport_eq_none hreport).1]
    simp
  | cancelled snapshot resynchronized required checks hreport =>
    refine .inl ⟨hevicted, ?_⟩
    rw [Operation.meetsMergedDraft_iff snapshot (by simp) rfl rfl,
      (PullSnapshot.of_mergeReport_eq_none hreport).1]
    simp
  | merged request answer snapshot =>
    rcases t.mergedOutcome_cases e snapshot with ⟨hreport, hunmerged⟩ | ⟨report, hreport, houtcome⟩
    · refine .inl ⟨hunmerged, Operation.meetsMergedDraft_completeMerge_iff.not.mpr ?_⟩
      simp [(PullSnapshot.of_mergeReport_eq_none hreport).1]
    · exact .inr ⟨snapshot, report, hreport, houtcome, by simp,
        Operation.meetsMergedDraft_completeMerge_iff⟩
  | rejectedButMerged request status message snapshot hmerged =>
    rcases t.mergedOutcome_cases e snapshot with ⟨hreport, -⟩ | ⟨report, hreport, houtcome⟩
    · -- there is a report on whatever is merged
      rw [(PullSnapshot.of_mergeReport_eq_none hreport).2] at hmerged
      cases hmerged
    · exact .inr ⟨snapshot, report, hreport, houtcome, by simp,
        Operation.meetsMergedDraft_completeMerge_iff⟩
  | rejected request status message snapshot report hmerged hfailure hterminal =>
    refine .inl ⟨Outcome.unmerged_of_isDismissal ?_ TrainState.noConfusion,
      Operation.meetsMergedDraft_completeMerge_iff.not.mpr (by simp [hmerged])⟩
    exact (MergeFailure.isDismissal_of_report hfailure).trans hterminal
  | rejectedForNow request status message snapshot report hmerged hfailure hterminal =>
    have hnone : report.conclusion = none := by
      simpa [StatusReport.isTerminal] using hterminal
    exact .inl ⟨Outcome.unmerged_of_pending hnone rfl,
      Operation.meetsMergedDraft_completeMerge_iff.not.mpr (by simp [hmerged])⟩

/-- The outcome of a decision does not speak of a merge, unless an update failed: then the pull
request was read again, and the state is read off from the report. -/
theorem Acts.verdict (h : Acts t e snapshot isBehind queue r d made (.ok outcome) r')
    (hd : ∀ report, d.report? = some report → report.isDismissal = true) :
    outcome.Unmerged ∨
      outcome.state = Outcome.stateAfterUpdate outcome.report ∧
        ∃ later : PullSnapshot, ⟨.getPull e.pull, .ok later⟩ ∈ made ∧
          (outcome.report.conclusion = some .success → later.merged = true) := by
  cases h with
  | waits | merges | updates =>
    exact .inl (Outcome.unmerged_of_pending rfl rfl)
  | blocks report =>
    exact .inl (Outcome.unmerged_of_isDismissal (hd report rfl) TrainState.noConfusion)
  | evicts reason =>
    exact .inl (Outcome.unmerged_of_isDismissal reason.isDismissal_report TrainState.noConfusion)
  | updateFails method title message later report h =>
    refine .inr ⟨rfl, later, by simp, fun hsuccess => ?_⟩
    subst h
    rw [UpdateTask.failed] at hsuccess
    split at hsuccess
    · rename_i report hreport
      rcases PullSnapshot.mergeReport_cases hreport with ⟨-, hnone⟩ | ⟨-, hmerged, -⟩ |
        ⟨-, -, hdismissal⟩
      · cases hnone.symm.trans hsuccess
      · exact hmerged
      · exact absurd hsuccess (bne_iff_ne.mp (Bool.and_eq_true_iff.mp hdismissal).2)
    · cases hsuccess

/-- Whatever was decided, nobody is read again unless an update has failed. -/
theorem Acts.eq_nil {result : Except Error Outcome}
    (h : Acts t e snapshot isBehind queue r d made result r')
    (hdirect : (made.map Exchange.call).filter Call.isUpdate = []) : made = [] := by
  cases h with
  | waits | blocks | evicts | merges => rfl
  | updates | updateFails | rereadFails | updateBreaks => simp at hdirect

theorem Advances.verdict
    (h : Advances t e snapshot isBehind allowMerge r made (.ok outcome) r') :
    outcome.Unmerged ∨
      outcome.state = Outcome.stateAfterUpdate outcome.report ∧
        ∃ later : PullSnapshot, ⟨.getPull e.pull, .ok later⟩ ∈ made ∧
          (outcome.report.conclusion = some .success → later.merged = true) := by
  obtain ⟨step, inner, rfl, hacts, rfl⟩ := h.of_ok
  rcases hacts.verdict fun report hreport => Facts.isDismissal_of_decision hreport with
    hunmerged | hlater
  · exact .inl ⟨hunmerged.state, hunmerged.conclusion, hunmerged.dismissed⟩
  · exact .inr hlater

theorem Advances.eq_nil {result : Except Error Outcome}
    (h : Advances t e snapshot isBehind allowMerge r made result r')
    (hdirect : (made.map Exchange.call).filter Call.isUpdate = []) : made = [] := by
  obtain ⟨step, made, result, r', -, hacts⟩ := h
  exact hacts.eq_nil hdirect

/-- Nothing is planned for a merged draft. -/
theorem Plans.not_meetsMergedDraft {result : Except Error Outcome}
    (hplan : Plans t e r op before snapshot isBehind r₀)
    (h : Advances t e snapshot isBehind allowMerge r₀ after result r') :
    ¬ op.MeetsMergedDraft e (before ++ after) := by
  intro hmeets
  have hafter : after = [] := by
    refine h.eq_nil ?_
    have hdirect := hmeets.direct
    rwa [List.map_append, List.filter_append, hplan.filter_isUpdate, List.nil_append] at hdirect
  rw [hafter, List.append_nil] at hmeets
  have hread : before.filterMap Exchange.snapshot? = [snapshot] := by
    cases hplan <;> rfl
  have hmem : ⟨.getPull e.pull, .ok snapshot⟩ ∈ before := by
    cases hplan <;> simp
  obtain ⟨hdraft, hmerged, -⟩ :=
    (Operation.meetsMergedDraft_iff snapshot hmem hread hplan.filter_isUpdate).mp hmeets
  cases hplan with
  | run _ _ _ _ hreport | cancelFlow _ _ _ _ _ hreport =>
    exact absurd hdraft (by simp [(PullSnapshot.of_mergeReport_eq_none hreport).1])
  | completeMerge _ _ _ _ _ hunmerged => exact absurd hmerged (by simp [hunmerged])

/-! ### State and report -/

theorem Performs.agrees_iff_not_meets (h : Performs t e r op made (.ok outcome) r') :
    outcome.Agrees ↔ ¬ op.MeetsMergedDraft e made := by
  cases h with
  | ended _ _ _ h =>
    rcases h.verdict with ⟨hunmerged, hmeets⟩ | ⟨snapshot, report, hreport, rfl, -, hmeets⟩
    · exact iff_of_true hunmerged.agrees hmeets
    · rw [Outcome.agrees_ofSnapshot_iff hreport, hmeets]
  | planned before after snapshot isBehind _ r₀ r' hplan h =>
    refine iff_of_true ?_ (hplan.not_meetsMergedDraft h)
    rcases h.verdict with hunmerged | ⟨hstate, -⟩
    · exact hunmerged.agrees
    · exact Outcome.agrees_stateAfterUpdate hstate

/-- A snapshot is given the same state by what it shows and by what is reported on it, unless it is
that of a merged draft. -/
theorem Outcome.stateOf_eq_stateAfterUpdate_iff {bots : List String} {strict : StrictMode}
    {report : StatusReport} (h : snapshot.mergeReport bots strict = some report) :
    stateOf snapshot report = stateAfterUpdate report ↔
      ¬ (snapshot.isDraft = true ∧ snapshot.merged = true) := by
  rcases PullSnapshot.mergeReport_cases h with ⟨hdraft, hnone⟩ | ⟨hdraft, hmerged, hsuccess⟩ |
    ⟨hdraft, hmerged, hdismissal⟩
  · cases hmerged : snapshot.merged <;>
      simp [stateOf, stateAfterUpdate, hdraft, hmerged, hnone, StatusReport.isTerminal]
  · simp [stateOf, stateAfterUpdate, hdraft, hmerged, hsuccess]
  · obtain ⟨hterminal, hsuccess⟩ := Bool.and_eq_true_iff.mp hdismissal
    obtain ⟨conclusion, hconclusion⟩ := Option.isSome_iff_exists.mp hterminal
    cases conclusion <;>
      simp_all [stateOf, stateAfterUpdate, StatusReport.isTerminal]

/-- **State and report agree, unless a merged draft is met.** Whatever the platform answers, an
outcome with a final state has a report with a conclusion, and the state is that of a merged pull
request if and only if the conclusion is success. This fails exactly where the operation reports on
a draft that is merged. That is also the one snapshot to which the two ways of finding a state, from
what it shows and from the report on it, give different states. -/
theorem Train.agrees_iff (t : Train σ) (e : Evaluation) (op : Operation) (s : Session σ) :
    (∃ made, ((t.perform e op).runOn s).2.exchanges = s.exchanges ++ made ∧
      ∀ outcome, ((t.perform e op).runOn s).1 = .ok outcome →
        (outcome.Agrees ↔ ¬ op.MeetsMergedDraft e made)) ∧
    ∀ snapshot report, t.report? e snapshot = some report →
      (Outcome.stateOf snapshot report = Outcome.stateAfterUpdate report ↔
        ¬ (snapshot.isDraft = true ∧ snapshot.merged = true)) := by
  refine ⟨?_, fun snapshot report => Outcome.stateOf_eq_stateAfterUpdate_iff⟩
  obtain ⟨made, hmade, h⟩ := t.perform_does e s.registry op s rfl
  refine ⟨made, hmade, fun outcome hok => ?_⟩
  rw [hok] at h
  exact h.agrees_iff_not_meets

/-- The first pull request after it was merged. -/
def Still.merged : PullSnapshot :=
  { clean with state := .closed, merged := true }

/-- It is evaluated while it looks like that, and nothing waits. -/
def Still.evaluating (snapshot : PullSnapshot) : Except Error Outcome × Session Unit :=
  ((train { snapshot }).perform (evaluation {}) .run).runOn { platform := () }

/-- That it is merged is told by the state and by the report. -/
theorem Train.merged_agrees :
    ∃ outcome, (Still.evaluating Still.merged).1 = .ok outcome ∧ outcome.state = .merged ∧
      (Still.train { snapshot := Still.merged }).report? (Still.evaluation {}) Still.merged
        = some outcome.report ∧
      outcome.Agrees ∧
      Outcome.stateOf Still.merged outcome.report = Outcome.stateAfterUpdate outcome.report := by
  have htest : ((Still.evaluating Still.merged).1.toOption.any fun outcome =>
      outcome.state = .merged ∧
        (Still.train { snapshot := Still.merged }).report? (Still.evaluation {}) Still.merged
          = some outcome.report) = true := by
    decide +kernel
  obtain ⟨outcome, hok, htest⟩ := Still.exists_outcome htest
  obtain ⟨hmerged, hreport⟩ := of_decide_eq_true htest
  have hread : (Still.evaluating Still.merged).2.exchanges.filterMap Exchange.snapshot?
      = [Still.merged] := by
    decide +kernel
  obtain ⟨⟨made, hmade, hagrees⟩, hstate⟩ :=
    Train.agrees_iff (Still.train { snapshot := Still.merged }) (Still.evaluation {}) .run
      { platform := () }
  refine ⟨outcome, hok, hmerged, hreport, (hagrees outcome hok).mpr ?_,
    (hstate _ _ hreport).mpr (by decide)⟩
  rintro ⟨⟨seen, hseen, hdraft, -⟩, -⟩
  rw [Still.evaluating, hmade, List.nil_append] at hread
  have honly : seen ∈ [Still.merged] := hread ▸ List.mem_filterMap.mpr ⟨_, hseen, rfl⟩
  rw [List.mem_singleton.mp honly] at hdraft
  cases hdraft

/-- A merged draft is reported as a draft that is in the state of being merged. After an update that
failed, the same report goes with another state. -/
theorem Train.merged_draft_disagrees :
    ∃ outcome, (Still.evaluating { Still.merged with isDraft := true }).1 = .ok outcome ∧
      outcome.state = .merged ∧ outcome.report.conclusion = none ∧ ¬ outcome.Agrees ∧
      Outcome.stateAfterUpdate outcome.report = .notQueued := by
  have htest : ((Still.evaluating { Still.merged with isDraft := true }).1.toOption.any
      fun outcome => outcome.state = .merged ∧ outcome.report.conclusion = none) = true := by
    decide +kernel
  obtain ⟨outcome, hok, htest⟩ := Still.exists_outcome htest
  obtain ⟨hmerged, hnone⟩ := of_decide_eq_true htest
  refine ⟨outcome, hok, hmerged, hnone, fun hagrees => ?_, ?_⟩
  · cases hnone.symm.trans (hagrees.2.mp hmerged)
  · rw [Outcome.stateAfterUpdate, hnone]

/-! ### What is said about a merge -/

/-- Whoever is reported as merged has been shown as merged. -/
theorem Performs.shown_merged (h : Performs t e r op made (.ok outcome) r')
    (htells : outcome.TellsMerge) :
    ∃ seen : PullSnapshot, ⟨.getPull e.pull, .ok seen⟩ ∈ made ∧ seen.merged = true := by
  cases h with
  | ended _ _ _ h =>
    rcases h.verdict with ⟨hunmerged, -⟩ | ⟨snapshot, report, hreport, rfl, hmem, -⟩
    · exact absurd htells hunmerged.not_tellsMerge
    · refine ⟨snapshot, hmem, ?_⟩
      by_contra hmerged
      rw [Bool.not_eq_true] at hmerged
      exact (Outcome.unmerged_ofSnapshot hreport hmerged).not_tellsMerge htells
  | planned before after snapshot isBehind _ r₀ r' hplan h =>
    rcases h.verdict with hunmerged | ⟨hstate, later, hmem, hmerged⟩
    · exact absurd htells hunmerged.not_tellsMerge
    · refine ⟨later, List.mem_append_right _ hmem, hmerged ?_⟩
      rcases htells with hmergedState | hsuccess
      · rw [hstate, Outcome.stateAfterUpdate] at hmergedState
        split at hmergedState
        · assumption
        · cases hmergedState
        · cases hmergedState
      · exact hsuccess

/-- A merge was asked for, and if it was done or refused, the pull request was read again. Where it
was merged by then, that is the state which is reported, and it waits no more. -/
def Operation.ConfirmsMerge (e : Evaluation) (request : MergeRequest) (made : List Exchange)
    (result : Except Error Outcome) (r' : Registry) : Prop :=
  ∃ (answer : Except Error Unit) (rest : List Exchange),
    made = ⟨.mergePull request, answer⟩ :: rest ∧
    ((answer = .ok () ∨ ∃ status message, answer = .error (.mergeRejected status message)) →
      ∃ (reread : Except Error PullSnapshot) (rest' : List Exchange),
        rest = ⟨.getPull e.pull, reread⟩ :: rest' ∧
        ∀ snapshot, reread = .ok snapshot → snapshot.merged = true →
          ∃ outcome, result = .ok outcome ∧ outcome.state = .merged ∧ r'.holds e.pull = false)

/-- Whoever is read as merged after that is reported as merged. -/
theorem Train.state_mergedOutcome (hmerged : snapshot.merged = true) :
    (t.mergedOutcome e snapshot).state = .merged := by
  rcases t.mergedOutcome_cases e snapshot with ⟨hreport, -⟩ | ⟨report, -, houtcome⟩
  · rw [(PullSnapshot.of_mergeReport_eq_none hreport).2] at hmerged
    cases hmerged
  · rw [houtcome, Outcome.ofSnapshot, Outcome.stateOf, if_pos hmerged]

theorem Performs.confirmsMerge {request : MergeRequest} {result : Except Error Outcome}
    (h : Performs t e r (.completeMerge request) made result r') (hr : r.Distinct) :
    Operation.ConfirmsMerge e request made result r' := by
  have hgone : (((r.open e.pull.queueKey).leave e.pull).prune e.pull.queueKey).holds e.pull
      = false := by
    rw [Registry.holds_prune, Registry.holds_leave]
    rw [Registry.queue_open]
    exact hr.queue _
  cases h with
  | ended _ _ _ h =>
    cases h with
    | mergeBreaks _ error herror =>
      refine ⟨.error error, [], rfl, ?_⟩
      rintro (hok | ⟨status, message, herror'⟩)
      · cases hok
      · exact absurd (Except.error.inj herror') (herror status message)
    | mergedUnread | rejectedUnread =>
      exact ⟨_, _, rfl, fun _ => ⟨_, _, rfl, fun _ hok => nomatch hok⟩⟩
    | merged _ answer snapshot =>
      refine ⟨_, _, rfl, fun _ => ⟨_, _, rfl, fun snapshot' hok hmerged => ?_⟩⟩
      obtain rfl := Except.ok.inj hok
      exact ⟨_, rfl, Train.state_mergedOutcome hmerged, hgone⟩
    | rejectedButMerged _ status message snapshot hmerged =>
      exact ⟨_, _, rfl, fun _ => ⟨_, _, rfl, fun _ _ _ =>
        ⟨_, rfl, Train.state_mergedOutcome hmerged, hgone⟩⟩⟩
    | rejected _ _ _ snapshot _ hunmerged | rejectedForNow _ _ _ snapshot _ hunmerged
    | rejectedNotCompared _ _ _ snapshot _ hunmerged =>
      refine ⟨_, _, rfl, fun _ => ⟨_, _, rfl, fun snapshot' hok hmerged => ?_⟩⟩
      obtain rfl := Except.ok.inj hok
      cases hunmerged.symm.trans hmerged
  | planned before after snapshot isBehind _ r₀ r' hplan h =>
    cases hplan with
    | completeMerge _ status message _ _ hunmerged =>
      refine ⟨_, _, rfl, fun _ => ⟨_, _, rfl, fun snapshot' hok hmerged => ?_⟩⟩
      obtain rfl := Except.ok.inj hok
      cases hunmerged.symm.trans hmerged

/-- **A merge is reported if it happened, and only then.** Whatever the platform answers, an outcome
tells that a pull request is merged only if the operation has read it as merged. And an operation
that asks for a merge reads the pull request again once that is done or refused: if it is merged by
then, the outcome says so and the pull request has left its queue, whatever the refusal was. -/
theorem Train.tells_merge_as_read (t : Train σ) (e : Evaluation) (op : Operation) (s : Session σ)
    (hs : s.registry.Distinct) :
    ∃ made, ((t.perform e op).runOn s).2.exchanges = s.exchanges ++ made ∧
      (∀ outcome, ((t.perform e op).runOn s).1 = .ok outcome → outcome.TellsMerge →
        ∃ seen : PullSnapshot, ⟨.getPull e.pull, .ok seen⟩ ∈ made ∧ seen.merged = true) ∧
      ∀ request, op = .completeMerge request →
        Operation.ConfirmsMerge e request made ((t.perform e op).runOn s).1
          ((t.perform e op).runOn s).2.registry := by
  obtain ⟨made, hmade, h⟩ := t.perform_does e s.registry op s rfl
  refine ⟨made, hmade, fun outcome hok => ?_, fun request hop => ?_⟩
  · rw [hok] at h
    exact h.shown_merged
  · subst hop
    exact h.confirmsMerge hs

/-- A platform that refuses the merge of a pull request that somebody else has merged. -/
def Still.outrun : Still where
  snapshot := merged
  merge := .error (.mergeRejected 405 "Pull Request is not mergeable")

/-- The refusal does not count. -/
theorem Train.refused_merge_is_confirmed :
    let request : MergeRequest := { pull := Still.pull 1, method := .merge }
    let s := Still.waiting [Still.newEntry 1 {} 0]
    let after := ((Still.train .outrun).perform (Still.evaluation {})
      (.completeMerge request)).runOn s
    s.registry.Distinct ∧ ∃ outcome, after.1 = .ok outcome ∧ outcome.state = .merged ∧
      outcome.TellsMerge ∧ (∃ seen : PullSnapshot,
        ⟨.getPull (Still.pull 1), .ok seen⟩ ∈ after.2.exchanges ∧ seen.merged = true) ∧
      after.2.registry.holds (Still.pull 1) = false := by
  intro request s after
  have hs : s.registry.Distinct := by decide
  obtain ⟨made, hmade, htells, hconfirms⟩ := Train.tells_merge_as_read (Still.train .outrun)
    (Still.evaluation {}) (.completeMerge request) s hs
  obtain ⟨answer, rest, rfl, hreread⟩ := hconfirms request rfl
  have hexchanges : after.2.exchanges = [⟨.mergePull request, Still.outrun.merge⟩,
      ⟨.getPull (Still.pull 1), .ok Still.merged⟩] := rfl
  obtain ⟨hanswer, hrest⟩ := List.cons.inj (hmade.symm.trans hexchanges)
  obtain rfl : answer = Still.outrun.merge := eq_of_heq (Exchange.mk.inj hanswer).2
  obtain ⟨reread, rest', rfl, hmerged⟩ := hreread (.inr ⟨_, _, rfl⟩)
  obtain ⟨hanswer, -⟩ := List.cons.inj hrest
  obtain rfl : reread = .ok Still.merged := eq_of_heq (Exchange.mk.inj hanswer).2
  obtain ⟨outcome, hok, hstate, hgone⟩ := hmerged _ rfl rfl
  obtain ⟨seen, hseen, hmerged⟩ := htells outcome hok (.inl hstate)
  refine ⟨hs, outcome, hok, hstate, .inl hstate, ⟨seen, ?_, hmerged⟩, hgone⟩
  rw [hmade]
  exact hseen

end MergeTrain
