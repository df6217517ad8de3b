import MergeTrain.Proofs.Train.Answer
import MergeTrain.Proofs.Train.Escape

/-!
# Operations that cannot fail

An operation passes on the failure of its last call, and only if it does not deal with it by itself.
All of its calls are about its own pull request. So it comes to an outcome on every platform that
serves this pull request, which is to say that the platform answers such calls, or fails them in a
way that is dealt with.

## Main definitions

* `Call.About`, `Operation.About` — which pull request a call or an operation is about.
* `Platform.Serves` — a platform on which no operation on a pull request fails.

## Main results

* `Performs.about` — the calls of an operation are about its pull request.
* `Performs.merge_about` — and so is the merge that it hands out.
* `TrainCall.exists_outcome` — an operation on a pull request that is served does not fail.
-/

namespace MergeTrain

/-- A call is about a pull request, or about none. -/
def Call.About (pull : PullRef) : Call → Prop
  | .getPull other | .isBehind other | .haveBeenSynchronized other | .getChecks other
  | .updateBranch other | .rewriteBranch other _ _ => other = pull
  | .requiredChecks _ _ => True
  | .mergePull request => request.pull = pull

/-- An operation may be performed on a pull request: a merge has to be one of it. -/
def Operation.About (pull : PullRef) : Operation → Prop
  | .run | .cancelFlow => True
  | .completeMerge request => request.pull = pull

variable {σ : Type} {t : Train σ} {e : Evaluation} {r r₀ r' : Registry} {op : Operation}
  {snapshot : PullSnapshot} {isBehind allowMerge : Bool} {queue : Queue} {d : Decision}
  {made before : List Exchange} {result : Except Error Outcome}

/-! ### What the calls are about -/

theorem Evaluation.about_updateTask (e : Evaluation) (method : UpdateMethod) :
    (e.updateTask method).call.About e.pull := by
  cases method <;> rfl

theorem Ends.about (h : Ends t e r op made result r') (hop : op.About e.pull) :
    ∀ x ∈ made, x.call.About e.pull := by
  cases h with
  | mergeBreaks | mergedUnread | merged | rejectedUnread | rejectedButMerged | rejected
  | rejectedForNow | rejectedNotCompared =>
    simpa [Call.About, Operation.About] using hop
  | _ => simp [Call.About]

theorem Plans.about (h : Plans t e r op before snapshot isBehind r₀) (hop : op.About e.pull) :
    ∀ x ∈ before, x.call.About e.pull := by
  cases h with
  | completeMerge => simpa [Call.About, Operation.About] using hop
  | run | cancelFlow => simp [Call.About]

theorem Acts.about (h : Acts t e snapshot isBehind queue r d made result r') :
    ∀ x ∈ made, x.call.About e.pull := by
  cases h with
  | updates method | updateBreaks method => simpa using e.about_updateTask method
  | updateFails method | rereadFails method =>
    simpa [Call.About] using e.about_updateTask method
  | waits | blocks | evicts | merges => simp

/-- **The calls of an operation are about its pull request.** -/
theorem Performs.about (h : Performs t e r op made result r') (hop : op.About e.pull) :
    ∀ x ∈ made, x.call.About e.pull := by
  cases h with
  | ended _ _ _ h => exact h.about hop
  | planned before after _ _ _ _ _ hplan h =>
    obtain ⟨step, after, result, r', rfl, hacts⟩ := h
    intro x hx
    rcases List.mem_append.mp hx with hx | hx
    · exact hplan.about hop x hx
    · exact hacts.about x hx

/-- A merge that is handed out is one of the pull request. -/
theorem Performs.merge_about {outcome : Outcome} {request : MergeRequest}
    (h : Performs t e r op made (.ok outcome) r') (hmerge : outcome.merge = some request) :
    (Operation.completeMerge request).About e.pull := by
  cases h with
  | ended _ _ _ h =>
    rw [h.merge_eq_none] at hmerge
    cases hmerge
  | planned _ _ _ _ _ _ _ hplan h =>
    obtain ⟨step, inner, -, hacts, rfl⟩ := h.of_ok
    generalize step.decision = d at hacts
    cases hacts with
    | merges method =>
      cases hmerge
      rfl
    | _ => cases hmerge

/-! ### Platforms that serve a pull request -/

/-- Whatever failure a platform answers to a call about a pull request, it is dealt with on the
spot. -/
def Platform.Serves (platform : Platform σ) (pull : PullRef) : Prop :=
  ∀ (call : Call) (p : σ) (error : Error), call.About pull →
    (platform.answer call p).1 = .error error → ¬ call.LetsOut error

/-- An answer on record was given by the platform in one of its states. -/
theorem Platform.Gives.exists_answer {platform : Platform σ} {p p' : σ} {x : Exchange}
    (h : platform.Gives p made p') (hx : x ∈ made) :
    ∃ q, (platform.answer x.call q).1 = x.answer := by
  induction made generalizing p with
  | nil => cases hx
  | cons y made ih =>
    obtain ⟨hanswer, hrest⟩ := h
    rcases List.mem_cons.mp hx with rfl | hx
    · exact ⟨p, hanswer⟩
    · exact ih hrest hx

/-- **An operation on a pull request that is served does not fail**, from any sound registry. -/
theorem TrainCall.exists_outcome {call : TrainCall σ} {s : Session σ}
    (hserves : call.train.platform.Serves call.evaluation.pull)
    (hop : call.operation.About call.evaluation.pull) (hs : s.registry.Sound) :
    ∃ outcome, call.result s = .ok outcome := by
  obtain ⟨made, -, hgives, h⟩ := call.performs_gives s
  cases hresult : call.result s with
  | ok outcome => exact ⟨outcome, rfl⟩
  | error error =>
    rw [hresult] at h
    obtain ⟨before, last, rfl, hout⟩ := h.letsOut hs
    have hlast : (⟨last, .error error⟩ : Exchange) ∈ before ++ [⟨last, .error error⟩] := by simp
    obtain ⟨p, hanswer⟩ := hgives.exists_answer hlast
    exact absurd hout (hserves last p error (h.about hop _ hlast) hanswer)

end MergeTrain
