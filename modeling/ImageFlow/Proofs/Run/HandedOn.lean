import ImageFlow.Proofs.Run.Calls
import ImageFlow.Proofs.Run.Fallback

/-!
# What the built-in hooks make of a failure

A success leaves the built-in hooks as a success and a failure as a failure.  Only release checks
replace an error, by the contradiction that they have found, and of several the last one is
reported.  They are the same in every attempt, so the result of a run is that of its last execution,
but for such a message.
-/

namespace ImageFlow

namespace Builtin

/-! ## Contradictions -/

/-- The contradiction that a release check reports instead of a failure, if it has found one. -/
def mismatch? : Builtin → Option WorkflowError
  | releaseCheck specified (some detected) =>
    match OsRelease.parse? specified with
    | some named =>
      if named.agrees detected then none
      else some (.userInput (ReleaseCheck.mismatchMessage specified detected))
    | none => none
  | _ => none

/-- Whether a hook checks the release. -/
def checksRelease : Builtin → Bool
  | releaseCheck .. => true
  | _ => false

theorem mismatch?_eq_none {hook : Builtin} (h : hook.checksRelease = false) :
    hook.mismatch? = none := by
  cases hook with
  | releaseCheck => cases h
  | _ => rfl

theorem value_explain (specified : String) (detected : Option OsRelease) (error : WorkflowError) :
    (ReleaseCheck.explain specified detected error).value =
      (releaseCheck specified detected).mismatch?.getD error := by
  cases detected with
  | none => rfl
  | some detected =>
      simp only [ReleaseCheck.explain, mismatch?]
      cases OsRelease.parse? specified with
      | none => rfl
      | some named =>
          by_cases hagrees : named.agrees detected = true
          · simp [hagrees, Logged.quiet]
          · simp [hagrees]

/-- A hook hands a failure on, or the contradiction that it has found, and a success as it is. -/
theorem error_judge (hook : Builtin) (error : Option WorkflowError) :
    (hook.judge error).value.error = error.map fun error => hook.mismatch?.getD error := by
  cases hook with
  | releaseCheck specified detected =>
      cases error with
      | none => rfl
      | some error => exact congrArg some (value_explain specified detected error)
  | machineSeries s => simp [judge, Verdict.map, mismatch?, s.error_judge]
  | _ => simp [judge, Logged.quiet, Verdict.pass, mismatch?]

/-- Judging changes no release check. -/
theorem mismatch?_judge (hook : Builtin) (error : Option WorkflowError) :
    (hook.judge error).value.hook.mismatch? = hook.mismatch? := by
  cases hook <;> rfl

/-! ## Chains -/

/-- The contradictions that the release checks of a chain have found, in order. -/
def mismatches (hooks : List Builtin) : List WorkflowError :=
  hooks.filterMap mismatch?

theorem mismatches_cons (hook : Builtin) (rest : List Builtin) :
    mismatches (hook :: rest) = hook.mismatch?.toList ++ mismatches rest := by
  rw [mismatches, List.filterMap_cons]
  cases hook.mismatch? <;> rfl

variable (files : FileNode) (hooks : List Builtin)

/-- What leaves a chain: a success, or the last contradiction in place of a failure, or the failure
itself. -/
theorem handedOn_eq (error : Option WorkflowError) :
    handedOn (kind files) hooks error =
      error.map fun error => (mismatches hooks).getLast?.getD error := by
  induction hooks generalizing error with
  | nil => simp [handedOn, mismatches]
  | cons hook rest ih =>
      have hstep : handedOn (kind files) (hook :: rest) error =
          handedOn (kind files) rest (hook.judge error).value.error := rfl
      rw [hstep, ih, error_judge, Option.map_map, mismatches_cons]
      congr 1
      funext error
      cases hook.mismatch? with
      | none => rfl
      | some found => simp [List.getLast?_cons]

theorem mismatches_judged (error : Option WorkflowError) :
    mismatches (judged (kind files) hooks error) = mismatches hooks := by
  have hkept : (judged (kind files) hooks error).map mismatch? = hooks.map mismatch? :=
    map_judged mismatch?_judge hooks error
  simpa [mismatches, List.filterMap_map] using congrArg (List.filterMap id) hkept

/-- What a chain of built-in hooks makes of an outcome: a success stays one, and a failure stays the
same, but for the contradiction of a release check. -/
structure HandsOn (handed : Option WorkflowError → Option WorkflowError) : Prop where
  success : handed none = none
  failure : ∀ error, ∃ source, handed (some error) = some source ∧
    (source = error ∨ source ∈ mismatches hooks)
  unchecked : (∀ hook ∈ hooks, hook.checksRelease = false) → ∀ error, handed error = error

variable {hooks}

theorem mismatches_eq_nil (h : ∀ hook ∈ hooks, hook.checksRelease = false) :
    mismatches hooks = [] := by
  rw [mismatches, List.filterMap_eq_nil_iff]
  intro hook hhook
  exact mismatch?_eq_none (h hook hhook)

theorem handsOn_handedOn : HandsOn hooks (handedOn (kind files) hooks) where
  success := by rw [handedOn_eq]; rfl
  failure error := by
    refine ⟨(mismatches hooks).getLast?.getD error, by rw [handedOn_eq]; rfl, ?_⟩
    cases hlast : (mismatches hooks).getLast? with
    | none => exact .inl rfl
    | some found => exact .inr (List.mem_of_getLast? hlast)
  unchecked hunchecked error := by
    rw [handedOn_eq, mismatches_eq_nil hunchecked]
    exact Option.map_id'

end Builtin

/-! ## Runs -/

/-- A run that does not fail otherwise than by its workflow ends with an attempt that settles it. -/
theorem History.exists_settled
    {η : Type} {kind : HookKind η} {names : List String} {number : Nat} {history : History η}
    (h : ∀ failure, history.result kind names number = .error failure →
      ∃ source, failure = .workflow source) :
    ∃ trial, history.last = .settled trial := by
  cases hlast : history.last with
  | settled trial => exact ⟨trial, rfl⟩
  | _ =>
      obtain ⟨source, hsource⟩ := h _ (by rw [History.result, hlast]; rfl)
      cases hsource

/-- The release checks are the same in every attempt of a run. -/
theorem Runner.mismatches_hooks
    {ω : Type} (site : Site ω) (files : FileNode) (runner : Runner Builtin) (vars : Variables)
    (world : ω) :
    ∀ trial ∈ (runner.history site (Builtin.kind files) vars world).trials,
      Builtin.mismatches trial.hooks = Builtin.mismatches runner.hooks := by
  have hjudged (hooks : List Builtin) (error : Option WorkflowError)
      (hkept : Builtin.mismatches hooks = Builtin.mismatches runner.hooks) :
      Builtin.mismatches (judged (Builtin.kind files) hooks error) =
        Builtin.mismatches runner.hooks :=
    (Builtin.mismatches_judged files hooks error).trans hkept
  exact (runner.consecutive_trials site (Builtin.kind files) vars world).of_judged hjudged rfl

/-- The result of a run is that of its last execution: it succeeds exactly when that one did, and
otherwise fails with its error or with a contradiction of one of these hooks. -/
structure EndsAsExecuted (hooks : List Builtin) (result : Except RunError RunReport)
    (last : Execution) : Prop where
  ok_iff : (∃ report, result = .ok report) ↔ last.error = none
  failure : ∀ error, last.error = some error → ∃ source, result = .error (.workflow source) ∧
    (source = error ∨ source ∈ Builtin.mismatches hooks)

theorem EndsAsExecuted.of_handsOn
    {hooks : List Builtin} {result : Except RunError RunReport} {names : List String}
    {last : Execution} {handed : Option WorkflowError → Option WorkflowError}
    (hhanded : Builtin.HandsOn hooks handed)
    (hresult : result.map RunReport.outputs = last.outcome handed names) :
    EndsAsExecuted hooks result last := by
  cases hlast : last.error with
  | none =>
      rw [Execution.outcome, hlast, hhanded.success] at hresult
      cases result with
      | error failure => cases hresult
      | ok report =>
          refine ⟨iff_of_true ⟨report, rfl⟩ hlast, ?_⟩
          intro error herror
          rw [hlast] at herror
          cases herror
  | some error =>
      obtain ⟨source, hsource, hcases⟩ := hhanded.failure error
      rw [Execution.outcome, hlast, hsource] at hresult
      cases result with
      | ok report => cases hresult
      | error failure =>
          cases hresult
          refine ⟨iff_of_false ?_ (by simp [hlast]), ?_⟩
          · rintro ⟨report, hreport⟩
            cases hreport
          · intro other hother
            rw [hlast] at hother
            cases hother
            exact ⟨source, rfl, hcases⟩

namespace Runner

/-- The built-in hooks neither swallow a failure nor make one up, whatever they are and whatever
they have learned.  So a run whose hooks are built in, and that does not fail otherwise than by its
workflow, has executed an attempt, and its result is that of the last execution. -/
theorem builtin_hooks_hand_on
    {ω : Type} (site : Site ω) (files : FileNode) (runner : Runner Builtin) (vars : Variables)
    (names : List String) (world : ω) :
    let kind := Builtin.kind files
    let outcome := runner.run site kind vars names world
    let trials := (runner.history site kind vars world).trials
    (∀ hooks index, Builtin.HandsOn hooks fun error => (judgeAll kind index hooks error).error) ∧
    outcome.calls.filterMap RunCall.job? = trials.map (·.job kind) ∧
    Trial.Consecutive site kind vars runner.hooks world trials ∧
    ((∀ failure, outcome.result = .error failure → ∃ source, failure = .workflow source) →
      ∃ last, trials.getLast? = some last ∧
        EndsAsExecuted runner.hooks outcome.result last.execution) := by
  intro kind outcome trials
  refine ⟨?_, ?_, runner.consecutive_trials site kind vars world, ?_⟩
  · intro hooks index
    simp only [error_judgeAll, kind]
    exact Builtin.handsOn_handedOn files
  · rw [← History.filterMap_job?_calls, ← run_calls]
  · intro hended
    have hresult := runner.run_result site kind vars names world
    have hfailures : ∀ failure,
        (runner.history site kind vars world).result kind names 1 = .error failure →
          ∃ source, failure = .workflow source := by
      intro failure hfailure
      exact hended failure
        ((runner.run_result_eq_error_iff site kind vars names world failure).mpr hfailure)
    obtain ⟨last, hlast⟩ := History.exists_settled hfailures
    have hmem : trials.getLast? = some last := by
      simp [trials, History.trials, hlast]
    refine ⟨last, hmem, ?_⟩
    rw [History.result, hlast] at hresult
    have hends := EndsAsExecuted.of_handsOn (Builtin.handsOn_handedOn files) hresult
    have hmismatches := runner.mismatches_hooks site files vars world last
      (List.mem_of_getLast? hmem)
    exact ⟨hends.ok_iff, hmismatches ▸ hends.failure⟩

/-- A runner with one release check, which has found another release than the one that is named. -/
def mismatchRunner : Runner Builtin :=
  .withHooks {} 0 [.releaseCheck "debian-9" (some ⟨"debian", "10", ""⟩)]

/-- The contradiction is reported instead of the failure of the last execution. -/
theorem builtin_hooks_hand_on_mismatch :
    let kind := Builtin.kind default
    let world := [(some n2QuotaError, false)]
    let outcome := mismatchRunner.run (.scripted oneWorker) kind ∅ [] world
    let trials := (mismatchRunner.history (.scripted oneWorker) kind ∅ world).trials
    outcome.result = .error (.workflow (.userInput
        (ReleaseCheck.mismatchMessage "debian-9" ⟨"debian", "10", ""⟩))) ∧
      ∃ last, trials.getLast? = some last ∧
        EndsAsExecuted mismatchRunner.hooks outcome.result last.execution := by
  intro kind world outcome trials
  have hresult : outcome.result = .error (.workflow (.userInput
      (ReleaseCheck.mismatchMessage "debian-9" ⟨"debian", "10", ""⟩))) := rfl
  refine ⟨hresult, ?_⟩
  apply (builtin_hooks_hand_on (.scripted oneWorker) default mismatchRunner ∅ [] world).2.2.2
  intro failure hfailure
  exact ⟨_, (Except.error.inj (hresult.symm.trans hfailure)).symm⟩

end Runner

end ImageFlow
