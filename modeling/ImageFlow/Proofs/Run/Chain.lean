import ImageFlow.Run.Attempt

/-!
# A chain of hooks, hook by hook

Preparing a job and judging an outcome are each computed in one pass over the hooks.  Here both are
taken apart.  Hooks none of which gives up leave the job that each makes of what the one before it
left (`prepareAll_of_allPrepare`); a chain that gives up does so at one of them (`exists_gaveUp`).
A judgement is the verdicts that the hooks give one after another, the error that leaves the last of
them, and the names of those that ask for another attempt.  Later modules open neither pass.

The calls that a chain makes are calls of hooks only: they load nothing and execute nothing.
-/

namespace ImageFlow

variable {η : Type}

/-! ## Calls -/

namespace RunCall

def isLoad : RunCall → Bool
  | load => true
  | _ => false

/-- The job that a call hands to the engine, if it does. -/
def job? : RunCall → Option Job
  | execute job _ => some job
  | _ => none

def ofHook : RunCall → Prop
  | before .. | after .. => True
  | load | execute .. => False

theorem ofHook.before_or_after {call : RunCall} (h : call.ofHook) :
    (∃ hook job, call = before hook job) ∨ ∃ hook error, call = after hook error := by
  cases call with
  | before hook job => exact .inl ⟨hook, job, rfl⟩
  | after hook error => exact .inr ⟨hook, error, rfl⟩
  | load => exact h.elim
  | execute job cancelled => exact h.elim

theorem countP_isLoad_eq_zero
    {calls : List RunCall} (h : ∀ call ∈ calls, call.ofHook) :
    calls.countP isLoad = 0 := by
  rw [List.countP_eq_zero]
  intro call hcall
  obtain ⟨hook, job, rfl⟩ | ⟨hook, error, rfl⟩ := (h call hcall).before_or_after
  · simp [isLoad]
  · simp [isLoad]

theorem filterMap_job?_eq_nil
    {calls : List RunCall} (h : ∀ call ∈ calls, call.ofHook) :
    calls.filterMap job? = [] := by
  rw [List.filterMap_eq_nil_iff]
  intro call hcall
  obtain ⟨hook, job, rfl⟩ | ⟨hook, error, rfl⟩ := (h call hcall).before_or_after
  · rfl
  · rfl

end RunCall

/-- One call for each hook, numbered from `first` on: a call is handed what the steps of all hooks
before it make of `start`. -/
def callsAlong {σ : Type} (call : Nat → σ → RunCall) (step : σ → η → σ) (first : Nat)
    (hooks : List η) (start : σ) : List RunCall :=
  (List.range hooks.length).map fun i => call (first + i) ((hooks.take i).foldl step start)

theorem callsAlong_cons
    {σ : Type} (call : Nat → σ → RunCall) (step : σ → η → σ) (first : Nat) (hook : η)
    (rest : List η) (start : σ) :
    callsAlong call step first (hook :: rest) start =
      call first start :: callsAlong call step (first + 1) rest (step start hook) := by
  simp [callsAlong, List.range_succ_eq_map, Function.comp_def, Nat.add_assoc, Nat.add_comm 1]

/-- The hooks are called one after another to prepare one job: each is handed the job as the hooks
before it left it. -/
def callsBefore (kind : HookKind η) (first : Nat) : List η → Job → List RunCall :=
  callsAlong .before (fun job hook => (kind.before hook job).value.job) first

/-- The hooks are called one after another to judge an outcome: each is handed the error that the
hook before it handed on. -/
def callsAfter (kind : HookKind η) (first : Nat) : List η → Option WorkflowError → List RunCall :=
  callsAlong .after (fun error hook => (kind.after hook error).value.error) first

theorem ofHook_of_mem_callsBefore
    (kind : HookKind η) (first : Nat) (hooks : List η) (job : Job) :
    ∀ call ∈ callsBefore kind first hooks job, call.ofHook := by
  intro call hcall
  obtain ⟨i, -, rfl⟩ := List.mem_map.mp hcall
  trivial

theorem ofHook_of_mem_callsAfter
    (kind : HookKind η) (first : Nat) (hooks : List η) (error : Option WorkflowError) :
    ∀ call ∈ callsAfter kind first hooks error, call.ofHook := by
  intro call hcall
  obtain ⟨i, -, rfl⟩ := List.mem_map.mp hcall
  trivial

/-! ## Preparations -/

/-- The job that these hooks leave when each prepares what the one before it left. -/
def leftBy (kind : HookKind η) (hooks : List η) (job : Job) : Job :=
  hooks.foldl (fun job hook => (kind.before hook job).value.job) job

/-- None of these hooks gives up when each prepares what the one before it left. -/
def AllPrepare (kind : HookKind η) : List η → Job → Prop
  | [], _ => True
  | hook :: rest, job =>
    (kind.before hook job).value.failure = none ∧
      AllPrepare kind rest (kind.before hook job).value.job

section Preparations

variable (kind : HookKind η) (index : Nat) (hooks : List η)

/-- What comes of hooks none of which gives up. -/
theorem prepareAll_of_allPrepare {hooks : List η} {job : Job} (h : AllPrepare kind hooks job) :
    ∃ events, prepareAll kind index hooks job =
      { job := leftBy kind hooks job, events, calls := callsBefore kind index hooks job } := by
  induction hooks generalizing index job with
  | nil => exact ⟨[], rfl⟩
  | cons hook rest ih =>
      obtain ⟨hunfailed, hrest⟩ := h
      obtain ⟨events, hlater⟩ := ih (index + 1) hrest
      refine ⟨(kind.before hook job).events ++ events, ?_⟩
      rw [prepareAll, callsBefore, callsAlong_cons]
      simp only [hunfailed, hlater]
      rfl

/-- A chain that gives up does so at the first hook that cannot prepare the job, and calls none
behind it. -/
theorem exists_gaveUp
    (job : Job) {name : String} {failure : HookError}
    (hgaveUp : (prepareAll kind index hooks job).failure = some (name, failure)) :
    ∃ front hook back,
      hooks = front ++ hook :: back ∧ AllPrepare kind front job ∧
      (kind.before hook (leftBy kind front job)).value.failure = some failure ∧
      name = kind.name hook ∧
      (prepareAll kind index hooks job).calls =
        callsBefore kind index (front ++ [hook]) job := by
  induction hooks generalizing index job with
  | nil => simp [prepareAll] at hgaveUp
  | cons hook rest ih =>
      cases hfailure : (kind.before hook job).value.failure with
      | some found =>
          simp only [prepareAll, hfailure, Option.some.injEq, Prod.mk.injEq] at hgaveUp ⊢
          obtain ⟨rfl, rfl⟩ := hgaveUp
          refine ⟨[], hook, rest, rfl, trivial, hfailure, rfl, ?_⟩
          rw [callsBefore, List.nil_append, callsAlong_cons]
          rfl
      | none =>
          simp only [prepareAll, hfailure] at hgaveUp ⊢
          obtain ⟨front, last, back, rfl, hfront, hlast, hname, hcalls⟩ :=
            ih (index + 1) _ hgaveUp
          refine ⟨hook :: front, last, back, rfl, ⟨hfailure, hfront⟩, hlast, hname, ?_⟩
          rw [hcalls, List.cons_append, callsBefore, callsBefore, callsAlong_cons]

/-- A chain gives up exactly when some of its hooks does. -/
theorem failure_prepareAll_eq_none_iff (job : Job) :
    (prepareAll kind index hooks job).failure = none ↔ AllPrepare kind hooks job := by
  constructor
  · intro hunfailed
    induction hooks generalizing index job with
    | nil => trivial
    | cons hook rest ih =>
        cases hfailure : (kind.before hook job).value.failure with
        | some failure => simp [prepareAll, hfailure] at hunfailed
        | none =>
            simp only [prepareAll, hfailure] at hunfailed
            exact ⟨hfailure, ih (index + 1) _ hunfailed⟩
  · intro hall
    obtain ⟨events, hprepared⟩ := prepareAll_of_allPrepare kind index hall
    rw [hprepared]

/-- A job that all hooks prepared is what they left of it. -/
theorem job_prepareAll
    {kind : HookKind η} {index : Nat} {hooks : List η} {job : Job}
    (hprepared : (prepareAll kind index hooks job).failure = none) :
    (prepareAll kind index hooks job).job = leftBy kind hooks job := by
  obtain ⟨events, hall⟩ := prepareAll_of_allPrepare kind index
    ((failure_prepareAll_eq_none_iff kind index hooks job).mp hprepared)
  rw [hall]

end Preparations

theorem ofHook_of_mem_prepareAll
    (kind : HookKind η) (index : Nat) (hooks : List η) (job : Job) :
    ∀ call ∈ (prepareAll kind index hooks job).calls, call.ofHook := by
  induction hooks generalizing index job with
  | nil => simp [prepareAll]
  | cons hook rest ih =>
      intro call hcall
      cases hfailure : (kind.before hook job).value.failure with
      | some failure =>
          simp only [prepareAll, hfailure, List.mem_singleton] at hcall
          subst hcall
          trivial
      | none =>
          simp only [prepareAll, hfailure, List.mem_cons] at hcall
          rcases hcall with rfl | hcall
          · trivial
          · exact ih _ _ call hcall

/-! ## Verdicts -/

/-- What the hooks make of an outcome, in order, each of the error that the one before handed
on. -/
def verdicts (kind : HookKind η) : List η → Option WorkflowError → List (Verdict η)
  | [], _ => []
  | hook :: rest, error =>
    let verdict := (kind.after hook error).value
    verdict :: verdicts kind rest verdict.error

/-- The error that leaves the last of the hooks. -/
def handedOn (kind : HookKind η) (hooks : List η) (error : Option WorkflowError) :
    Option WorkflowError :=
  hooks.foldl (fun error hook => (kind.after hook error).value.error) error

/-- The hooks after they have judged an outcome. -/
def judged (kind : HookKind η) (hooks : List η) (error : Option WorkflowError) : List η :=
  (verdicts kind hooks error).map (·.hook)

/-- The hooks after they have judged these outcomes, one after another. -/
def judgedAlong (kind : HookKind η) (hooks : List η) (errors : List (Option WorkflowError)) :
    List η :=
  errors.foldl (judged kind) hooks

section Kept

variable {α : Type} {kind : HookKind η} {view : η → α}
  (hkept : ∀ hook error, view (kind.after hook error).value.hook = view hook)

include hkept

/-- What is not seen of one judgement of a hook is not seen of those of a chain. -/
theorem map_judged (hooks : List η) (error : Option WorkflowError) :
    (judged kind hooks error).map view = hooks.map view := by
  induction hooks generalizing error with
  | nil => rfl
  | cons hook rest ih =>
      have hstep : judged kind (hook :: rest) error =
          (kind.after hook error).value.hook ::
            judged kind rest (kind.after hook error).value.error := rfl
      rw [hstep, List.map_cons, List.map_cons, hkept, ih]

theorem map_judgedAlong (hooks : List η) (errors : List (Option WorkflowError)) :
    (judgedAlong kind hooks errors).map view = hooks.map view := by
  induction errors generalizing hooks with
  | nil => rfl
  | cons error rest ih =>
      rw [judgedAlong, List.foldl_cons]
      exact (ih _).trans (map_judged hkept hooks error)

end Kept

/-- The names of the hooks that ask for another attempt, in order. -/
def requesters (kind : HookKind η) (hooks : List η) (error : Option WorkflowError) :
    List String :=
  ((verdicts kind hooks error).filter (·.retry)).map fun verdict => kind.name verdict.hook

theorem hooks_judgeAll
    (kind : HookKind η) (index : Nat) (hooks : List η) (error : Option WorkflowError) :
    (judgeAll kind index hooks error).hooks = judged kind hooks error := by
  induction hooks generalizing index error with
  | nil => rfl
  | cons hook rest ih => simp [judgeAll, judged, verdicts, ih]

theorem error_judgeAll
    (kind : HookKind η) (index : Nat) (hooks : List η) (error : Option WorkflowError) :
    (judgeAll kind index hooks error).error = handedOn kind hooks error := by
  induction hooks generalizing index error with
  | nil => rfl
  | cons hook rest ih => simp [judgeAll, handedOn, ih]

theorem calls_judgeAll
    (kind : HookKind η) (index : Nat) (hooks : List η) (error : Option WorkflowError) :
    (judgeAll kind index hooks error).calls = callsAfter kind index hooks error := by
  induction hooks generalizing index error with
  | nil => rfl
  | cons hook rest ih =>
      rw [callsAfter, callsAlong_cons]
      exact congrArg (RunCall.after index error :: ·) (ih (index + 1) _)

theorem requested_judgeAll
    (kind : HookKind η) (index : Nat) (hooks : List η) (error : Option WorkflowError) :
    (judgeAll kind index hooks error).requested = requesters kind hooks error := by
  induction hooks generalizing index error with
  | nil => rfl
  | cons hook rest ih =>
      cases hretry : (kind.after hook error).value.retry with
      | false => simp [judgeAll, requesters, verdicts, ih, hretry]
      | true => simp [judgeAll, requesters, verdicts, ih, hretry]

section Append

variable (kind : HookKind η) (front back : List η) (error : Option WorkflowError)

theorem handedOn_append :
    handedOn kind (front ++ back) error = handedOn kind back (handedOn kind front error) :=
  List.foldl_append

theorem verdicts_append :
    verdicts kind (front ++ back) error =
      verdicts kind front error ++ verdicts kind back (handedOn kind front error) := by
  induction front generalizing error with
  | nil => rfl
  | cons hook rest ih => exact congrArg (_ :: ·) (ih _)

theorem judged_append :
    judged kind (front ++ back) error =
      judged kind front error ++ judged kind back (handedOn kind front error) := by
  simp [judged, verdicts_append]

theorem requesters_append :
    requesters kind (front ++ back) error =
      requesters kind front error ++ requesters kind back (handedOn kind front error) := by
  simp [requesters, verdicts_append]

end Append

/-- Somebody is named exactly when some verdict asks for another attempt. -/
theorem requesters_ne_nil_iff
    (kind : HookKind η) (hooks : List η) (error : Option WorkflowError) :
    requesters kind hooks error ≠ [] ↔
      ∃ verdict ∈ verdicts kind hooks error, verdict.retry = true := by
  simp [requesters]

end ImageFlow
