import ImageFlow.Proofs.Data.OrderedMap
import ImageFlow.Proofs.Run.Chain
import ImageFlow.Run.Runner

/-!
# The history of a run

A run is a row of attempts that were executed and repeated, and one last attempt, which ended it in
one of five ways.  `historyFrom` computes that row from the site and the hooks alone; it keeps no
record, lists no calls and numbers nothing.  What a run does and returns is stated against it.
-/

namespace ImageFlow

variable {η ω : Type}

/-! ## Values that are read -/

theorem get?_readOutputs (job : Job) (names : List String) (name : String) :
    (readOutputs job names).get? name = if name ∈ names then job.outputs.get? name else none := by
  induction names with
  | nil => rfl
  | cons first rest ih =>
      rw [readOutputs] at ih ⊢
      rw [List.filterMap_cons]
      by_cases hfirst : name = first
      · subst hfirst
        cases hvalue : job.outputs.get? name with
        | none => simp [ih, hvalue]
        | some value => by_cases hlater : name ∈ rest <;> simp [ih, hvalue, hlater]
      · cases hvalue : job.outputs.get? first with
        | none => simp [ih, hfirst]
        | some value => simp [ih, hfirst]

/-- The values that are read are those that the engine recorded under the names asked for. -/
theorem readOutputs_eq_restrict (job : Job) (names : List String) :
    readOutputs job names = job.outputs.restrict names := by
  apply OrderedMap.ext_get?
  intro name
  rw [get?_readOutputs, OrderedMap.get?_restrict]

/-- What a run comes to when its last attempt was executed and is not repeated: the values that the
engine recorded under the names asked for, or the error that is handed on. -/
def Execution.outcome (handed : Option WorkflowError → Option WorkflowError) (names : List String)
    (execution : Execution) : Except RunError (OrderedMap String) :=
  match handed execution.error with
  | none => .ok (execution.job.outputs.restrict names)
  | some error => .error (.workflow error)

/-! ## Attempts that reach the engine -/

/-- An attempt that reached the engine: the hooks as they entered it, the template that it loaded,
and what the engine made of the prepared job. -/
structure Trial (η : Type) where
  hooks : List η
  template : Workflow
  execution : Execution

namespace Trial

section Chain

variable (kind : HookKind η) (trial : Trial η)

/-- The job that the engine was handed: the template as the hooks left it. -/
def job : Job :=
  leftBy kind trial.hooks (.ofWorkflow trial.template)

/-- The hooks after they judged the outcome. -/
def hooksAfter : List η :=
  judged kind trial.hooks trial.execution.error

/-- The error that the last hook handed on. -/
def error : Option WorkflowError :=
  handedOn kind trial.hooks trial.execution.error

/-- The hooks that asked for another attempt. -/
def requested : List String :=
  requesters kind trial.hooks trial.execution.error

/-- Some hook asked for another attempt. -/
def Asked : Prop :=
  ∃ verdict ∈ verdicts kind trial.hooks trial.execution.error, verdict.retry = true

/-- The calls of an attempt that reaches the engine: it loads a template, has every hook prepare the
job of it, executes the job once, and has every hook judge the outcome, beginning with the error of
the engine. -/
def block : List RunCall :=
  .load :: callsBefore kind 0 trial.hooks (.ofWorkflow trial.template)
    ++ .execute (leftBy kind trial.hooks (.ofWorkflow trial.template)) false
    :: callsAfter kind 0 trial.hooks trial.execution.error

/-- The outcome of the attempt when nobody asks for another one. -/
def outcome (names : List String) : Except RunError (OrderedMap String) :=
  trial.execution.outcome (handedOn kind trial.hooks) names

theorem outcome_eq (names : List String) :
    trial.outcome kind names =
      match trial.error kind with
      | none => .ok (trial.execution.job.outputs.restrict names)
      | some error => .error (.workflow error) := rfl

theorem requested_ne_nil_iff : trial.requested kind ≠ [] ↔ trial.Asked kind :=
  requesters_ne_nil_iff kind trial.hooks trial.execution.error

theorem countP_isLoad_block : (trial.block kind).countP RunCall.isLoad = 1 := by
  have hbefore := RunCall.countP_isLoad_eq_zero
    (ofHook_of_mem_callsBefore kind 0 trial.hooks (.ofWorkflow trial.template))
  have hafter := RunCall.countP_isLoad_eq_zero
    (ofHook_of_mem_callsAfter kind 0 trial.hooks trial.execution.error)
  simp [block, hbefore, hafter, List.countP_cons, RunCall.isLoad]

theorem filterMap_job?_block : (trial.block kind).filterMap RunCall.job? = [trial.job kind] := by
  have hbefore := RunCall.filterMap_job?_eq_nil
    (ofHook_of_mem_callsBefore kind 0 trial.hooks (.ofWorkflow trial.template))
  have hafter := RunCall.filterMap_job?_eq_nil
    (ofHook_of_mem_callsAfter kind 0 trial.hooks trial.execution.error)
  simp [block, job, hbefore, hafter, List.filterMap_cons, RunCall.job?]

end Chain

def worldAfter (site : Site ω) (kind : HookKind η) (vars : Variables) (world : ω)
    (trial : Trial η) : ω :=
  (site.execute (trial.job kind) vars false (site.load world).2).2

/-- The attempt that these hooks make in this world: its template is the one that is loaded, every
hook prepares the job, and the engine executes it. -/
structure Arises (site : Site ω) (kind : HookKind η) (vars : Variables) (hooks : List η)
    (world : ω) (trial : Trial η) : Prop where
  hooks_eq : trial.hooks = hooks
  loaded : (site.load world).1 = .ok trial.template
  prepared : AllPrepare kind trial.hooks (.ofWorkflow trial.template)
  executed : trial.execution = (site.execute (trial.job kind) vars false (site.load world).2).1

/-- Each of the attempts arises from the hooks and in the world that the one before it left. -/
def Consecutive (site : Site ω) (kind : HookKind η) (vars : Variables) :
    List η → ω → List (Trial η) → Prop
  | _, _, [] => True
  | hooks, world, trial :: rest =>
    trial.Arises site kind vars hooks world ∧
      Consecutive site kind vars (trial.hooksAfter kind) (trial.worldAfter site kind vars world)
        rest

end Trial

/-! ## Histories -/

/-- The last attempt of a run. -/
inductive LastAttempt (η : Type) where
  /-- It was not begun, as the token had been fired. -/
  | cancelled
  /-- Its template could not be loaded. -/
  | unloaded (failure : TemplateError)
  /-- This hook could not prepare the job. -/
  | unprepared (hooks : List η) (template : Workflow) (hook : String) (failure : HookError)
  /-- It was executed, and nobody asked for another one. -/
  | settled (trial : Trial η)
  /-- It was executed and is to be repeated, but no attempt is left. -/
  | limited (trial : Trial η)

namespace LastAttempt

/-- The attempt, if it reached the engine. -/
@[simp]
def trial? : LastAttempt η → Option (Trial η)
  | settled trial | limited trial => some trial
  | _ => none

/-- The calls of the attempt. -/
def calls (kind : HookKind η) : LastAttempt η → List RunCall
  | cancelled => []
  | unloaded _ => [.load]
  | unprepared hooks template _ _ =>
    .load :: (prepareAll kind 0 hooks (.ofWorkflow template)).calls
  | settled trial | limited trial => trial.block kind

@[simp]
def started : LastAttempt η → Nat
  | cancelled => 0
  | _ => 1

/-- What the attempt, when it has this number, makes of the run. -/
@[simp]
def result (kind : HookKind η) (names : List String) (number : Nat) :
    LastAttempt η → Except RunError (OrderedMap String)
  | cancelled => .error (.cancelled number)
  | unloaded failure => .error (.template failure)
  | unprepared _ _ hook failure => .error (.setup hook failure)
  | settled trial => trial.outcome kind names
  | limited trial => .error (.attemptLimit number (trial.error kind))

theorem countP_isLoad_calls (kind : HookKind η) (last : LastAttempt η) :
    (last.calls kind).countP RunCall.isLoad = last.started := by
  cases last with
  | cancelled => rfl
  | unloaded failure => rfl
  | unprepared hooks template hook failure =>
      have hbefore := RunCall.countP_isLoad_eq_zero
        (ofHook_of_mem_prepareAll kind 0 hooks (.ofWorkflow template))
      simp [calls, hbefore, List.countP_cons, RunCall.isLoad]
  | settled trial => exact trial.countP_isLoad_block kind
  | limited trial => exact trial.countP_isLoad_block kind

theorem filterMap_job?_calls (kind : HookKind η) (last : LastAttempt η) :
    (last.calls kind).filterMap RunCall.job? = last.trial?.toList.map (·.job kind) := by
  cases last with
  | cancelled => rfl
  | unloaded failure => rfl
  | unprepared hooks template hook failure =>
      have hbefore := RunCall.filterMap_job?_eq_nil
        (ofHook_of_mem_prepareAll kind 0 hooks (.ofWorkflow template))
      simp [calls, hbefore, List.filterMap_cons, RunCall.job?]
  | settled trial => exact trial.filterMap_job?_block kind
  | limited trial => exact trial.filterMap_job?_block kind

theorem started_le_one (last : LastAttempt η) : last.started ≤ 1 := by
  cases last <;> simp

theorem length_toList_trial?_le (last : LastAttempt η) :
    last.trial?.toList.length ≤ last.started := by
  cases last <;> simp

end LastAttempt

/-- The attempts of a run: those that were repeated, in order, and the last one. -/
structure History (η : Type) where
  repeated : List (Trial η)
  last : LastAttempt η

namespace History

/-- The history in which an attempt comes before all others. -/
def following (trial : Trial η) (history : History η) : History η :=
  { history with repeated := trial :: history.repeated }

/-- The attempts that reached the engine, in order. -/
def trials (history : History η) : List (Trial η) :=
  history.repeated ++ history.last.trial?.toList

/-- The calls of all attempts. -/
def calls (kind : HookKind η) (history : History η) : List RunCall :=
  history.repeated.flatMap (·.block kind) ++ history.last.calls kind

/-- The result of attempts of which the first has this number. -/
def result (kind : HookKind η) (names : List String) (number : Nat) (history : History η) :
    Except RunError (OrderedMap String) :=
  history.last.result kind names (number + history.repeated.length)

/-- How many attempts were begun. -/
def started (history : History η) : Nat :=
  history.repeated.length + history.last.started

/-- Every template that was asked for was loaded and prepared. -/
def Smooth (history : History η) : Prop :=
  match history.last with
  | .unloaded _ | .unprepared .. => False
  | _ => True

@[simp]
theorem repeated_following (trial : Trial η) (history : History η) :
    (history.following trial).repeated = trial :: history.repeated := rfl

@[simp]
theorem last_following (trial : Trial η) (history : History η) :
    (history.following trial).last = history.last := rfl

@[simp]
theorem trials_following (trial : Trial η) (history : History η) :
    (history.following trial).trials = trial :: history.trials := rfl

@[simp]
theorem calls_following (kind : HookKind η) (trial : Trial η) (history : History η) :
    (history.following trial).calls kind = trial.block kind ++ history.calls kind := by
  simp [calls]

/-- Every attempt that is begun loads one template. -/
theorem countP_isLoad_calls (kind : HookKind η) (history : History η) :
    (history.calls kind).countP RunCall.isLoad = history.started := by
  obtain ⟨repeated, last⟩ := history
  induction repeated with
  | nil => simpa [calls, started] using last.countP_isLoad_calls kind
  | cons trial rest ih =>
      have htrial := trial.countP_isLoad_block kind
      simp only [calls, started, List.flatMap_cons, List.countP_append, List.length_cons,
        htrial] at ih ⊢
      omega

/-- The engine is handed the jobs of the attempts that reach it, and no others. -/
theorem filterMap_job?_calls (kind : HookKind η) (history : History η) :
    (history.calls kind).filterMap RunCall.job? = history.trials.map (·.job kind) := by
  obtain ⟨repeated, last⟩ := history
  induction repeated with
  | nil => simpa [calls, trials] using last.filterMap_job?_calls kind
  | cons trial rest ih =>
      simp only [calls, trials, List.flatMap_cons, List.append_assoc, List.filterMap_append,
        List.map_append, List.cons_append, List.map_cons] at ih ⊢
      rw [trial.filterMap_job?_block kind, ih]
      rfl

theorem length_trials_le_started (history : History η) :
    history.trials.length ≤ history.started := by
  have hlast := history.last.length_toList_trial?_le
  simp only [trials, started, List.length_append]
  omega

end History

/-- The history of the attempts of these hooks, of which `left` may follow the first. -/
def historyFrom (site : Site ω) (kind : HookKind η) (vars : Variables) :
    Nat → List η → Bool → ω → History η
  | left, hooks, fired, world =>
    if fired then ⟨[], .cancelled⟩
    else
      match (site.load world).1 with
      | .error failure => ⟨[], .unloaded failure⟩
      | .ok template =>
        let prepared := prepareAll kind 0 hooks (.ofWorkflow template)
        match prepared.failure with
        | some (hook, failure) => ⟨[], .unprepared hooks template hook failure⟩
        | none =>
          let executed := site.execute prepared.job vars false (site.load world).2
          let trial : Trial η := { hooks, template, execution := executed.1 }
          if (trial.requested kind).isEmpty then ⟨[], .settled trial⟩
          else
            match left with
            | 0 => ⟨[], .limited trial⟩
            | left + 1 =>
              (historyFrom site kind vars left (trial.hooksAfter kind) trial.execution.cancels
                executed.2).following trial

def Runner.history (site : Site ω) (kind : HookKind η) (runner : Runner η) (vars : Variables)
    (world : ω) : History η :=
  historyFrom site kind vars (runner.maxAttempts - 1) runner.hooks runner.cancelled world

end ImageFlow
