import ImageFlow.Proofs.Run.Chain
import ImageFlow.Run.Runner

/-!
# What a site is asked

A run lists its own calls.  `Site.recorded` is a site that lists what it is asked, in a state that a
run only hands on.  A run on it is the run on the site that it is made of, and what it has listed in
the end are the calls that the run has listed, except those of hooks (`Runner.run_recorded`): the
list of a run is neither short of a call nor ahead of one.
-/

namespace ImageFlow

variable {η ω : Type}

/-! ## Sites that record -/

/-- What a site can be asked; the clock is not counted. -/
inductive SiteCall where
  | load
  | execute (job : Job) (vars : Variables) (cancelled : Bool)

/-- What the site is asked by a call of a run, if it is one of the site. -/
def RunCall.siteCall? (vars : Variables) : RunCall → Option SiteCall
  | load => some .load
  | execute job cancelled => some (.execute job vars cancelled)
  | before .. | after .. => none

/-- A site that also writes down what it is asked, in order. -/
def Site.recorded (site : Site ω) : Site (ω × List SiteCall) where
  load
    | (world, calls) =>
      let (loaded, world) := site.load world
      (loaded, world, calls ++ [.load])
  execute
    | job, vars, cancelled, (world, calls) =>
      let (execution, world) := site.execute job vars cancelled world
      (execution, world, calls ++ [.execute job vars cancelled])
  now
    | (world, _) => site.now world

theorem RunCall.filterMap_siteCall?_eq_nil
    {vars : Variables} {calls : List RunCall} (h : ∀ call ∈ calls, call.ofHook) :
    calls.filterMap (siteCall? vars) = [] := by
  rw [List.filterMap_eq_nil_iff]
  intro call hcall
  obtain ⟨hook, job, rfl⟩ | ⟨hook, error, rfl⟩ := (h call hcall).before_or_after
  · rfl
  · rfl

/-! ## Attempts on a site that records -/

/-- The run on a site that has written down the calls that are listed. -/
def Progress.recorded (vars : Variables) (p : Progress η ω) :
    Progress η (ω × List SiteCall) :=
  { p with world := (p.world, p.calls.filterMap (RunCall.siteCall? vars)) }

section Recorded

variable (site : Site ω) (kind : HookKind η) (vars : Variables) (p : Progress η ω)

theorem execute_recorded (job : Job) :
    execute site.recorded kind vars job (p.recorded vars) =
      ((execute site kind vars job p).1, (execute site kind vars job p).2.recorded vars) := by
  have hjudged (error : Option WorkflowError) :
      (judgeAll kind 0 p.hooks error).calls.filterMap (RunCall.siteCall? vars) = [] := by
    rw [calls_judgeAll]
    exact RunCall.filterMap_siteCall?_eq_nil (ofHook_of_mem_callsAfter kind 0 p.hooks error)
  simp only [execute, Site.recorded, Progress.recorded, Progress.listing, Progress.report,
    Progress.finishAttempt]
  split
  · next hunasked => simpa [RunCall.siteCall?, hjudged] using hunasked
  · next hasked => simpa [RunCall.siteCall?, hjudged] using hasked

theorem prepareAndExecute_recorded (number : Nat) (template : Workflow) :
    prepareAndExecute site.recorded kind vars number template (p.recorded vars) =
      ((prepareAndExecute site kind vars number template p).1,
        (prepareAndExecute site kind vars number template p).2.recorded vars) := by
  have hprepared : (prepareAll kind 0 p.hooks (.ofWorkflow template)).calls.filterMap
      (RunCall.siteCall? vars) = [] :=
    RunCall.filterMap_siteCall?_eq_nil
      (ofHook_of_mem_prepareAll kind 0 p.hooks (.ofWorkflow template))
  cases hfailure : (prepareAll kind 0 p.hooks (.ofWorkflow template)).failure with
  | some found =>
      simp [prepareAndExecute, Progress.report, Progress.listing, Progress.finishAttempt,
        Progress.recorded, Site.recorded, hfailure, hprepared]
  | none =>
      simp only [prepareAndExecute, Progress.report, Progress.listing, Progress.recorded, hfailure]
      refine Eq.trans ?_ (execute_recorded site kind vars _ _)
      simp [Progress.recorded, Site.recorded, hprepared]

theorem attempt_recorded (number : Nat) :
    attempt site.recorded kind vars number (p.recorded vars) =
      ((attempt site kind vars number p).1, (attempt site kind vars number p).2.recorded vars) := by
  obtain ⟨hooks, cancelled, audit, world, events, calls⟩ := p
  cases cancelled with
  | true => rfl
  | false =>
      cases hloaded : (site.load world).1 with
      | error failure =>
          simp [attempt, Site.recorded, Progress.recorded, Progress.record, Progress.listing,
            RunCall.siteCall?, hloaded]
      | ok template =>
          simp only [attempt, Site.recorded, Progress.recorded, Progress.record, Progress.listing,
            hloaded, Bool.false_eq_true, if_false]
          refine Eq.trans ?_ (prepareAndExecute_recorded site kind vars _ _ _)
          simp [Progress.recorded, Site.recorded, RunCall.siteCall?]

theorem attemptsFrom_recorded (names : List String) (left number : Nat) :
    attemptsFrom site.recorded kind vars names left number (p.recorded vars) =
      ((attemptsFrom site kind vars names left number p).1,
        (attemptsFrom site kind vars names left number p).2.recorded vars) := by
  induction left using Nat.strongRecOn generalizing number p with
  | _ left ih =>
      rw [attemptsFrom, attemptsFrom, attempt_recorded]
      cases attempt site kind vars number p with
      | mk ending q =>
          cases ending with
          | stopped error => rfl
          | settled job error => cases error <;> rfl
          | repeated requested error =>
              cases left with
              | zero => rfl
              | succ left =>
                  exact ih left (Nat.lt_succ_self left) (goOn site number requested q) (number + 1)

end Recorded

/-! ## Runs -/

/-- What the run leaves behind on a site that has written down its calls. -/
def Runner.Outcome.recorded (vars : Variables) (outcome : Runner.Outcome η ω) :
    Runner.Outcome η (ω × List SiteCall) :=
  { outcome with world := (outcome.world, outcome.calls.filterMap (RunCall.siteCall? vars)) }

/-- A run is the same on a site that records, and what is recorded are its calls of the site. -/
theorem Runner.run_recorded
    (site : Site ω) (kind : HookKind η) (runner : Runner η) (vars : Variables)
    (names : List String) (world : ω) :
    runner.run site.recorded kind vars names (world, []) =
      (runner.run site kind vars names world).recorded vars := by
  have hstart : runner.start site.recorded (world, []) = (runner.start site world).recorded vars :=
    rfl
  rw [run, run, hstart, attemptsFrom_recorded]
  rfl

end ImageFlow
