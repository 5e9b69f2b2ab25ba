import ImageFlow.Run.Audit
import ImageFlow.Run.Failure
import ImageFlow.Text.Quoted

/-!
# One attempt after another

A run makes attempts until one is not to be repeated, the limit is reached, or the run is
cancelled.  An attempt loads a template, has every hook prepare the job in order, hands it to the
engine, and has every hook judge the outcome in the same order, each seeing the error that the one
before handed on.

What a run is given from outside is a `Site` over a state of its own: where templates come from,
the engine, and the clock.  The token by which the engine can cancel a run is part of the run
itself, and once fired it stays fired.  The calls of hooks, engine and templates are listed as
they are made.
-/

namespace ImageFlow

/-- The variables that a run passes to the engine. -/
abbrev Variables := OrderedMap String

/-- What the engine makes of a job: the job as it leaves it, its error if it fails, and whether the
token is fired meanwhile, before a next attempt could begin. -/
structure Execution where
  job : Job
  error : Option WorkflowError := none
  cancels : Bool := false

/-- What a run is given from outside. -/
structure Site (ω : Type) where
  /-- Loads the template of the next attempt. -/
  load : ω → Except TemplateError Workflow × ω
  /-- Executes a job; the flag says whether the token has been fired before. -/
  execute : Job → Variables → Bool → ω → Execution × ω
  /-- Reads the clock. -/
  now : ω → Timestamp

/-- A call that a run makes; hooks are numbered from zero. -/
inductive RunCall where
  | load
  | before (hook : Nat) (job : Job)
  | execute (job : Job) (cancelled : Bool)
  | after (hook : Nat) (error : Option WorkflowError)

/-- A run under way. -/
structure Progress (η ω : Type) where
  hooks : List η
  cancelled : Bool
  audit : Audit
  world : ω
  events : List LogEvent := []
  calls : List RunCall := []

namespace Progress

variable {η ω : Type}

def report (p : Progress η ω) (events : List LogEvent) : Progress η ω :=
  { p with events := p.events ++ events }

def listing (p : Progress η ω) (calls : List RunCall) : Progress η ω :=
  { p with calls := p.calls ++ calls }

def record (site : Site ω) (event : RunEvent) (p : Progress η ω) : Progress η ω :=
  { p with audit := p.audit.record event (site.now p.world) }

def finishAttempt (site : Site ω) (error : Option String) (requested : List String)
    (p : Progress η ω) : Progress η ω :=
  { p with audit := p.audit.finishAttempt error requested (site.now p.world) }

end Progress

/-- What comes of the hooks' work on a job: the job, and the hook that gave up with its reason. -/
structure Prepared where
  job : Job
  failure : Option (String × HookError) := none
  events : List LogEvent := []
  calls : List RunCall := []

/-- Has the hooks prepare a job in order, up to the first that gives up; `index` is the number of
the first of them. -/
def prepareAll {η : Type} (kind : HookKind η) (index : Nat) : List η → Job → Prepared
  | [], job => { job }
  | hook :: rest, job =>
    let prepared := kind.before hook job
    let call := RunCall.before index job
    match prepared.value.failure with
    | some failure =>
      { job := prepared.value.job, failure := some (kind.name hook, failure)
        events := prepared.events, calls := [call] }
    | none =>
      let later := prepareAll kind (index + 1) rest prepared.value.job
      { later with events := prepared.events ++ later.events, calls := call :: later.calls }

/-- What comes of the hooks' judgement: the hooks from now on, the names of those that ask for
another attempt, and the error that the last one handed on. -/
structure Judgement (η : Type) where
  hooks : List η
  requested : List String := []
  error : Option WorkflowError
  events : List LogEvent := []
  calls : List RunCall := []

/-- Has the hooks judge an outcome in order; `index` is the number of the first of them. -/
def judgeAll {η : Type} (kind : HookKind η) (index : Nat) :
    List η → Option WorkflowError → Judgement η
  | [], error => { hooks := [], error }
  | hook :: rest, error =>
    let verdict := kind.after hook error
    let later := judgeAll kind (index + 1) rest verdict.value.error
    { later with
      hooks := verdict.value.hook :: later.hooks
      requested :=
        if verdict.value.retry then kind.name verdict.value.hook :: later.requested
        else later.requested
      events := verdict.events ++ later.events
      calls := RunCall.after index error :: later.calls }

/-- How an attempt ends. -/
inductive AttemptEnd where
  /-- It could not be started, or its job could not be prepared. -/
  | stopped (error : RunError)
  /-- It was executed, and nobody asks for another one. -/
  | settled (job : Job) (error : Option WorkflowError)
  /-- It was executed, and these hooks ask for another one. -/
  | repeated (requested : List String) (error : Option WorkflowError)

variable {η ω : Type}

/-- The text of a failure of the engine as the record keeps it. -/
def errorText (error : Option WorkflowError) : Option String :=
  error.map WorkflowError.message

/-- Executes a prepared job and has the hooks judge the outcome. -/
def execute (site : Site ω) (kind : HookKind η) (vars : Variables) (job : Job)
    (p : Progress η ω) : AttemptEnd × Progress η ω :=
  let call := RunCall.execute job p.cancelled
  let (execution, world) := site.execute job vars p.cancelled p.world
  let judgement := judgeAll kind 0 p.hooks execution.error
  let p := { p with hooks := judgement.hooks, cancelled := p.cancelled || execution.cancels, world }
  let p := (p.listing (call :: judgement.calls)).report judgement.events
  let p := p.finishAttempt site (errorText judgement.error) judgement.requested
  if judgement.requested.isEmpty then (.settled execution.job judgement.error, p)
  else (.repeated judgement.requested judgement.error, p)

/-- Prepares the job of a loaded workflow and executes it. -/
def prepareAndExecute (site : Site ω) (kind : HookKind η) (vars : Variables) (number : Nat)
    (workflow : Workflow) (p : Progress η ω) : AttemptEnd × Progress η ω :=
  let p := { p with audit := p.audit.beginAttempt number workflow.name (site.now p.world) }
  let p := p.report
    [⟨.info, "starting workflow attempt",
      [("attempt", .number number), ("workflow", .text workflow.name),
        ("execution_id", .text p.audit.executionId)]⟩]
  let prepared := prepareAll kind 0 p.hooks (.ofWorkflow workflow)
  let p := (p.listing prepared.calls).report prepared.events
  match prepared.failure with
  | some (hook, failure) =>
    let p := p.report
      [.warn "workflow setup failed" [("hook", hook), ("error", failure.message)]]
    (.stopped (.setup hook failure), p.finishAttempt site (some failure.message) [])
  | none => execute site kind vars prepared.job p

def attempt (site : Site ω) (kind : HookKind η) (vars : Variables) (number : Nat)
    (p : Progress η ω) : AttemptEnd × Progress η ω :=
  if p.cancelled then
    (.stopped (.cancelled number), p.report
      [⟨.warn, "run cancelled",
        [("attempt", .number number), ("execution_id", .text p.audit.executionId)]⟩])
  else
    let p := (p.record site .start).listing [.load]
    let (loaded, world) := site.load p.world
    let p := { p with world }
    match loaded with
    | .error failure => (.stopped (.template failure), p)
    | .ok workflow => prepareAndExecute site kind vars number workflow p

/-- The values of a job under the names that are asked for, where it holds one. -/
def readOutputs (job : Job) (names : List String) : OrderedMap String :=
  .ofList (names.filterMap fun name => (job.outputs.get? name).map fun value => (name, value))

def reportOutputs (outputs : OrderedMap String) : List LogEvent :=
  outputs.entries.map fun (name, value) =>
    .info "workflow output" [("output", name), ("value", value)]

/-- The result of an attempt that is not repeated. -/
def settle (names : List String) (job : Job) (error : Option WorkflowError) (p : Progress η ω) :
    Except RunError (OrderedMap String) × Progress η ω :=
  match error with
  | none =>
    let outputs := readOutputs job names
    (.ok outputs, p.report (reportOutputs outputs))
  | some error =>
    (.error (.workflow error), p.report
      [.warn "workflow failed"
        [("project", job.workflow.project), ("zone", job.workflow.zone),
          ("error", error.message)]])

/-- The end of a run whose last allowed attempt is to be repeated. -/
def giveUp (number : Nat) (requested : List String) (error : Option WorkflowError)
    (p : Progress η ω) : Except RunError (OrderedMap String) × Progress η ω :=
  (.error (.attemptLimit number error), p.report
    [⟨.warn, "retry requested past the attempt limit",
      [("attempts", .number number), ("hooks", .text (Text.quotedList requested))]⟩])

/-- The run before the attempt that repeats one of this number. -/
def goOn (site : Site ω) (number : Nat) (requested : List String) (p : Progress η ω) :
    Progress η ω :=
  (p.report
    [⟨.info, "retrying workflow",
      [("attempt", .number number), ("hooks", .text (Text.quotedList requested))]⟩]).record
    site .retry

/-- The attempts from one number on, of which `left` may follow the first. -/
def attemptsFrom (site : Site ω) (kind : HookKind η) (vars : Variables) (names : List String) :
    Nat → Nat → Progress η ω → Except RunError (OrderedMap String) × Progress η ω
  | left, number, p =>
    match attempt site kind vars number p with
    | (.stopped error, p) => (.error error, p)
    | (.settled job error, p) => settle names job error p
    | (.repeated requested error, p) =>
      match left with
      | 0 => giveUp number requested error p
      | left + 1 =>
        attemptsFrom site kind vars names left (number + 1) (goOn site number requested p)

end ImageFlow
