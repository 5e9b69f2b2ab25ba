import ImageFlow.Hook.Builtin
import ImageFlow.Run.Attempt
import ImageFlow.Text.Blank

/-!
# Runners

A runner makes runs, one after another, with the same hooks: what the hooks have learned, and
whether the token was fired, carries over from one run to the next.  After each run its record is
kept, whatever came of it.
-/

namespace ImageFlow

/-- How many attempts a run may make, unless it is said otherwise. -/
def defaultMaxAttempts : Nat := 3

/-- The digits of a fresh execution id: the first five of 32. -/
def executionIdDigits : Nat := 5

/-- The execution id that comes of a random number. -/
def freshExecutionId (random : Nat) : String :=
  String.ofList <| (List.range executionIdDigits).map fun i =>
    Nat.digitChar (random / Nat.pow 16 i % 16)

/-- The environment with an execution id, a fresh one if it has none. -/
def Environment.withExecutionId (env : Environment) (random : Nat) : Environment :=
  if env.executionId.isEmpty then { env with executionId := freshExecutionId random } else env

/-- A runner. -/
structure Runner (η : Type) where
  env : Environment
  hooks : List η
  /-- At least one attempt is always allowed. -/
  maxAttempts : Nat := defaultMaxAttempts
  cancelled : Bool := false
  lastAudit : Option Audit := none

/-- What comes of a successful run. -/
structure RunReport where
  /-- The values that were asked for and recorded. -/
  outputs : OrderedMap String
  audit : Audit
  deriving DecidableEq, Inhabited

/-- A value as a size in gigabytes, or 0 when it is absent or no integer. -/
def RunReport.sizeGb (report : RunReport) (name : String) : Int :=
  ((report.outputs.get? name).bind fun value => Text.int64? (Text.trim value)).getD 0

namespace Runner

variable {η ω : Type}

def withHooks (env : Environment) (random : Nat) (hooks : List η) : Runner η :=
  { env := env.withExecutionId random, hooks }

/-- A runner with another limit; a limit of zero allows one attempt. -/
def withMaxAttempts (runner : Runner η) (maxAttempts : Nat) : Runner η :=
  { runner with maxAttempts := max 1 maxAttempts }

/-- A runner with the chain that every run gets, followed by further hooks. -/
def withDefaults (env : Environment) (random : Nat) (ofBuiltin : Builtin → η)
    (troubleshootingUrl : String) (maxAttempts : Nat) (extra : List η) : Runner η :=
  let env := env.withExecutionId random
  { env, hooks := (Builtin.defaults env troubleshootingUrl).map ofBuiltin ++ extra
    maxAttempts := max 1 maxAttempts }

def hookNames (kind : HookKind η) (runner : Runner η) : List String :=
  runner.hooks.map kind.name

structure Outcome (η ω : Type) where
  result : Except RunError RunReport
  runner : Runner η
  world : ω
  events : List LogEvent
  calls : List RunCall

/-- A run under way, before its first attempt. -/
def start (site : Site ω) (runner : Runner η) (world : ω) : Progress η ω :=
  { hooks := runner.hooks, cancelled := runner.cancelled, world
    audit := .begin runner.env.executionId (site.now world) }

/-- What a run leaves behind when its attempts have come to this result: the last event is recorded,
and the record is kept. -/
def conclude (site : Site ω) (runner : Runner η) (result : Except RunError (OrderedMap String))
    (p : Progress η ω) : Outcome η ω :=
  let p := p.record site (if result.isOk then .succeed else .fail)
  { result := result.map fun outputs => { outputs, audit := p.audit }
    runner :=
      { runner with hooks := p.hooks, cancelled := p.cancelled, lastAudit := some p.audit }
    world := p.world, events := p.events, calls := p.calls }

/-- Makes a run and, if it succeeds, reads the values of these names. -/
def run (site : Site ω) (kind : HookKind η) (runner : Runner η) (vars : Variables)
    (names : List String) (world : ω) : Outcome η ω :=
  let (result, p) :=
    attemptsFrom site kind vars names (runner.maxAttempts - 1) 1 (runner.start site world)
  runner.conclude site result p

end Runner

end ImageFlow
