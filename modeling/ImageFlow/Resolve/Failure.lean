import ImageFlow.Cloud.Basic
import ImageFlow.Log
import ImageFlow.Resource.Name

/-!
# How resolving fails

Why a parameter that was left blank cannot be filled in, and the sessions with a cloud in which
that is tried.
-/

namespace ImageFlow

inductive ResolveError where
  | missingProject
  | invalidZone (zone : String)
  | noZone (region project : String)
  | invalidStoragePath (path : String)
  | client (source : ClientError)
  deriving DecidableEq, Inhabited

def ResolveError.message : ResolveError → String
  | missingProject =>
    "project cannot be determined: pass a project or run on a Compute Engine instance"
  | invalidZone zone => zone ++ " is not a valid zone"
  | noZone region project =>
    "no available zone found in region " ++ region ++ " for project " ++ project
  | invalidStoragePath path => path ++ " is not a valid Cloud Storage path"
  | client source => source.message

/-- A session with a cloud: it may fail, and it reports events. -/
abbrev Session (ω ε : Type) := ExceptT ε (StateT ω Logged)

namespace Session

variable {ω ε α : Type}

/-- Asks the cloud; a failure of its client is taken as the session takes it. -/
def ask (cloud : Cloud ω) (call : CloudCall) (fail : ClientError → ε) :
    Session ω ε call.Answer := ExceptT.mk fun world =>
  let (answer, world) := cloud call world
  .quiet (answer.mapError fail, world)

/-- Asks the cloud, and goes on with its answer whatever it is. -/
def attempt (cloud : Cloud ω) (call : CloudCall) :
    Session ω ε (Except ClientError call.Answer) := ExceptT.mk fun world =>
  let (answer, world) := cloud call world
  .quiet (.ok answer, world)

def tell (event : LogEvent) : Session ω ε Unit := ExceptT.mk fun world =>
  ⟨(.ok (), world), [event]⟩

def runOn (session : Session ω ε α) (world : ω) : Logged (Except ε α × ω) :=
  session.run.run world

end Session

end ImageFlow
