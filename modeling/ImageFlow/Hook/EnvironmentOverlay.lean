import ImageFlow.Environment
import ImageFlow.Hook.Basic

/-!
# The environment over the template

The values of the environment win over those of the top-level workflow, and an empty value leaves
the workflow's own.  Each service whose endpoint is overridden gets a client for it; the first
client that cannot be built ends the preparation.
-/

namespace ImageFlow.EnvironmentOverlay

/-- The value of the environment, or the workflow's own when that is empty. -/
def choose (value own : String) : String :=
  if value.isEmpty then own else value

/-- The workflow with the values of the environment laid over its own. -/
def overlay (env : Environment) (workflow : Workflow) : Workflow :=
  { workflow with
    project := choose env.project workflow.project
    zone := choose env.zone workflow.zone
    gcsPath := choose env.gcsPath workflow.gcsPath
    oauthPath := choose env.oauth workflow.oauthPath
    defaultTimeout := choose env.timeout workflow.defaultTimeout }

/-- The credentials file of the environment, if it names one. -/
def credentials (env : Environment) : Option String :=
  if env.oauth.isEmpty then none else some env.oauth

def report (message endpoint : String) : LogEvent :=
  .debug message [("endpoint", endpoint)]

/-- Goes on with a job unless its preparation has failed. -/
def andThen (step : Job → Logged Preparation) (prepared : Logged Preparation) :
    Logged Preparation :=
  match prepared.value.failure with
  | some _ => prepared
  | none =>
    let next := step prepared.value.job
    ⟨next.value, prepared.events ++ next.events⟩

/-- Puts the client of one service into its slot when the endpoint of the service is
overridden. -/
def installClient {γ : Type} (service : Service) (endpoint message : String)
    (build : Job → Except ClientError γ) (address : γ → String)
    (put : γ → ClientSlots → ClientSlots) (job : Job) : Logged Preparation :=
  if endpoint.isEmpty then .quiet { job }
  else
    match build job with
    | .error source => .quiet { job, failure := some (.client service source) }
    | .ok client =>
      ⟨{ job := { job with clients := put client job.clients } }, [report message (address client)]⟩

def installCompute (files : FileNode) (env : Environment) : Job → Logged Preparation :=
  installClient .compute env.endpointsOverride.compute "using compute endpoint override"
    (fun _ => ComputeClient.build files (some env.endpointsOverride.compute) (credentials env))
    ComputeClient.endpoint fun client slots => { slots with compute := some client }

def installStorage (files : FileNode) (env : Environment) : Job → Logged Preparation :=
  installClient .storage env.endpointsOverride.storage "using storage endpoint override"
    (fun _ => StorageClient.build files (some env.endpointsOverride.storage) (credentials env))
    StorageClient.endpoint fun client slots => { slots with storage := some client }

/-- Installs the client of the logging service, bound to the project of the workflow. -/
def installLogging (files : FileNode) (env : Environment) : Job → Logged Preparation :=
  installClient .logging env.endpointsOverride.cloudLogging
    "using cloud logging endpoint override"
    (fun job => LoggingClient.build files job.workflow.project
      (some env.endpointsOverride.cloudLogging) (credentials env))
    LoggingClient.endpoint fun client slots => { slots with logging := some client }

/-- Lays the environment over the workflow and installs the clients. -/
def prepare (files : FileNode) (env : Environment) (job : Job) : Logged Preparation :=
  andThen (installLogging files env) <|
    andThen (installStorage files env) <|
      installCompute files env (job.mapWorkflow (overlay env))

end ImageFlow.EnvironmentOverlay
