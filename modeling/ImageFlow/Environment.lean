import ImageFlow.Json.Decode
import ImageFlow.Workflow.Document

/-!
# The environment of a run

Where and how a workflow runs, as it is read from a document and written back.  It is fixed
before the first attempt.
-/

namespace ImageFlow

open Decoder (RecordField field)

/-- Endpoints to use instead of the public ones; an empty text leaves the public one. -/
structure EndpointsOverride where
  compute : String := ""
  storage : String := ""
  cloudLogging : String := ""
  deriving DecidableEq, Inhabited

namespace EndpointsOverride

/-- Whether every service keeps its public endpoint. -/
def isEmpty (endpoints : EndpointsOverride) : Bool :=
  endpoints.compute.isEmpty && endpoints.storage.isEmpty && endpoints.cloudLogging.isEmpty

def fields : List (RecordField EndpointsOverride) :=
  [ field "compute" Decoder.text fun v e => { e with compute := v }
  , field "storage" Decoder.text fun v e => { e with storage := v }
  , field "cloud_logging" Decoder.text fun v e => { e with cloudLogging := v } ]

def decode : Decoder EndpointsOverride := Decoder.record fields {}

def encode (endpoints : EndpointsOverride) : Json :=
  Json.ofPairs
    [ ("compute", .text endpoints.compute), ("storage", .text endpoints.storage)
    , ("cloud_logging", .text endpoints.cloudLogging) ]

end EndpointsOverride

/-- The tool that drives the run, by the name that people read and the one that its labels begin
with. -/
structure Tool where
  humanReadableName : String := "workflow runner"
  resourceLabelName : String := "wfrunner"
  deriving DecidableEq, Inhabited

namespace Tool

/-- The fields of a tool, both of which must be written. -/
def fields : List (RecordField Tool) :=
  [ field "human_readable_name" Decoder.text (fun v t => { t with humanReadableName := v }) .refused
  , field "resource_label_name" Decoder.text (fun v t => { t with resourceLabelName := v })
      .refused ]

def decode : Decoder Tool := Decoder.record fields {}

def encode (tool : Tool) : Json :=
  Json.ofPairs
    [ ("human_readable_name", .text tool.humanReadableName)
    , ("resource_label_name", .text tool.resourceLabelName) ]

end Tool

structure Environment where
  project : String := ""
  zone : String := ""
  /-- The scratch path for logs and intermediate files. -/
  gcsPath : String := ""
  /-- The path of a credentials file. -/
  oauth : String := ""
  timeout : String := ""
  endpointsOverride : EndpointsOverride := {}
  executionId : String := ""
  /-- The machine series to use, the most preferred first. -/
  workerMachineSeries : List String := []
  nestedVirtualization : Bool := false
  labels : OrderedMap String := ∅
  network : String := ""
  subnet : String := ""
  computeServiceAccount : String := ""
  tool : Tool := {}
  deriving DecidableEq, Inhabited

namespace Environment

def primarySeries? (env : Environment) : Option String :=
  env.workerMachineSeries[0]?

/-- The series to use once the quota of the first is exhausted. -/
def secondarySeries? (env : Environment) : Option String :=
  env.workerMachineSeries[1]?

def fields : List (RecordField Environment) :=
  [ field "project" Decoder.text fun v e => { e with project := v }
  , field "zone" Decoder.text fun v e => { e with zone := v }
  , field "gcs_path" Decoder.text fun v e => { e with gcsPath := v }
  , field "oauth" Decoder.text fun v e => { e with oauth := v }
  , field "timeout" Decoder.text fun v e => { e with timeout := v }
  , field "endpoints_override" EndpointsOverride.decode fun v e => { e with endpointsOverride := v }
  , field "execution_id" Decoder.text fun v e => { e with executionId := v }
  , field "worker_machine_series" (Decoder.list Decoder.text)
      fun v e => { e with workerMachineSeries := v }
  , field "nested_virtualization_enabled" Decoder.bool
      fun v e => { e with nestedVirtualization := v }
  , field "labels" (Decoder.map Decoder.text) fun v e => { e with labels := v }
  , field "network" Decoder.text fun v e => { e with network := v }
  , field "subnet" Decoder.text fun v e => { e with subnet := v }
  , field "compute_service_account" Decoder.text fun v e => { e with computeServiceAccount := v }
  , field "tool" Tool.decode fun v e => { e with tool := v } ]

def decode : Decoder Environment := Decoder.record fields {}

def encode (env : Environment) : Json :=
  Json.ofPairs
    [ ("project", .text env.project), ("zone", .text env.zone), ("gcs_path", .text env.gcsPath)
    , ("oauth", .text env.oauth), ("timeout", .text env.timeout)
    , ("endpoints_override", env.endpointsOverride.encode)
    , ("execution_id", .text env.executionId)
    , ("worker_machine_series", Json.ofTexts env.workerMachineSeries)
    , ("nested_virtualization_enabled", .bool env.nestedVirtualization)
    , ("labels", Json.ofLabels env.labels), ("network", .text env.network)
    , ("subnet", .text env.subnet)
    , ("compute_service_account", .text env.computeServiceAccount), ("tool", env.tool.encode) ]

end Environment

end ImageFlow
