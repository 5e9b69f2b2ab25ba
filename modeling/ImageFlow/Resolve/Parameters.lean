import ImageFlow.Environment

/-!
# The parameters of a run

Everything that a run needs, as far as the user has given it.
-/

namespace ImageFlow

/-- What a run needs; empty texts are blanks to fill in. -/
structure Parameters where
  project : String := ""
  zone : String := ""
  region : String := ""
  scratchPath : String := ""
  /-- None when no storage location is needed; an empty text asks for one. -/
  storageLocation : Option String := none
  network : String := ""
  subnet : String := ""
  workerMachineSeries : List String := []
  oauth : String := ""
  timeout : String := ""
  endpointsOverride : EndpointsOverride := {}
  executionId : String := ""
  labels : OrderedMap String := ∅
  computeServiceAccount : String := ""
  nestedVirtualization : Bool := false
  tool : Tool := {}
  deriving DecidableEq, Inhabited

/-- The environment of a run with these parameters. -/
def Parameters.toEnvironment (p : Parameters) : Environment where
  project := p.project
  zone := p.zone
  gcsPath := p.scratchPath
  oauth := p.oauth
  timeout := p.timeout
  endpointsOverride := p.endpointsOverride
  executionId := p.executionId
  workerMachineSeries := p.workerMachineSeries
  nestedVirtualization := p.nestedVirtualization
  labels := p.labels
  network := p.network
  subnet := p.subnet
  computeServiceAccount := p.computeServiceAccount
  tool := p.tool

end ImageFlow
