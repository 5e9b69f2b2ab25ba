import ImageFlow.Resolve.Location
import ImageFlow.Resolve.Network
import ImageFlow.Resolve.Parameters
import ImageFlow.Resolve.SeriesChoice

/-!
# Resolving parameters

The blanks of the parameters are filled in by a fixed sequence of steps, each of which may use
what the steps before it found: project, scratch path, storage location, zone, region, network,
machine series.  The first step that fails ends the sequence and leaves the parameters as the step
before it left them.
-/

namespace ImageFlow

variable {ω : Type}

/-- The two lookups of a resolution that can be replaced. -/
structure Collaborators (ω : Type) where
  /-- The network and the subnetwork for a network, a subnetwork, a region and a project. -/
  network : String → String → String → String → Session ω ResolveError (String × String)
  /-- The machine series for a project and a zone. -/
  series : String → String → Session ω ResolveError (List String)

/-- The lookups that ask the cloud. -/
def Collaborators.ofCloud (cloud : Cloud ω) : Collaborators ω where
  network := NetworkChoice.resolve cloud
  series := SeriesChoice.detect cloud

/-- A resolution under way: the parameters, and the region of the scratch bucket once it is
known. -/
structure Resolution where
  params : Parameters
  bucketRegion : String := ""
  deriving DecidableEq, Inhabited

abbrev ResolutionStep (ω : Type) := Resolution → Session ω ResolveError Resolution

namespace Resolution

def withParams (r : Resolution) (f : Parameters → Parameters) : Resolution :=
  { r with params := f r.params }

/-- The project, asked of the metadata server if it is blank. -/
def project (cloud : Cloud ω) : ResolutionStep ω := fun r => do
  if !r.params.project.isEmpty then return r
  else
    let answer : Except ClientError String ← Session.attempt cloud .metadataProject
    match answer with
    | .error _ => throw .missingProject
    | .ok project =>
      if project.isEmpty then throw .missingProject
      else
        Session.tell (.debug "project taken from metadata server" [("project", project)])
        return r.withParams fun p => { p with project }

/-- The region for a new bucket: that of the zone, or else of the metadata server's zone, or else
the default. -/
def bucketRegionFor (cloud : Cloud ω) (zone : String) : Session ω ResolveError String := do
  if !zone.isEmpty then ExceptT.mk (pure (Location.regionOfZone zone))
  else
    let answer : Except ClientError String ← Session.attempt cloud .metadataZone
    match answer with
    | .error _ => return Location.defaultRegion
    | .ok zone =>
      if zone.isEmpty then return Location.defaultRegion
      else ExceptT.mk (pure (Location.regionOfZone zone))

/-- The region of the bucket of a scratch path. -/
def givenScratch (cloud : Cloud ω) (path : String) : Session ω ResolveError String := do
  let (bucket, _) ← ExceptT.mk (pure (Location.splitStoragePath path))
  let location : String ← Session.ask cloud (.bucketLocation bucket) .client
  return Text.lower location

/-- The scratch path, for which a bucket is created if it is blank. -/
def scratchPath (cloud : Cloud ω) : ResolutionStep ω := fun r => do
  if !r.params.scratchPath.isEmpty then
    let region ← givenScratch cloud r.params.scratchPath
    return { r with bucketRegion := region }
  else
    let region ← bucketRegionFor cloud r.params.zone
    let bucket := Location.scratchBucketName r.params.project region
    let _ : Unit ← Session.ask cloud (.createBucket r.params.project bucket region) .client
    Session.tell (.info "using scratch bucket" [("bucket", bucket), ("region", region)])
    return { r.withParams fun p => { p with scratchPath := "gs://" ++ bucket ++ "/" } with
      bucketRegion := region }

/-- The storage location, where one is asked for and left blank. -/
def storageLocation : ResolutionStep ω := fun r =>
  return r.withParams fun p =>
    { p with
      storageLocation := p.storageLocation.map fun location =>
        if location.isEmpty then Location.largestStorageLocation r.bucketRegion else location }

/-- The zone, near the scratch bucket if it is blank. -/
def zone (cloud : Cloud ω) : ResolutionStep ω := fun r => do
  if !r.params.zone.isEmpty then return r
  else
    let zone ← Location.firstZone cloud r.bucketRegion r.params.project
    return r.withParams fun p => { p with zone }

/-- The region, which is that of the zone. -/
def region : ResolutionStep ω := fun r => do
  let region ← ExceptT.mk (pure (Location.regionOfZone r.params.zone))
  return r.withParams fun p => { p with region }

/-- The network and the subnetwork. -/
def network (collaborators : Collaborators ω) : ResolutionStep ω := fun r => do
  let p := r.params
  let (network, subnet) ← collaborators.network p.network p.subnet p.region p.project
  return r.withParams fun p => { p with network, subnet }

/-- The machine series, detected if none are given. -/
def series (collaborators : Collaborators ω) : ResolutionStep ω := fun r => do
  if !r.params.workerMachineSeries.isEmpty then return r
  else
    let workerMachineSeries ← collaborators.series r.params.project r.params.zone
    return r.withParams fun p => { p with workerMachineSeries }

def steps (cloud : Cloud ω) (collaborators : Collaborators ω) : List (ResolutionStep ω) :=
  [ project cloud, scratchPath cloud, storageLocation, zone cloud, region
  , network collaborators, series collaborators ]

/-- Takes steps up to the first that fails, and says how it failed. -/
def take : List (ResolutionStep ω) → Resolution →
    StateT ω Logged (Resolution × Except ResolveError Unit)
  | [], r => pure (r, .ok ())
  | step :: rest, r => do
    match ← (step r).run with
    | .ok next => take rest next
    | .error failure => pure (r, .error failure)

def summary (p : Parameters) : LogEvent :=
  .info "resolved parameters"
    [("project", p.project), ("zone", p.zone), ("scratch", p.scratchPath),
      ("series", Text.quotedList p.workerMachineSeries)]

end Resolution

/-- What a resolution leaves behind: the parameters, and why it stopped, if it did. -/
structure Resolved (ω : Type) where
  params : Parameters
  result : Except ResolveError Unit
  world : ω
  events : List LogEvent

/-- Fills in every blank of the parameters. -/
def Parameters.resolve (cloud : Cloud ω) (collaborators : Collaborators ω) (params : Parameters)
    (world : ω) : Resolved ω :=
  let taken := (Resolution.take (Resolution.steps cloud collaborators) { params }).run world
  let ((r, result), world) := taken.value
  let closing := if result.isOk then [Resolution.summary r.params] else []
  { params := r.params, result, world, events := taken.events ++ closing }

end ImageFlow
