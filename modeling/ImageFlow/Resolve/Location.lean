import ImageFlow.Resolve.Failure
import ImageFlow.Text.Case

/-!
# Zones, regions and storage locations

A zone is a region with one more letter.  Storage can lie in a region or in one of three
multi-regions, and a multi-region stands for one of its regions when a zone is needed.
-/

namespace ImageFlow.Location

def defaultRegion : String := "us-central1"

/-- A small letter. -/
def isZoneLetter (c : Char) : Bool :=
  'a' ≤ c && c ≤ 'z'

/-- The region of a zone: what stands before its last dash, if a single letter follows. -/
def regionOfZone (zone : String) : Except ResolveError String :=
  match Text.cutLast '-' zone.toList with
  | some (region, [letter]) =>
    if isZoneLetter letter ∧ region.contains '-' then .ok (String.ofList region)
    else .error (.invalidZone zone)
  | _ => .error (.invalidZone zone)

/-- The widest storage location around a region: the multi-region of its continent, or else the
region itself. -/
def largestStorageLocation (region : String) : String :=
  let region := Text.lower region
  match String.ofList (Text.beforeFirst '-' region.toList) with
  | "us" => "us"
  | "eu" => "eu"
  | "europe" => "eu"
  | "asia" => "asia"
  | _ => region

/-- The region that stands for a storage location. -/
def representativeRegion (location : String) : String :=
  match Text.lower location with
  | "us" => defaultRegion
  | "eu" => "europe-west1"
  | "asia" => "asia-east1"
  | region => region

def storageScheme : List Char := "gs://".toList

/-- Splits `gs://bucket/some/object` into the bucket and the object. -/
def splitStoragePath (path : String) : Except ResolveError (String × String) :=
  match Text.dropFront storageScheme path.toList with
  | none => .error (.invalidStoragePath path)
  | some rest =>
    let (bucket, object) := (Text.cutFirst '/' rest).getD (rest, [])
    if bucket = [] then .error (.invalidStoragePath path)
    else .ok (String.ofList bucket, String.ofList object)

/-- The name of the scratch bucket of a project in a region.  Bucket names have no colons and
points, which an id with a domain has. -/
def scratchBucketName (project region : String) : String :=
  let project := project.toList.map fun c => if c = ':' ∨ c = '.' then '-' else c
  Text.lower (String.ofList project ++ "-wfrunner-scratch-" ++ region)

/-- The status of a zone in which machines can be created. -/
def upStatus : String := "UP"

/-- Whether a zone is in use and lies in a region. -/
def isUsable (region : String) (zone : Zone) : Bool :=
  zone.status = upStatus && (region ++ "-").toList.isPrefixOf zone.name.toList

variable {ω : Type}

/-- The first usable zone of the region that stands for a location, in the order of the
listing. -/
def firstZone (cloud : Cloud ω) (location project : String) : Session ω ResolveError String := do
  let region := representativeRegion location
  let zones : List Zone ← Session.ask cloud (.zones project) .client
  match zones.find? (isUsable region) with
  | none => throw (.noZone region project)
  | some zone =>
    Session.tell (.debug "picked zone" [("zone", zone.name), ("region", region)])
    return zone.name

end ImageFlow.Location
