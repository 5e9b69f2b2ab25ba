import ImageFlow.Resolve.Failure
import ImageFlow.Resource.Key
import ImageFlow.Resource.Name
import ImageFlow.Hook.Basic
import ImageFlow.Text.Quoted

/-!
# Images around a run

The size of the image or snapshot that an export starts from, and the image that is made of an
imported data disk.  Only names of a known form are looked up; every other source has size 0.
-/

namespace ImageFlow

inductive ImageError where
  | notFound (kind name : String) (source : ClientError)
  | validation (source : ValidationError)
  | key (source : HookError)
  | create (name : String) (source : ClientError)
  deriving DecidableEq, Inhabited

def ImageError.message : ImageError → String
  | notFound kind name _ => kind ++ " " ++ Text.quoted name ++ " not found"
  | validation source => source.message
  | key source => source.message
  | create name source => "failed to create image " ++ name ++ ": " ++ source.message

/-- Where an export reads its disk from. -/
inductive ImageSource where
  | image (uri : String)
  | snapshot (name : String)
  deriving DecidableEq, Inhabited

namespace ImageSource

variable {ω : Type}

/-- The project and the name of an image that is given by its name or its path. -/
def locate? (project uri : String) : Option (String × String) :=
  match ResourceName.checkImage uri with
  | .ok () => some (project, uri)
  | .error _ => (ResourceName.splitImagePath uri).toOption

/-- The size of an image. -/
def imageSize (cloud : Cloud ω) (project uri : String) : Session ω ImageError Int := do
  match locate? project uri with
  | none => return 0
  | some (project, name) =>
    Session.tell (.info "fetching image" [("image", name), ("project", project)])
    let found : Except ClientError StoredDisk ← Session.attempt cloud (.image project name)
    match found with
    | .ok disk => return disk.sizeGb
    | .error source =>
      Session.tell (.warn "error fetching image" [("image", uri), ("error", source.message)])
      throw (.notFound "Image" uri source)

def snapshotSize (cloud : Cloud ω) (project name : String) : Session ω ImageError Int := do
  match ResourceName.checkSnapshot name with
  | .error _ => return 0
  | .ok () =>
    let found : Except ClientError StoredDisk ← Session.attempt cloud (.snapshot project name)
    match found with
    | .ok disk => return disk.sizeGb
    | .error source =>
      Session.tell
        (.warn "error fetching snapshot" [("snapshot", name), ("error", source.message)])
      throw (.notFound "Snapshot" name source)

def size (cloud : Cloud ω) (project : String) : ImageSource → Session ω ImageError Int
  | image uri => imageSize cloud project uri
  | snapshot name => snapshotSize cloud project name

end ImageSource

/-- A request for the image of a data disk, in a project. -/
structure DataDiskImage where
  project : String
  request : ImageSpec
  deriving DecidableEq, Inhabited

namespace DataDiskImage

def importLabel : String := "gce-image-import"

/-- The licence of an imported image. -/
def importLicense : String := "projects/compute-image-import/global/licenses/virtual-disk-import"

/-- The request for the image of a disk.  The user's labels are laid over the import label, and an
empty storage location leaves the choice to the service. -/
def make (project imageName diskUri : String) (userLabels : OrderedMap String)
    (storageLocation : String) (key : KeyRequest) : Except ImageError DataDiskImage := do
  (ResourceName.checkImage imageName).mapError .validation
  let keyName ← (key.name project).mapError fun problem => .key (.invalidKey problem)
  return {
    project
    request :=
      { name := imageName
        labels := userLabels.overlay ((∅ : OrderedMap String).insert importLabel "true")
        sourceDisk := diskUri
        storageLocations := if storageLocation.isEmpty then [] else [storageLocation]
        licenses := [importLicense]
        encryptionKey := keyName.map EncryptionKey.mk } }

def withDescription (image : DataDiskImage) (description : String) : DataDiskImage :=
  { image with request := { image.request with description } }

def withFamily (image : DataDiskImage) (family : String) : DataDiskImage :=
  { image with request := { image.request with family } }

variable {ω : Type}

def create (cloud : Cloud ω) (image : DataDiskImage) : Session ω ImageError Unit := do
  Session.tell
    (.info "creating image" [("image", image.request.name), ("project", image.project)])
  Session.ask cloud (.createImage image.project image.request)
    fun source => .create image.request.name source

end DataDiskImage

end ImageFlow
