import ImageFlow.Text.Cut

/-!
# Names of resources

The forms that the compute service accepts: names of images and snapshots, project ids, and the
path of an image in a project.  All are made of small letters, digits and dashes, begin with a
letter and do not end in a dash.
-/

namespace ImageFlow

/-- A name that does not have the form that the service accepts. -/
structure ValidationError where
  kind : String
  value : String
  reference : String
  deriving DecidableEq, Inhabited

def ValidationError.message (error : ValidationError) : String :=
  error.kind ++ " `" ++ error.value ++ "` must conform to " ++ error.reference

namespace ResourceName

/-- A small letter. -/
def isSmall (c : Char) : Bool :=
  'a' ≤ c && c ≤ 'z'

/-- A small letter, a digit or a dash. -/
def isNameChar (c : Char) : Bool :=
  isSmall c || c.isDigit || c = '-'

/-- Small letters, digits and dashes, beginning with a letter and not ending in a dash. -/
def isDashed (cs : List Char) : Bool :=
  cs.head?.any isSmall && cs.all isNameChar && cs.getLast? ≠ some '-'

/-- The name of an image or a snapshot: at most 63 characters. -/
def isImageName (cs : List Char) : Bool :=
  isDashed cs && cs.length ≤ 63

/-- The domain that may stand before a project id. -/
def projectDomain : List Char := "google.com:".toList

/-- A project id: 6 to 30 characters, perhaps after the domain. -/
def isProjectId (cs : List Char) : Bool :=
  let id := (Text.dropFront projectDomain cs).getD cs
  isDashed id && 6 ≤ id.length && id.length ≤ 30

/-- The project and the name in the path of an image. -/
def imagePath? (cs : List Char) : Option (List Char × List Char) :=
  match cs.splitOn '/' with
  | [projects, project, global, images, image] =>
    if String.ofList projects = "projects" ∧ String.ofList global = "global"
        ∧ String.ofList images = "images" ∧ isProjectId project ∧ isImageName image then
      some (project, image)
    else none
  | _ => none

/-- Where the form of image names is laid down. -/
def imagesReference : String :=
  "https://cloud.google.com/compute/docs/reference/rest/v1/images"

/-- Where the form of snapshot names is laid down. -/
def snapshotsReference : String :=
  "https://cloud.google.com/compute/docs/reference/rest/v1/snapshots"

/-- Where the form of project ids is laid down. -/
def projectsReference : String :=
  "https://cloud.google.com/resource-manager/reference/rest/v1/projects"

def checkImage (value : String) : Except ValidationError Unit :=
  if isImageName value.toList then .ok ()
  else .error ⟨"Image name", value, imagesReference⟩

def checkSnapshot (value : String) : Except ValidationError Unit :=
  if isImageName value.toList then .ok ()
  else .error ⟨"Snapshot name", value, snapshotsReference⟩

def checkProject (value : String) : Except ValidationError Unit :=
  if isProjectId value.toList then .ok ()
  else .error ⟨"Project ID", value, projectsReference⟩

/-- Splits the path of an image into the project and the name. -/
def splitImagePath (value : String) : Except ValidationError (String × String) :=
  match imagePath? value.toList with
  | some (project, image) => .ok (String.ofList project, String.ofList image)
  | none => .error ⟨"Image URI", value, imagesReference⟩

end ResourceName

end ImageFlow
