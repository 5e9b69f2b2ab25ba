import ImageFlow.Cloud.Failure

/-!
# Names of encryption keys

A key is given by its full resource name, or by its id together with its key ring, location and
project, where the project may be left to the workflow.
-/

namespace ImageFlow

/-- Why no key name can be made. -/
inductive KeyProblem where
  /-- A ring, location or project without a key. -/
  | missingKey
  /-- A name with slashes that is no full name. -/
  | malformedName (key : String)
  /-- An id without a ring or a location. -/
  | missingRing (key : String)
  /-- An id without a project. -/
  | missingProject (key : String)
  /-- A problem in words of its own. -/
  | other (message : String)
  deriving DecidableEq, Inhabited

def KeyProblem.message : KeyProblem → String
  | missingKey => "kms_keyring, kms_location and kms_project require kms_key"
  | malformedName key =>
    key ++ " must be of the form projects/<project>/locations/<location>/keyRings/<keyring>"
      ++ "/cryptoKeys/<key>"
  | missingRing key => key ++ " needs kms_keyring and kms_location"
  | missingProject key => key ++ " needs kms_project"
  | other message => message

/-- The key that a user asks for. -/
structure KeyRequest where
  key : String := ""
  ring : String := ""
  location : String := ""
  project : String := ""
  deriving DecidableEq, Inhabited

namespace KeyRequest

/-- Whether a text is the full name of a key: the four parts that are free are not empty and have
no slash. -/
def isFullName (name : String) : Bool :=
  match (name.toList.splitOn '/').map String.ofList with
  | [projects, project, locations, location, rings, ring, keys, key] =>
    projects = "projects" && locations = "locations" && rings = "keyRings" && keys = "cryptoKeys"
      && !project.isEmpty && !location.isEmpty && !ring.isEmpty && !key.isEmpty
  | _ => false

/-- The full name of a key. -/
def fullName (project location ring key : String) : String :=
  "projects/" ++ project ++ "/locations/" ++ location ++ "/keyRings/" ++ ring ++ "/cryptoKeys/"
    ++ key

/-- The full name of the key that is asked for, if any is. -/
def name (request : KeyRequest) (defaultProject : String) : Except KeyProblem (Option String) :=
  if request.key.isEmpty then
    if request.ring.isEmpty ∧ request.location.isEmpty ∧ request.project.isEmpty then .ok none
    else .error .missingKey
  else if request.key.toList.contains '/' then
    if isFullName request.key then .ok (some request.key)
    else .error (.malformedName request.key)
  else if request.ring.isEmpty ∨ request.location.isEmpty then .error (.missingRing request.key)
  else
    let project := if request.project.isEmpty then defaultProject else request.project
    if project.isEmpty then .error (.missingProject request.key)
    else .ok (some (fullName project request.location request.ring request.key))

end KeyRequest

end ImageFlow
