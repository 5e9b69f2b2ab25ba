import ImageFlow.Files
import ImageFlow.Hook.SeriesFallback
import ImageFlow.Run.Runner
import ImageFlow.Toml.Reader

/-!
# Settings

What can be set about runs in a file, and from outside.  Each setting has a default; the file wins
over it, and a variable of the surroundings, unless it is empty, wins over both.
-/

namespace ImageFlow

inductive SettingsError where
  | unreadable (path : String)
  | malformed (path : String)
  deriving DecidableEq, Inhabited

def SettingsError.message : SettingsError → String
  | unreadable path => "failed to read " ++ path
  | malformed path => "failed to parse " ++ path

/-- The settings of runs. -/
structure Settings where
  /-- Where workflow templates are. -/
  workflowDir : String := "workflows"
  /-- How many attempts a run may make. -/
  maxAttempts : Nat := defaultMaxAttempts
  /-- The page that a warning about exhausted quota refers to. -/
  troubleshootingUrl : String := defaultTroubleshootingUrl
  /-- Which log events are shown. -/
  logFilter : String := "info"
  deriving DecidableEq, Inhabited

namespace Settings

/-- The file that the settings are in, unless another one is named. -/
def defaultPath : String := "wfrunner.toml"

/-- A setting that is a text: the given one when the file has none. -/
def textOr (default : String) (key : String) (members : Toml.Members) : Option String :=
  match Entries.get? key members with
  | none => some default
  | some (.text s) => some s
  | some _ => none

/-- A setting that is a count of 32 bits: the given one when the file has none. -/
def countOr (default : Nat) (key : String) (members : Toml.Members) : Option Nat :=
  match Entries.get? key members with
  | none => some default
  | some (.integer n) => if 0 ≤ n ∧ n < UInt32.size then some n.toNat else none
  | some _ => none

/-- The settings that the members of a file give; members of other names do not count. -/
def ofMembers (members : Toml.Members) : Option Settings := do
  let defaults : Settings := {}
  return {
    workflowDir := ← textOr defaults.workflowDir "workflow_dir" members
    maxAttempts := ← countOr defaults.maxAttempts "max_attempts" members
    troubleshootingUrl := ← textOr defaults.troubleshootingUrl "troubleshooting_url" members
    logFilter := ← textOr defaults.logFilter "log_filter" members }

/-- The settings of a file: the defaults when there is no such file. -/
def ofFile (files : FileNode) (path : String) : Except SettingsError Settings :=
  if files.holds path then
    match files.read path with
    | .error _ => .error (.unreadable path)
    | .ok text =>
      match (TomlText.read text).bind ofMembers with
      | some settings => .ok settings
      | none => .error (.malformed path)
  else .ok {}

/-- The settings with those variables laid over them that are set and not empty. -/
def overlaid (settings : Settings) (vars : OrderedMap String) : Settings :=
  let given := fun (name default : String) =>
    ((vars.get? name).filter (!·.isEmpty)).getD default
  { settings with
    workflowDir := given "WFRUNNER_WORKFLOW_DIR" settings.workflowDir
    logFilter := given "WFRUNNER_LOG" settings.logFilter }

def load (files : FileNode) (vars : OrderedMap String) (path : String := defaultPath) :
    Except SettingsError Settings :=
  (ofFile files path).map (·.overlaid vars)

/-- The path of a workflow template: a name that begins at the root stands for itself. -/
def workflowPath (settings : Settings) (name : String) : String :=
  let dir := settings.workflowDir
  if name.startsWith "/" then name
  else if dir.isEmpty ∨ dir.endsWith "/" then dir ++ name
  else dir ++ "/" ++ name

end Settings

end ImageFlow
