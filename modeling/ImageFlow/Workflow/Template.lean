import ImageFlow.Files
import ImageFlow.Text.Cut
import ImageFlow.Workflow.Document

/-!
# Workflow templates

Templates are workflow documents in files.  A template without a name is named after its file,
up to the first point: `translate.wf.json` gives `translate`.
-/

namespace ImageFlow

inductive TemplateError where
  /-- The file cannot be read. -/
  | unreadable (path : String) (problem : FileProblem)
  /-- The file holds no workflow document. -/
  | undecodable (path : String) (problem : JsonProblem)
  deriving DecidableEq, Inhabited

/-- The text of the error up to the text of its cause. -/
def TemplateError.message : TemplateError → String
  | unreadable path _ => "failed to read workflow template " ++ path ++ ": "
  | undecodable path _ => "failed to parse workflow template " ++ path ++ ": "

/-- The parts of a path between its slashes, empty and `.` parts left out. -/
def pathParts (path : String) : List (List Char) :=
  (path.toList.splitOn '/').filter fun part => part ≠ [] ∧ part ≠ ['.']

/-- The last part of a path, unless the path ends in `..` or has no parts. -/
def fileName? (path : String) : Option (List Char) :=
  (pathParts path).getLast?.filter (· ≠ ['.', '.'])

/-- The name that a template takes from its path. -/
def templateName (path : String) : String :=
  match fileName? path with
  | some name => String.ofList (Text.beforeFirst '.' name)
  | none => ""

def Workflow.ofTemplate (path text : String) : Except TemplateError Workflow :=
  match Decoder.ofText Workflow.decode text with
  | .error problem => .error (.undecodable path problem)
  | .ok workflow =>
    .ok (if workflow.name.isEmpty then { workflow with name := templateName path } else workflow)

def Workflow.load (files : FileNode) (path : String) : Except TemplateError Workflow :=
  match files.read path with
  | .error problem => .error (.unreadable path problem)
  | .ok text => Workflow.ofTemplate path text

end ImageFlow
