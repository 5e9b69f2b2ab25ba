import ImageFlow.Data.OrderedMap

/-!
# Files

A tree of directories and files, and the rules by which a path leads to one of them.  The program
works at the root of the tree, so a path leads to the same place whether it begins with a slash or
not.
-/

namespace ImageFlow

inductive FileNode where
  | file (text : String)
  /-- A file whose bytes are no UTF-8. -/
  | binary
  /-- A file that may not be read. -/
  | sealed
  | directory (children : List (String × FileNode))
  /-- A directory that may be neither read nor searched. -/
  | closed
  deriving Inhabited

/-- Why a path leads to no text. -/
inductive FileProblem where
  /-- Nothing stands there. -/
  | missing
  /-- The path goes on after a file. -/
  | notDirectory
  /-- A directory stands there. -/
  | isDirectory
  /-- The path or one of its parts is too long. -/
  | nameTooLong
  /-- The path holds a character that no path may hold. -/
  | forbiddenCharacter
  /-- The file or a directory on the way may not be used. -/
  | permissionDenied
  /-- The bytes of the file are no UTF-8. -/
  | notText
  deriving DecidableEq, Inhabited

/-- The text of a problem. -/
def FileProblem.message : FileProblem → String
  | missing => "No such file or directory (os error 2)"
  | notDirectory => "Not a directory (os error 20)"
  | isDirectory => "Is a directory (os error 21)"
  | nameTooLong => "File name too long (os error 36)"
  | forbiddenCharacter => "file name contained an unexpected NUL byte"
  | permissionDenied => "Permission denied (os error 13)"
  | notText => "stream did not contain valid UTF-8"

namespace FileNode

/-- Puts a node at a place, with all directories on the way. -/
def place (node : FileNode) : List String → FileNode → FileNode
  | [], _ => node
  | part :: rest, .directory children =>
    .directory (Entries.insert part
      (place node rest ((Entries.get? part children).getD (.directory []))) children)
  | part :: rest, _ => .directory [(part, place node rest (.directory []))]

/-- The longest name of a node, in bytes. -/
def maxName : Nat := 255

/-- The longest path, in bytes, its terminator included. -/
def maxPath : Nat := 4096

/-- Follows the parts of a path; `above` lists the directories above `here`, nearest first.
Above the topmost directory there is only that directory. -/
def follow (above : List FileNode) (here : FileNode) : List String → Except FileProblem FileNode
  | [] => .ok here
  | part :: rest =>
    match here with
    | .file _ | .binary | .sealed => .error .notDirectory
    | .closed => if part = "" then follow above here rest else .error .permissionDenied
    | .directory children =>
      if part = "" ∨ part = "." then follow above here rest
      else if part = ".." then
        match above with
        | [] => follow [] here rest
        | parent :: grandparents => follow grandparents parent rest
      else if part.utf8ByteSize > maxName then .error .nameTooLong
      else
        match Entries.get? part children with
        | none => .error .missing
        | some child => follow (here :: above) child rest

def find (root : FileNode) (path : String) : Except FileProblem FileNode :=
  let cs := path.toList
  if cs.contains '\x00' then .error .forbiddenCharacter
  else if path.isEmpty then .error .missing
  else if path.utf8ByteSize ≥ maxPath then .error .nameTooLong
  else follow [] root ((cs.splitOn '/').map String.ofList)

/-- The text of the file that a path leads to. -/
def read (root : FileNode) (path : String) : Except FileProblem String := do
  match ← root.find path with
  | .file text => return text
  | .binary => .error .notText
  | .sealed | .closed => .error .permissionDenied
  | .directory _ => .error .isDirectory

def holds (root : FileNode) (path : String) : Bool :=
  (root.find path).isOk

end FileNode

end ImageFlow
