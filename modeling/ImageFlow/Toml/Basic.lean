import ImageFlow.Data.OrderedMap

/-!
# TOML tables

The values of a TOML document and the rules by which its statements build one tree.  A table
remembers how it came to be, because that decides what may still be added to it: a header closes
a table to dotted keys, and an inline table is complete once it is written.
-/

namespace ImageFlow

/-- How a table came to be. -/
inductive Toml.Origin where
  /-- Written as a value. -/
  | inline
  /-- Named by a header. -/
  | header
  /-- On the way to a table that a header named. -/
  | passed
  /-- On the way of a dotted key. -/
  | dotted
  deriving DecidableEq, Inhabited

/-- A TOML value.  A number that is no integer and a moment are kept as they are written. -/
inductive Toml where
  | text (s : String)
  | integer (n : Int)
  | boolean (b : Bool)
  | decimal (written : String)
  | moment (written : String)
  | array (items : List Toml)
  | table (origin : Toml.Origin) (members : List (String × Toml))
  /-- Tables of one name, the newest apart from the earlier ones. -/
  | tables (newest : List (String × Toml)) (earlier : List (List (String × Toml)))
  deriving Inhabited

namespace Toml

abbrev Members := List (String × Toml)

/-- A dotted key: the names on its way, and the last one. -/
structure Key where
  way : List String
  last : String
  deriving DecidableEq, Inhabited

/-- All names of a key. -/
def Key.path (key : Key) : List String :=
  key.way ++ [key.last]

/-- Whether names of the given kind of way may lead into a table: only headers lead into a table
that a header named, and nothing leads into one written as a value. -/
def Origin.admits (origin : Origin) (byDots : Bool) : Bool :=
  match origin with
  | inline => false
  | header => !byDots
  | passed | dotted => true

/-- Changes the table at the end of a way, which is followed by dots or by a header; tables that
are missing on the way come to be. -/
def alter (byDots : Bool) (change : Origin → Members → Option Members) :
    List String → Origin → Members → Option Members
  | [], origin, members => change origin members
  | name :: way, _, members =>
    let missing := table (if byDots then .dotted else .passed) []
    match (Entries.get? name members).getD missing with
    | table origin inner =>
      if origin.admits byDots then
        (alter byDots change way origin inner).map fun inner =>
          Entries.insert name (table origin inner) members
      else none
    | tables newest earlier =>
      (alter byDots change way .header newest).map fun newest =>
        Entries.insert name (tables newest earlier) members
    | _ => none

/-- Puts a new member into a table.  A dotted key ends in a table that only dotted keys fill, and
a plain key in any other. -/
def addMember (key : Key) (value : Toml) (origin : Origin) (members : Members) : Option Members :=
  let add := fun (origin : Origin) (members : Members) =>
    if decide (origin = .dotted) = key.way.isEmpty then none
    else if (Entries.get? key.last members).isSome then none
    else some (Entries.insert key.last value members)
  alter true add key.way origin members

/-- Opens the table that a header names: a new one, or one that was only passed so far. -/
def openTable (key : Key) (root : Members) : Option Members :=
  let enter := fun (_ : Origin) (members : Members) =>
    match Entries.get? key.last members with
    | none => some (Entries.insert key.last (table .header []) members)
    | some (table .passed inner) => some (Entries.insert key.last (table .header inner) members)
    | some _ => none
  alter false enter key.way .header root

/-- Opens one more table of a name. -/
def openNext (key : Key) (root : Members) : Option Members :=
  let push := fun (_ : Origin) (members : Members) =>
    match Entries.get? key.last members with
    | none => some (Entries.insert key.last (tables [] []) members)
    | some (tables newest earlier) =>
      some (Entries.insert key.last (tables [] (newest :: earlier)) members)
    | some _ => none
  alter false push key.way .header root

inductive Statement where
  /-- A header of one table. -/
  | table (key : Key)
  /-- A header of one more table of a name. -/
  | next (key : Key)
  /-- A member of the table that the last header opened. -/
  | member (key : Key) (value : Toml)
  deriving Inhabited

/-- A document under construction: its tree so far, and the way to the open table. -/
structure Draft where
  root : Members := []
  opened : List String := []
  deriving Inhabited

def Draft.take (draft : Draft) : Statement → Option Draft
  | .table key => (openTable key draft.root).map fun root => ⟨root, key.path⟩
  | .next key => (openNext key draft.root).map fun root => ⟨root, key.path⟩
  | .member key value =>
    (alter false (addMember key value) draft.opened .header draft.root).map fun root =>
      { draft with root }

/-- The tree that statements build, unless two of them contradict each other. -/
def ofStatements (statements : List Statement) : Option Members :=
  (statements.foldlM Draft.take {}).map (·.root)

end Toml

end ImageFlow
