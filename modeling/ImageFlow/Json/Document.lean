import ImageFlow.Json.Value

/-!
# Documents as they are read

A `Document` is what one pass over a JSON text finds: the values in the order of the text, and
at the place where the text stops being JSON, the problem met there.  A consumer that walks a
document in order therefore meets the problems of the text and its own objections in the order
of the text, and the first one decides.

Some values cannot be taken in but can still be passed over: a number beyond the doubles, an
escape for half a surrogate pair, brackets nested too deeply.  `Document.passable` keeps both
readings.
-/

namespace ImageFlow

/-- What can be wrong with a JSON text for a consumer that expects a certain shape. -/
inductive JsonProblem where
  /-- The text breaks the grammar. -/
  | malformed
  /-- The text ends early. -/
  | ended
  /-- A well-formed value has the wrong shape. -/
  | mismatch
  /-- A record written as an array has more elements than fields. -/
  | surplus
  deriving DecidableEq, Inhabited

/-- A JSON text as far as it can be read.  The `stop` of an array or object is the problem met
where its next element or its closing bracket should stand. -/
inductive Document where
  | null
  | bool (b : Bool)
  | number (n : Number)
  | text (s : String)
  | array (items : List Document) (stop : Option JsonProblem)
  | object (members : List (String × Document)) (stop : Option JsonProblem)
  /-- No value could be read. -/
  | broken (problem : JsonProblem)
  /-- A value with a problem inside, seen by a consumer that wants its content, and the outcome
  for one that passes over it. -/
  | passable (wanted : Document) (passed : Option JsonProblem)
  deriving Inhabited

namespace Document

mutual

/-- A value is a document without problems. -/
def ofJson : Json → Document
  | .null => .null
  | .bool b => .bool b
  | .number n => .number n
  | .text s => .text s
  | .array items => .array (ofItems items) none
  | .object members => .object (ofMembers members) none

def ofItems : List Json → List Document
  | [] => []
  | item :: rest => ofJson item :: ofItems rest

def ofMembers : List (String × Json) → List (String × Document)
  | [] => []
  | (key, value) :: rest => (key, ofJson value) :: ofMembers rest

end

def raise : Option JsonProblem → Except JsonProblem Unit
  | none => .ok ()
  | some problem => .error problem

mutual

/-- The value of a document; of members with one key the last counts. -/
def toJson : Document → Except JsonProblem Json
  | .null => .ok .null
  | .bool b => .ok (.bool b)
  | .number n => .ok (.number n)
  | .text s => .ok (.text s)
  | .array items stop => do
    let items ← toItems items
    raise stop
    return .array items
  | .object members stop => do
    let members ← toMembers members
    raise stop
    return Json.ofPairs members
  | .broken problem => .error problem
  | .passable wanted _ => toJson wanted

def toItems : List Document → Except JsonProblem (List Json)
  | [] => .ok []
  | item :: rest => do
    let value ← toJson item
    return value :: (← toItems rest)

def toMembers : List (String × Document) → Except JsonProblem (List (String × Json))
  | [] => .ok []
  | (key, item) :: rest => do
    let value ← toJson item
    return (key, value) :: (← toMembers rest)

end

mutual

/-- Passes over a document without taking in its content. -/
def pass : Document → Except JsonProblem Unit
  | .array items stop => do
    passItems items
    raise stop
  | .object members stop => do
    passMembers members
    raise stop
  | .broken problem => .error problem
  | .passable _ passed => raise passed
  | _ => .ok ()

def passItems : List Document → Except JsonProblem Unit
  | [] => .ok ()
  | item :: rest => do
    pass item
    passItems rest

def passMembers : List (String × Document) → Except JsonProblem Unit
  | [] => .ok ()
  | (_, item) :: rest => do
    pass item
    passMembers rest

end

mutual

/-- How deeply arrays and objects are nested. -/
def height : Document → Nat
  | .array items _ => heightItems items + 1
  | .object members _ => heightMembers members + 1
  | .passable wanted _ => height wanted
  | _ => 0

def heightItems : List Document → Nat
  | [] => 0
  | item :: rest => max (height item) (heightItems rest)

def heightMembers : List (String × Document) → Nat
  | [] => 0
  | (_, item) :: rest => max (height item) (heightMembers rest)

end

end Document

end ImageFlow
