import ImageFlow.Json.Reader

/-!
# Decoding documents

A decoder takes in a document of one shape.  Records are described by their fields in order: an
object gives them by key, in any order and each at most once; an array gives them by position.
Keys that are no field are passed over, except in open records, which keep such members and are
written as objects only.
-/

namespace ImageFlow

/-- Takes in a document of one shape. -/
abbrev Decoder (α : Type) := Document → Except JsonProblem α

namespace Decoder

def json : Decoder Json := Document.toJson

def text : Decoder String
  | .text s => .ok s
  | .broken problem => .error problem
  | .passable wanted _ => text wanted
  | _ => .error .mismatch

def bool : Decoder Bool
  | .bool b => .ok b
  | .broken problem => .error problem
  | .passable wanted _ => bool wanted
  | _ => .error .mismatch

/-- Nothing for `null`, and the inner shape for everything else. -/
def optional {α : Type} (inner : Decoder α) : Decoder (Option α)
  | .null => .ok none
  | document => (inner document).map some

def items {α : Type} (inner : Decoder α) : List Document → Except JsonProblem (List α)
  | [] => .ok []
  | item :: rest => do
    let value ← inner item
    return value :: (← items inner rest)

def list {α : Type} (inner : Decoder α) : Decoder (List α)
  | .array parts stop => do
    let values ← items inner parts
    Document.raise stop
    return values
  | .broken problem => .error problem
  | .passable wanted _ => list inner wanted
  | _ => .error .mismatch

def members {α : Type} (inner : Decoder α) :
    List (String × Document) → Except JsonProblem (List (String × α))
  | [] => .ok []
  | (key, item) :: rest => do
    let value ← inner item
    return (key, value) :: (← members inner rest)

/-- An object whose keys are free; of members with one key the last counts. -/
def map {α : Type} (inner : Decoder α) : Decoder (OrderedMap α)
  | .object parts stop => do
    let values ← members inner parts
    Document.raise stop
    return OrderedMap.ofList values
  | .broken problem => .error problem
  | .passable wanted _ => map inner wanted
  | _ => .error .mismatch

/-- An integer of 64 bits, as a number or as a text. -/
def int64 : Decoder Int := fun document => do
  match ← document.toJson with
  | .number (.integer n) => if Text.fitsInt64 n then .ok n else .error .mismatch
  | .text s =>
    match Text.int64? s with
    | some n => .ok n
    | none => .error .mismatch
  | _ => .error .mismatch

/-- What the absence of a field means. -/
inductive Absence where
  /-- The field keeps its default. -/
  | fallback
  /-- The field is nothing; by position it must still be written. -/
  | nothing
  /-- The field must be written. -/
  | refused
  deriving DecidableEq

/-- A field of a record under construction. -/
structure RecordField (ρ : Type) where
  key : String
  absence : Absence := .fallback
  take : Document → ρ → Except JsonProblem ρ

def fieldOf? {ρ : Type} (fields : List (RecordField ρ)) (key : String) : Option (RecordField ρ) :=
  fields.find? (·.key == key)

def requireSeen {ρ : Type} (fields : List (RecordField ρ)) (seen : List String) :
    Except JsonProblem Unit :=
  if fields.all fun f => f.absence != .refused || seen.contains f.key then .ok ()
  else .error .mismatch

/-- Takes in the members of an object that are fields and hands the others to `other`; `seen`
lists the fields that were met. -/
def takeMembers {ρ : Type} (fields : List (RecordField ρ))
    (other : String → Document → ρ → Except JsonProblem ρ) :
    List (String × Document) → List String → ρ → Except JsonProblem (ρ × List String)
  | [], seen, record => .ok (record, seen)
  | (key, item) :: rest, seen, record =>
    match fieldOf? fields key with
    | some field =>
      if seen.contains key then .error .mismatch
      else do
        let record ← field.take item record
        takeMembers fields other rest (key :: seen) record
    | none => do
      let record ← other key item record
      takeMembers fields other rest seen record

/-- Takes in the elements of an array as the fields in order. -/
def takeItems {ρ : Type} : List (RecordField ρ) → List Document → Option JsonProblem → ρ →
    Except JsonProblem ρ
  | [], [], stop, record => do
    Document.raise stop
    return record
  | [], _ :: _, _, _ => .error .surplus
  | field :: fields, item :: items, stop, record => do
    let record ← field.take item record
    takeItems fields items stop record
  | field :: fields, [], stop, record => do
    Document.raise stop
    if field.absence = .fallback then takeItems fields [] stop record else .error .mismatch

/-- Passes over a member that is no field. -/
def ignore {ρ : Type} (_ : String) (item : Document) (record : ρ) : Except JsonProblem ρ := do
  item.pass
  return record

def takeObject {ρ : Type} (fields : List (RecordField ρ))
    (other : String → Document → ρ → Except JsonProblem ρ) (initial : ρ)
    (parts : List (String × Document)) (stop : Option JsonProblem) : Except JsonProblem ρ := do
  let (record, seen) ← takeMembers fields other parts [] initial
  Document.raise stop
  requireSeen fields seen
  return record

/-- A record: an object with these fields, or an array that gives them in order. -/
def record {ρ : Type} (fields : List (RecordField ρ)) (initial : ρ) : Decoder ρ
  | .object parts stop => takeObject fields ignore initial parts stop
  | .array parts stop => takeItems fields parts stop initial
  | .broken problem => .error problem
  | .passable wanted _ => record fields initial wanted
  | _ => .error .mismatch

/-- An open record: an object with these fields whose other members are kept. -/
def openRecord {ρ : Type} (fields : List (RecordField ρ)) (keep : String → Json → ρ → ρ)
    (initial : ρ) : Decoder ρ
  | .object parts stop =>
    takeObject fields (fun key item record => (keep key · record) <$> item.toJson) initial parts
      stop
  | .broken problem => .error problem
  | .passable wanted _ => openRecord fields keep initial wanted
  | _ => .error .mismatch

/-- A field of a shape, put into the record by `put`. -/
def field {ρ α : Type} (key : String) (inner : Decoder α) (put : α → ρ → ρ)
    (absence : Absence := .fallback) : RecordField ρ :=
  { key, absence, take := fun document record => (put · record) <$> inner document }

/-- Decodes a text: the first problem in it decides, and nothing but blanks may follow. -/
def ofText {α : Type} (inner : Decoder α) (text : String) : Except JsonProblem α := do
  let (document, complete) := JsonText.read text
  let value ← inner document
  if complete then return value else .error .malformed

def ofValue {α : Type} (inner : Decoder α) (value : Json) : Except JsonProblem α :=
  inner (Document.ofJson value)

end Decoder

end ImageFlow
