import ImageFlow.Json.Number
import ImageFlow.Json.Strings

/-!
# Reading a JSON text

One pass over the text gives a `Document`.  Up to `maxOpen` brackets may be open at a time where
content is taken in; passing over a value has no such limit.  The functions recurse on a fuel
that bounds the characters left, and each of them takes at least one character before it calls
another, so `2 · length + 2` is enough.
-/

namespace ImageFlow.JsonText

/-- The number of brackets that may be open at a time. -/
def maxOpen : Nat := 127

/-- Blanks between the tokens of a text. -/
def isSpace (c : Char) : Bool :=
  c = ' ' || c = '\n' || c = '\t' || c = '\r'

/-- The text from its next token on. -/
def dropSpaces (cs : List Char) : List Char :=
  cs.dropWhile isSpace

def readLiteral : List Char → List Char → Except JsonProblem (List Char)
  | [], rest => .ok rest
  | c :: literal, rest =>
    match expect c rest with
    | .ok rest => readLiteral literal rest
    | .error problem => .error problem

mutual

def passValue : Nat → List Char → Except JsonProblem (List Char)
  | 0, _ => .error .ended
  | fuel + 1, cs =>
    match dropSpaces cs with
    | [] => .error .ended
    | 'n' :: rest => readLiteral ['u', 'l', 'l'] rest
    | 't' :: rest => readLiteral ['r', 'u', 'e'] rest
    | 'f' :: rest => readLiteral ['a', 'l', 's', 'e'] rest
    | '"' :: rest => passString rest
    | '[' :: rest =>
      match dropSpaces rest with
      | ']' :: rest => .ok rest
      | rest => passItems fuel rest
    | '\x7b' :: rest =>
      match dropSpaces rest with
      | '\x7d' :: rest => .ok rest
      | rest => passMembers fuel rest
    | c :: rest =>
      if c = '-' ∨ c.isDigit then passNumber (c :: rest) else .error .malformed

/-- Passes over the elements of an array, one of which must follow, and its closing bracket. -/
def passItems : Nat → List Char → Except JsonProblem (List Char)
  | 0, _ => .error .ended
  | fuel + 1, cs =>
    match passValue fuel cs with
    | .error problem => .error problem
    | .ok rest =>
      match dropSpaces rest with
      | [] => .error .ended
      | ']' :: rest => .ok rest
      | ',' :: rest => passItems fuel rest
      | _ => .error .malformed

/-- Passes over the members of an object, one of which must follow, and its closing bracket. -/
def passMembers : Nat → List Char → Except JsonProblem (List Char)
  | 0, _ => .error .ended
  | fuel + 1, cs =>
    match dropSpaces cs with
    | [] => .error .ended
    | '"' :: rest =>
      match passString rest with
      | .error problem => .error problem
      | .ok rest =>
        match expect ':' (dropSpaces rest) with
        | .error problem => .error problem
        | .ok rest =>
          match passValue fuel rest with
          | .error problem => .error problem
          | .ok rest =>
            match dropSpaces rest with
            | [] => .error .ended
            | '\x7d' :: rest => .ok rest
            | ',' :: rest => passMembers fuel rest
            | _ => .error .malformed
    | _ => .error .malformed

end

/-- What was read, and the text after it, unless a problem ended the reading. -/
structure Reading (α : Type) where
  content : α
  rest : Option (List Char)

/-- A scalar, or the problem in its place. -/
def Reading.scalar (outcome : Except JsonProblem (Document × List Char)) : Reading Document :=
  match outcome with
  | .ok (document, rest) => ⟨document, some rest⟩
  | .error problem => ⟨.broken problem, none⟩

/-- The elements or members of a container, and the problem that ended them. -/
structure Contents (α : Type) where
  parts : List α
  stop : Option JsonProblem

/-- The contents end with their closing bracket. -/
def closed {α : Type} (parts : List α) (rest : List Char) : Reading (Contents α) :=
  ⟨⟨parts, none⟩, some rest⟩

def stopped {α : Type} (parts : List α) (problem : JsonProblem) : Reading (Contents α) :=
  ⟨⟨parts, some problem⟩, none⟩

/-- The contents end with a part that holds the problem itself. -/
def abandoned {α : Type} (part : α) : Reading (Contents α) :=
  ⟨⟨[part], none⟩, none⟩

/-- One more part in front. -/
def Reading.cons {α : Type} (part : α) (reading : Reading (Contents α)) : Reading (Contents α) :=
  ⟨⟨part :: reading.content.parts, reading.content.stop⟩, reading.rest⟩

mutual

/-- The next value, inside `depth` open brackets. -/
def readValue : Nat → Nat → List Char → Reading Document
  | 0, _, _ => ⟨.broken .ended, none⟩
  | fuel + 1, depth, cs =>
    match dropSpaces cs with
    | [] => ⟨.broken .ended, none⟩
    | 'n' :: rest => .scalar ((readLiteral ['u', 'l', 'l'] rest).map (.null, ·))
    | 't' :: rest => .scalar ((readLiteral ['r', 'u', 'e'] rest).map (.bool true, ·))
    | 'f' :: rest => .scalar ((readLiteral ['a', 'l', 's', 'e'] rest).map (.bool false, ·))
    | '"' :: rest => .scalar ((readString rest).map fun (s, rest) => (.text s, rest))
    | '[' :: rest =>
      if maxOpen ≤ depth then ⟨.array [] (some .malformed), none⟩
      else
        match dropSpaces rest with
        | [] => ⟨.array [] (some .ended), none⟩
        | ']' :: rest => ⟨.array [] none, some rest⟩
        | rest =>
          let items := readItems fuel (depth + 1) rest
          ⟨.array items.content.parts items.content.stop, items.rest⟩
    | '\x7b' :: rest =>
      if maxOpen ≤ depth then ⟨.object [] (some .malformed), none⟩
      else
        match dropSpaces rest with
        | [] => ⟨.object [] (some .ended), none⟩
        | '\x7d' :: rest => ⟨.object [] none, some rest⟩
        | rest =>
          let members := readMembers fuel (depth + 1) rest
          ⟨.object members.content.parts members.content.stop, members.rest⟩
    | c :: rest =>
      if c = '-' ∨ c.isDigit then
        .scalar ((readNumber (c :: rest)).map fun (n, rest) => (.number n, rest))
      else ⟨.broken .malformed, none⟩

/-- The elements of an array, one of which must follow. -/
def readItems : Nat → Nat → List Char → Reading (Contents Document)
  | 0, _, _ => stopped [] .ended
  | fuel + 1, depth, cs =>
    let item := readValue fuel depth cs
    match item.rest with
    | none => abandoned item.content
    | some rest =>
      match dropSpaces rest with
      | [] => stopped [item.content] .ended
      | ']' :: rest => closed [item.content] rest
      | ',' :: rest => .cons item.content (readItems fuel depth rest)
      | _ => stopped [item.content] .malformed

/-- The members of an object, one of which must follow.  A value that cannot be taken in is
tried once more as one to pass over. -/
def readMembers : Nat → Nat → List Char → Reading (Contents (String × Document))
  | 0, _, _ => stopped [] .ended
  | fuel + 1, depth, cs =>
    match dropSpaces cs with
    | [] => stopped [] .ended
    | '"' :: rest =>
      match readString rest with
      | .error problem => stopped [] problem
      | .ok (key, rest) =>
        match expect ':' (dropSpaces rest) with
        | .error problem => abandoned (key, .broken problem)
        | .ok rest =>
          let value := readValue fuel depth rest
          match value.rest with
          | some rest => readNext fuel depth (key, value.content) rest
          | none =>
            match passValue (2 * rest.length + 2) rest with
            | .error problem => abandoned (key, .passable value.content (some problem))
            | .ok rest => readNext fuel depth (key, .passable value.content none) rest
    | _ => stopped [] .malformed

/-- The members after `member`. -/
def readNext : Nat → Nat → String × Document → List Char → Reading (Contents (String × Document))
  | 0, _, member, _ => stopped [member] .ended
  | fuel + 1, depth, member, cs =>
    match dropSpaces cs with
    | [] => stopped [member] .ended
    | '\x7d' :: rest => closed [member] rest
    | ',' :: rest => .cons member (readMembers fuel depth rest)
    | _ => stopped [member] .malformed

end

/-- The document of a text, and whether nothing but blanks follows it. -/
def read (text : String) : Document × Bool :=
  let cs := text.toList
  let reading := readValue (3 * cs.length + 3) 0 cs
  (reading.content, (reading.rest.map dropSpaces) == some [])

end ImageFlow.JsonText
