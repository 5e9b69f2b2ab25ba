import ImageFlow.Toml.Scalar

/-!
# Reading a TOML text

A text is a list of statements, one a line.  Values may be nested, and keys may have parts, up to
a fixed depth; the depth is also what the reading of values recurses on.  Where a function has a
fuel, the fuel bounds the characters left.
-/

namespace ImageFlow.TomlText

open Toml (Key Members Statement)

/-- How deep values may be nested, and how many names a key may have. -/
def maxDepth : Nat := 79

/-- The characters of a name without quotes. -/
def isBare (c : Char) : Bool :=
  c.isAlphanum || c = '_' || c = '-'

def readName (cs : List Char) : Option (String × List Char) :=
  match cs.head? with
  | some '"' => readLineString .basic cs
  | some '\'' => readLineString .literal cs
  | _ =>
    match cs.span isBare with
    | ([], _) => none
    | (name, rest) => some (String.ofList name, rest)

/-- The names of a key, of which there may be as many as the count says, and the blanks around
them. -/
def readNames : Nat → List Char → Option (Key × List Char)
  | 0, _ => none
  | count + 1, cs => do
    let (name, rest) ← readName (dropSpaces cs)
    match dropSpaces rest with
    | '.' :: rest =>
      let (key, rest) ← readNames count rest
      return ({ key with way := name :: key.way }, rest)
    | rest => return (⟨[], name⟩, rest)

def readKey (cs : List Char) : Option (Key × List Char) :=
  readNames maxDepth cs

/-- The text after all blanks, comments and line breaks. -/
def dropGap : Nat → List Char → Option (List Char)
  | 0, _ => none
  | fuel + 1, cs =>
    match dropSpaces cs with
    | '#' :: rest => (lineBreak? (rest.dropWhile isPlain)).bind (dropGap fuel)
    | rest =>
      match lineBreak? rest with
      | some rest => dropGap fuel rest
      | none => some rest

def skipGap (cs : List Char) : Option (List Char) :=
  dropGap (cs.length + 1) cs

/-- A key, an equals sign and a value. -/
def readMember (value : List Char → Option (Toml × List Char)) (cs : List Char) :
    Option ((Key × Toml) × List Char) := do
  let (key, rest) ← readKey cs
  let rest ← skip '=' rest
  let (v, rest) ← value (dropSpaces rest)
  return ((key, v), rest)

/-- The elements of an array and its closing bracket; a comma may follow the last one. -/
def readItems (value : List Char → Option (Toml × List Char)) :
    Nat → List Char → Option (List Toml × List Char)
  | 0, _ => none
  | fuel + 1, cs => do
    match ← skipGap cs with
    | ']' :: rest => return ([], rest)
    | rest =>
      let (item, rest) ← value rest
      match ← skipGap rest with
      | ']' :: rest => return ([item], rest)
      | ',' :: rest =>
        let (items, rest) ← readItems value fuel rest
        return (item :: items, rest)
      | _ => none

/-- The members of an inline table, one of which must follow, and its closing bracket. -/
def readMembers (value : List Char → Option (Toml × List Char)) :
    Nat → List Char → Option (List (Key × Toml) × List Char)
  | 0, _ => none
  | fuel + 1, cs => do
    let (member, rest) ← readMember value cs
    match dropSpaces rest with
    | '\x7d' :: rest => return ([member], rest)
    | ',' :: rest =>
      let (members, rest) ← readMembers value fuel rest
      return (member :: members, rest)
    | _ => none

def inlineTable (members : List (Key × Toml)) : Option Toml :=
  (members.foldlM (fun (table : Members) (key, value) =>
    Toml.addMember key value .inline table) []).map (.table .inline)

/-- A value, in which others may be nested as deep as the depth says. -/
def readValue : Nat → List Char → Option (Toml × List Char)
  | depth + 1, '[' :: rest => do
    let (items, rest) ← readItems (readValue depth) (rest.length + 1) rest
    return (.array items, rest)
  | depth + 1, '\x7b' :: rest =>
    match dropSpaces rest with
    | '\x7d' :: rest => some (.table .inline [], rest)
    | rest => do
      let (members, rest) ← readMembers (readValue depth) (rest.length + 1) rest
      return (← inlineTable members, rest)
  | _, cs => readScalar cs

/-- The text after the end of a line, which a comment may precede. -/
def endLine (cs : List Char) : Option (List Char) :=
  let rest :=
    match dropSpaces cs with
    | '#' :: rest => rest.dropWhile isPlain
    | rest => rest
  if rest.isEmpty then some [] else lineBreak? rest

/-- The statement of a line, if it has one, and the text after the line. -/
def readLineStatement (cs : List Char) : Option (Option Statement × List Char) :=
  match endLine cs with
  | some rest => some (none, rest)
  | none =>
    match dropSpaces cs with
    | '[' :: '[' :: rest => do
      let (key, rest) ← readKey rest
      let rest ← skipWord [']', ']'] rest
      return (some (.next key), ← endLine rest)
    | '[' :: rest => do
      let (key, rest) ← readKey rest
      let rest ← skip ']' rest
      return (some (.table key), ← endLine rest)
    | rest => do
      let ((key, value), rest) ← readMember (readValue maxDepth) rest
      return (some (.member key value), ← endLine rest)

def readStatements : Nat → List Char → Option (List Statement)
  | 0, _ => none
  | _ + 1, [] => some []
  | fuel + 1, cs => do
    let (statement, rest) ← readLineStatement cs
    let statements ← readStatements fuel rest
    return statement.toList ++ statements

/-- The tree of a text, which a byte order mark may precede. -/
def read (text : String) : Option Members := do
  let cs := text.toList
  let cs := if cs.head? = some '\uFEFF' then cs.tail else cs
  Toml.ofStatements (← readStatements (cs.length + 1) cs)

end ImageFlow.TomlText
