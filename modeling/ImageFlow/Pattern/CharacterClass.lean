import ImageFlow.Pattern.Element
import ImageFlow.Text.Cut

/-!
# Classes of characters in brackets

A class lists characters, ranges of them and other classes, and may be cut down by operators.
Reading one yields how deep its parts are nested and the rest of the pattern.
-/

namespace ImageFlow.Pattern

open Text

def classNames : List String :=
  [ "alnum", "alpha", "ascii", "blank", "cntrl", "digit", "graph", "lower", "print", "punct"
  , "space", "upper", "word", "xdigit" ]

/-- Reads the name of an ASCII class between colons and the bracket that closes it: whether the
class is negated, and the rest. -/
def readClassName : List Char → Option (Bool × List Char)
  | ':' :: cs => do
    let (negated, cs) := match cs with
      | '^' :: rest => (true, rest)
      | _ => (false, cs)
    let (name, rest) ← cutFirst ':' cs
    match rest with
    | ']' :: rest => if classNames.contains (String.ofList name) then some (negated, rest) else none
    | _ => none
  | _ => none

/-- What has been read of a class: the depths of the parts since the last operator, and that of
everything before it. -/
structure ClassParts where
  depths : List Nat := []
  before : Option Nat := none

namespace ClassParts

def add (parts : ClassParts) (depth : Nat) : ClassParts :=
  { parts with depths := depth :: parts.depths }

/-- How deep the parts are nested: several parts, and an operator, count as one more. -/
def depth (parts : ClassParts) : Nat :=
  let last := match parts.depths with
    | [] => 0
    | [depth] => depth
    | depths => depths.foldl max 0 + 1
  match parts.before with
  | none => last
  | some before => max before last + 1

/-- What has been read when an operator follows. -/
def operate (parts : ClassParts) : ClassParts :=
  { depths := [], before := some parts.depth }

end ClassParts

def readMember (mode : Mode) : List Char → Option (Element × List Char)
  | [] => none
  | '\\' :: rest => readEscape mode rest
  | c :: rest => some (.character c false, rest)

/-- The next character that counts after a dash; a comment counts from its first character on. -/
def peek (mode : Mode) (cs : List Char) : Option Char :=
  if mode.verbose then
    match cs.dropWhile isBlank with
    | '#' :: rest => (rest.dropWhile isBlank).head?
    | rest => rest.head?
  else cs.head?

/-- Reads a member of a class or a range of characters.  A dash makes no range before another
dash or before the end of the class. -/
def readMembers (mode : Mode) (cs : List Char) : Option (List Char) := do
  let (first, rest) ← readMember mode cs
  if !first.isUsableInClass mode.unicode then none
  else
    match skip mode rest with
    | [] => none
    | '-' :: rest =>
      if peek mode rest = some ']' ∨ peek mode rest = some '-' then some ('-' :: rest)
      else do
        let (last, rest) ← readMember mode (skip mode rest)
        match first, last with
        | .character a _, .character b _ =>
          if last.isUsableInClass mode.unicode ∧ a ≤ b then some rest else none
        | _, _ => none
    | rest => some rest

/-- Passes over dashes at the start of a class, which stand for themselves, and counts them. -/
def readDashes (mode : Mode) (inComment : Bool) : List Char → Nat × List Char
  | [] => (0, [])
  | c :: rest =>
    if inComment then readDashes mode (c ≠ '\n') rest
    else if c = '-' then
      let (count, rest) := readDashes mode false rest
      (count + 1, rest)
    else if mode.verbose ∧ isBlank c then readDashes mode false rest
    else if mode.verbose ∧ c = '#' then readDashes mode true rest
    else (0, c :: rest)

/-- Reads the start of a class: whether it is negated, and its first parts.  A closing bracket
stands for itself there. -/
def readClassStart (mode : Mode) (cs : List Char) : Bool × ClassParts × List Char :=
  let (negated, cs) := match skip mode cs with
    | '^' :: rest => (true, rest)
    | cs => (false, cs)
  let (dashes, cs) := readDashes mode false cs
  match dashes, cs with
  | 0, ']' :: rest => (negated, { depths := [0] }, rest)
  | _, _ => (negated, { depths := List.replicate dashes 0 }, cs)

/-- Reads the rest of a class whose start has been read, as far as `fuel` calls go. -/
def readClassRest (mode : Mode) : Nat → ClassParts → List Char → Option (Nat × List Char)
  | 0, _, _ => none
  | fuel + 1, parts, cs =>
    match skip mode cs with
    | [] => none
    | ']' :: rest => some (parts.depth + 1, rest)
    | '&' :: '&' :: rest => readClassRest mode fuel parts.operate rest
    | '-' :: '-' :: rest => readClassRest mode fuel parts.operate rest
    | '~' :: '~' :: rest => readClassRest mode fuel parts.operate rest
    | '[' :: rest =>
      match readClassName rest with
      | some (negated, rest) =>
        if negated ∧ !mode.unicode then none else readClassRest mode fuel (parts.add 0) rest
      | none =>
        let (negated, inner, rest) := readClassStart mode rest
        if negated ∧ !mode.unicode then none
        else do
          let (depth, rest) ← readClassRest mode fuel inner rest
          readClassRest mode fuel (parts.add depth) rest
    | c :: rest => do
      let rest ← readMembers mode (c :: rest)
      readClassRest mode fuel (parts.add 0) rest

/-- Reads a class whose opening bracket has been read.  Without the classes of all characters none
can be negated, as it would match parts of characters. -/
def readClass (mode : Mode) (cs : List Char) : Option (Nat × List Char) :=
  let (negated, parts, rest) := readClassStart mode cs
  if negated ∧ !mode.unicode then none else readClassRest mode (cs.length + 1) parts rest

end ImageFlow.Pattern
