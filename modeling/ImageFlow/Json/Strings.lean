import ImageFlow.Json.Document
import ImageFlow.Text.Numeral

/-!
# Strings in a JSON text

The characters up to the closing quote, with their escapes.  A consumer of the content needs the
surrogates of `\u` escapes in pairs; one that passes over the string does not.
-/

namespace ImageFlow.JsonText

open Text (hexValue?)

/-- Whether fewer than four bytes of text are left. -/
def nearEnd (cs : List Char) : Bool :=
  (cs.take 4).foldl (fun n c => n + c.utf8Size) 0 < 4

/-- The four digits of a `\u` escape. -/
def readHex4 (cs : List Char) : Except JsonProblem (Nat × List Char) :=
  if nearEnd cs then .error .ended
  else
    match cs with
    | a :: b :: c :: d :: rest =>
      match hexValue? a, hexValue? b, hexValue? c, hexValue? d with
      | some a, some b, some c, some d => .ok (((a * 16 + b) * 16 + c) * 16 + d, rest)
      | _, _, _, _ => .error .malformed
    | _ => .error .malformed

def expect (wanted : Char) : List Char → Except JsonProblem (List Char)
  | [] => .error .ended
  | c :: rest => if c = wanted then .ok rest else .error .malformed

/-- The character of a `\u` escape: two escapes when the first is a leading surrogate. -/
def readUnicode (cs : List Char) : Except JsonProblem (Char × List Char) := do
  let (unit, rest) ← readHex4 cs
  if 0xDC00 ≤ unit ∧ unit ≤ 0xDFFF then .error .malformed
  else if unit < 0xD800 ∨ 0xDBFF < unit then .ok (Char.ofNat unit, rest)
  else
    let rest ← expect '\\' rest
    let rest ← expect 'u' rest
    let (second, rest) ← readHex4 rest
    if second < 0xDC00 ∨ 0xDFFF < second then .error .malformed
    else .ok (Char.ofNat ((unit - 0xD800) * 0x400 + (second - 0xDC00) + 0x10000), rest)

/-- The character of an escape of two characters. -/
def simpleEscape? : Char → Option Char
  | '"' => some '"'
  | '\\' => some '\\'
  | '/' => some '/'
  | 'b' => some '\x08'
  | 'f' => some '\x0c'
  | 'n' => some '\n'
  | 'r' => some '\r'
  | 't' => some '\t'
  | _ => none

/-- The rest of an escape, after its backslash. -/
def readEscape : List Char → Except JsonProblem (Char × List Char)
  | [] => .error .ended
  | 'u' :: rest => readUnicode rest
  | c :: rest =>
    match simpleEscape? c with
    | some escaped => .ok (escaped, rest)
    | none => .error .malformed

/-- Passes over the rest of an escape. -/
def passEscape : List Char → Except JsonProblem (List Char)
  | [] => .error .ended
  | 'u' :: rest => do
    let (_, rest) ← readHex4 rest
    return rest
  | c :: rest => if (simpleEscape? c).isSome then .ok rest else .error .malformed

/-- The content of a string up to its closing quote; `read` holds the characters before, last
first.  The fuel bounds the number of characters. -/
def readContent : Nat → List Char → List Char → Except JsonProblem (String × List Char)
  | 0, _, _ => .error .ended
  | _ + 1, _, [] => .error .ended
  | fuel + 1, read, c :: rest =>
    if c = '"' then .ok (String.ofList read.reverse, rest)
    else if c = '\\' then
      match readEscape rest with
      | .ok (escaped, rest) => readContent fuel (escaped :: read) rest
      | .error problem => .error problem
    else if c.toNat < 0x20 then .error .malformed
    else readContent fuel (c :: read) rest

/-- The string that begins after an opening quote. -/
def readString (cs : List Char) : Except JsonProblem (String × List Char) :=
  readContent (cs.length + 1) [] cs

def passContent : Nat → List Char → Except JsonProblem (List Char)
  | 0, _ => .error .ended
  | _ + 1, [] => .error .ended
  | fuel + 1, c :: rest =>
    if c = '"' then .ok rest
    else if c = '\\' then
      match passEscape rest with
      | .ok rest => passContent fuel rest
      | .error problem => .error problem
    else if c.toNat < 0x20 then .error .malformed
    else passContent fuel rest

/-- Passes over the string that begins after an opening quote. -/
def passString (cs : List Char) : Except JsonProblem (List Char) :=
  passContent (cs.length + 1) cs

end ImageFlow.JsonText
