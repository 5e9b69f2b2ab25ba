import ImageFlow.Text.Blank
import ImageFlow.Text.Numeral

/-!
# Elements of a pattern

Patterns say which texts a field of an event may have.  Their smallest parts stand for one
character, for one of a class of characters, or for a condition on a place in the text.  A pattern
is run over the octets of a text without a view of what lies around a place: it may only match
whole characters, and it can tell the edges of words of ASCII characters only.  Patterns come
without closing braces here, so nothing that is written in braces is part of them.
-/

namespace ImageFlow.Pattern

open Text

structure Mode where
  /-- Blanks and comments do not count. -/
  verbose : Bool := false
  /-- Classes and words are those of all characters, and not of ASCII alone. -/
  unicode : Bool := true
  deriving DecidableEq, Inhabited

inductive Element where
  /-- A character, which may be written as the number of one octet. -/
  | character (c : Char) (octet : Bool)
  | anyCharacter
  /-- The start or the end of a line or of the text. -/
  | lineEdge
  /-- The start or the end of a word, or a place inside or outside of words. -/
  | wordEdge
  /-- The digits, the blanks or the characters of words, or all characters but them. -/
  | shorthand (negated : Bool)
  /-- A general category of characters, or all characters but them. -/
  | category
  deriving DecidableEq, Inhabited

/-- Whether an element can be used by itself. -/
def Element.isUsable (unicode : Bool) : Element → Bool
  | character c octet => unicode || !octet || c.toNat < 128
  | anyCharacter => unicode
  | lineEdge => true
  | wordEdge => !unicode
  | shorthand negated => unicode || !negated
  | category => unicode

/-- Whether an element can be used in a class. -/
def Element.isUsableInClass (unicode : Bool) : Element → Bool
  | character c _ => unicode || c.toNat < 128
  | shorthand negated => unicode || !negated
  | category => unicode
  | anyCharacter | lineEdge | wordEdge => false

/-- Passes over blanks and comments; a comment runs from a number sign to the end of its line. -/
def skipComment (inComment : Bool) : List Char → List Char
  | [] => []
  | c :: rest =>
    if inComment then skipComment (c ≠ '\n') rest
    else if isBlank c then skipComment false rest
    else if c = '#' then skipComment true rest
    else c :: rest

/-- Passes over what does not count. -/
def skip (mode : Mode) (cs : List Char) : List Char :=
  if mode.verbose then skipComment false cs else cs

/-! ## Escapes -/

/-- What a backslash makes of a letter, and of the two signs for the edges of words. -/
def namedEscapes : List (Char × Element) :=
  [ ('a', .character '\x07' false), ('f', .character '\x0c' false), ('n', .character '\n' false)
  , ('r', .character '\r' false), ('t', .character '\t' false), ('v', .character '\x0b' false)
  , ('A', .lineEdge), ('z', .lineEdge)
  , ('b', .wordEdge), ('B', .wordEdge), ('<', .wordEdge), ('>', .wordEdge)
  , ('d', .shorthand false), ('s', .shorthand false), ('w', .shorthand false)
  , ('D', .shorthand true), ('S', .shorthand true), ('W', .shorthand true) ]

/-- The letters that begin the number of a character, with the count of its digits. -/
def numberLengths : List (Char × Nat) :=
  [('x', 2), ('u', 4), ('U', 8)]

def categoryLetters : List Char :=
  ['c', 'l', 'm', 'n', 'p', 's', 'z']

def readHex (mode : Mode) : Nat → Nat → List Char → Option (Nat × List Char)
  | 0, value, cs => some (value, cs)
  | count + 1, value, cs =>
    match skip mode cs with
    | [] => none
    | c :: rest =>
      match hexValue? c with
      | some digit => readHex mode count (16 * value + digit) rest
      | none => none

/-- Reads the number of a character, of so many digits. -/
def readNumber (mode : Mode) (length : Nat) (cs : List Char) : Option (Element × List Char) := do
  let (value, rest) ← readHex mode length 0 cs
  if value.isValidChar then some (.character (Char.ofNat value) (length == 2), rest) else none

/-- Reads the letter of a general category, in either case. -/
def readCategory (mode : Mode) (cs : List Char) : Option (Element × List Char) :=
  match skip mode cs with
  | [] => none
  | c :: rest => if categoryLetters.contains c.toLower then some (.category, rest) else none

/-- Reads what follows a backslash.  Every ASCII character but a letter or a digit may stand for
itself there. -/
def readEscape (mode : Mode) : List Char → Option (Element × List Char)
  | [] => none
  | c :: rest =>
    match namedEscapes.lookup c, numberLengths.lookup c with
    | some element, _ => some (element, rest)
    | none, some length => readNumber mode length rest
    | none, none =>
      if c = 'p' ∨ c = 'P' then readCategory mode rest
      else if c.toNat < 128 ∧ !c.isAlphanum then some (.character c false, rest)
      else none

end ImageFlow.Pattern
