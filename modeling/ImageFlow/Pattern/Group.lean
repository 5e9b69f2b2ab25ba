import ImageFlow.Pattern.Element
import ImageFlow.Text.LetterTable
import ImageFlow.Text.Ranges

/-!
# Groups of a pattern

What stands between the opening parenthesis of a group and its first part: settings, or a name.
Settings without a group hold for the rest of the group that they stand in.
-/

namespace ImageFlow.Pattern

open Text

def settingLetters : List Char :=
  ['i', 'm', 's', 'U', 'u', 'R', 'x']

/-- The mode after a setting is turned on or off. -/
def Mode.set (mode : Mode) (letter : Char) (on : Bool) : Mode :=
  if letter = 'x' then { mode with verbose := on }
  else if letter = 'u' then { mode with unicode := on }
  else mode

/-- Settings that have been read up to their colon or closing parenthesis. -/
structure Settings where
  mode : Mode
  /-- Whether there are none. -/
  isEmpty : Bool
  /-- Whether a group follows. -/
  opensGroup : Bool
  rest : List Char

/-- Reads settings: each at most once, and those after a dash, of which there is one at most, are
turned off.  `seen` lists what has been read, last first. -/
def readSettings (mode : Mode) (seen : List Char) : List Char → Option Settings
  | [] => none
  | c :: rest =>
    if c = ':' ∨ c = ')' then
      if seen.head? = some '-' then none else some ⟨mode, seen.isEmpty, c = ':', rest⟩
    else if seen.contains c then none
    else if c = '-' then readSettings mode (c :: seen) rest
    else if settingLetters.contains c then
      readSettings (mode.set c (!seen.contains '-')) (c :: seen) rest
    else none

def isLetter (c : Char) : Bool :=
  c.isAlpha
    || inRanges LetterTable.letterOrDigitRanges c && !inRanges LetterTable.digitRanges c

/-- Whether a character may begin the name of a group. -/
def beginsName (c : Char) : Bool :=
  c = '_' || isLetter c

/-- Whether a character may go on in the name of a group. -/
def goesOnInName (c : Char) : Bool :=
  ['_', '.', '[', ']'].contains c || c.isAlphanum || inRanges LetterTable.letterOrDigitRanges c

/-- Reads the name of a group and the angle bracket that closes it. -/
def readName (cs : List Char) : Option (List Char × List Char) :=
  match cs.takeWhile (· ≠ '>'), cs.dropWhile (· ≠ '>') with
  | first :: others, _ :: rest =>
    if beginsName first && others.all goesOnInName then some (first :: others, rest) else none
  | _, _ => none

/-- What an opening parenthesis begins. -/
inductive Opening where
  /-- Settings for what follows. -/
  | settings (mode : Mode) (rest : List Char)
  /-- A group, with its name if it has one. -/
  | group (mode : Mode) (name : Option (List Char)) (rest : List Char)

/-- A group with the name that is read next. -/
def openNamed (mode : Mode) (cs : List Char) : Option Opening :=
  (readName cs).map fun (name, rest) => .group mode (some name) rest

/-- Reads what follows an opening parenthesis.  Groups that look ahead or back are none. -/
def readOpening (mode : Mode) (cs : List Char) : Option Opening :=
  match skip mode cs with
  | '?' :: 'P' :: '<' :: rest => openNamed mode rest
  | '?' :: '<' :: '=' :: _ => none
  | '?' :: '<' :: '!' :: _ => none
  | '?' :: '<' :: rest => openNamed mode rest
  | '?' :: rest =>
    match readSettings mode [] rest with
    | none => none
    | some found =>
      if found.opensGroup then some (.group found.mode none found.rest)
      else if found.isEmpty then none
      else some (.settings found.mode found.rest)
  | rest => some (.group mode none rest)

end ImageFlow.Pattern
