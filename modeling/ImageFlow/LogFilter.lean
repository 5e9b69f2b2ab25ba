import ImageFlow.Pattern.Basic
import ImageFlow.Text.Octets

/-!
# Log filters

Which texts select log events.  A filter is a list of directives: a level, a target, a span with
fields, or a combination of them.  `goesOn` says what a directive looks like, one character after
another, by how far it has been read.  Blanks around a directive are passed over, but levels and
fields are looked up by their places in the text that still has its blanks.
-/

namespace ImageFlow.LogFilter

open Text

inductive Progress where
  /-- Nothing is read. -/
  | start
  /-- A level or a target. -/
  | word
  /-- The name of a span. -/
  | span
  /-- A field of a span that starts at this place. -/
  | field (start : Nat)
  /-- After the fields of a span. -/
  | fields
  /-- After a span. -/
  | target
  deriving DecidableEq, Inhabited

/-- Whether a character may begin a target. -/
def beginsWord (c : Char) : Bool :=
  c = '-' || c = ':' || c = '_' || c.isAlphanum || inRanges LetterTable.letterOrDigitRanges c

def levelNames : List String :=
  ["error", "warn", "info", "debug", "trace", "off"]

def mostVerbose : Nat := 5

/-- Whether a text is a level: a name in any case, or a number. -/
def isLevel (cs : List Char) : Bool :=
  let digits := if cs.head? = some '+' then cs.tail else cs
  (natural? digits).any (· ≤ mostVerbose)
    || levelNames.contains (String.ofList (cs.map Char.toLower))

/-- Whether a text is a level, or empty, which stands for the most verbose one. -/
def isLevelOrEmpty (cs : List Char) : Bool :=
  cs.isEmpty || isLevel cs

/-- Whether a field can be selected: it has a name alone, or with a value that is a number or a
pattern.  What follows a second equals sign does not count. -/
def isField (cs : List Char) : Bool :=
  match cutFirst '=' cs with
  | none => true
  | some (_, rest) =>
    let value := beforeFirst '=' rest
    isReal value || Pattern.isPattern value

/-- Whether the rest of a directive goes on well after what has been read up to `place`, which
counts octets.  `text` is the directive with its blanks. -/
def goesOn (text : List Char) (place : Nat) : Progress → List Char → Bool
  | progress, [] => progress = .word || progress = .target
  | progress, c :: rest =>
    let goOn := fun next => goesOn text (place + c.utf8Size) next rest
    match progress with
    | .start => if c = '[' then goOn .span else beginsWord c && goOn .word
    | .word =>
      if c = '=' then isLevelOrEmpty (fromOctet (place + 1) text)
      else goOn (if c = '[' then .span else .word)
    | .span =>
      if c = ']' then goOn .target
      else goOn (if c = '\x7b' then .field (place + 1) else .span)
    | .field start =>
      if c = '\x7d' then
        start < place && isField (upToOctet (place - start) (fromOctet start text)) && goOn .fields
      else goOn (.field start)
    | .fields => c = ']' && goOn .target
    | .target => c = '=' && isLevelOrEmpty (fromOctet (place + 1) text)

def isDirective (cs : List Char) : Bool :=
  goesOn cs 0 .start (trimChars cs)

/-- Whether a text is a filter: directives between commas, of which empty ones do not count. -/
def isValid (text : String) : Bool :=
  (text.toList.splitOn ',').all fun directive => directive.isEmpty || isDirective directive

end ImageFlow.LogFilter
