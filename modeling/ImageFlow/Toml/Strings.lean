import ImageFlow.Text.Numeral

/-!
# Strings in a TOML text

Strings of one line or several, in which backslashes begin escapes or stand for themselves.  A
string of several lines drops a line break at its start, writes every other one as a line feed,
and may end in up to two quotes of its own.
-/

namespace ImageFlow.TomlText

open Text (hexValue? isDigitIn digitsValueIn)

/-- Blanks within a line. -/
def isSpace (c : Char) : Bool :=
  c = ' ' || c = '\t'

/-- The characters that may stand within a line as themselves: no controls but the tab. -/
def isPlain (c : Char) : Bool :=
  c = '\t' || (0x20 ≤ c.toNat && c.toNat ≠ 0x7F)

/-- The text from its next token on. -/
def dropSpaces (cs : List Char) : List Char :=
  cs.dropWhile isSpace

def lineBreak? : List Char → Option (List Char)
  | '\n' :: rest => some rest
  | '\r' :: '\n' :: rest => some rest
  | _ => none

/-- The text after all blanks and line breaks. -/
def dropBlankLines : List Char → List Char
  | '\r' :: '\n' :: rest => dropBlankLines rest
  | c :: rest => if isSpace c || c = '\n' then dropBlankLines rest else c :: rest
  | [] => []

/-- Whether a backslash begins an escape. -/
inductive StringKind where
  | basic
  | literal
  deriving DecidableEq, Inhabited

def StringKind.quote : StringKind → Char
  | basic => '"'
  | literal => '\''

/-- The character that the next `n` hexadecimal digits number. -/
def readCode (n : Nat) (cs : List Char) : Option (Char × List Char) :=
  let digits := cs.take n
  let code := digitsValueIn 16 digits
  if digits.length = n ∧ digits.all (isDigitIn 16) ∧ code.isValidChar then
    some (Char.ofNat code, cs.drop n)
  else none

/-- The rest of an escape, after its backslash. -/
def readEscape : List Char → Option (Char × List Char)
  | 'b' :: rest => some ('\x08', rest)
  | 't' :: rest => some ('\t', rest)
  | 'n' :: rest => some ('\n', rest)
  | 'f' :: rest => some ('\x0c', rest)
  | 'r' :: rest => some ('\r', rest)
  | '"' :: rest => some ('"', rest)
  | '\\' :: rest => some ('\\', rest)
  | 'u' :: rest => readCode 4 rest
  | 'U' :: rest => readCode 8 rest
  | _ => none

/-- The content of a string of one line up to its closing quote; `before` holds the characters
already read, last first.  The fuel bounds the number of characters. -/
def readLine (kind : StringKind) : Nat → List Char → List Char → Option (String × List Char)
  | 0, _, _ => none
  | _ + 1, _, [] => none
  | fuel + 1, before, c :: rest =>
    if c = kind.quote then some (String.ofList before.reverse, rest)
    else if c = '\\' ∧ kind = .basic then
      match readEscape rest with
      | some (escaped, rest) => readLine kind fuel (escaped :: before) rest
      | none => none
    else if isPlain c then readLine kind fuel (c :: before) rest
    else none

/-- The end of a string of several lines, after its three closing quotes: up to two quotes that
follow them belong to the content. -/
def closeLines (kind : StringKind) (before rest : List Char) : String × List Char :=
  let own := (rest.take 2).takeWhile (· = kind.quote)
  (String.ofList (before.reverse ++ own), rest.drop own.length)

/-- The content of a string of several lines.  A backslash at the end of a line takes all blanks
and line breaks after it away. -/
def readLines (kind : StringKind) : Nat → List Char → List Char → Option (String × List Char)
  | 0, _, _ => none
  | _ + 1, _, [] => none
  | fuel + 1, before, c :: rest =>
    if c = kind.quote ∧ rest.take 2 = [kind.quote, kind.quote] then
      some (closeLines kind before (rest.drop 2))
    else if c = '\\' ∧ kind = .basic then
      match lineBreak? (dropSpaces rest) with
      | some rest => readLines kind fuel before (dropBlankLines rest)
      | none =>
        match readEscape rest with
        | some (escaped, rest) => readLines kind fuel (escaped :: before) rest
        | none => none
    else
      match lineBreak? (c :: rest) with
      | some rest => readLines kind fuel ('\n' :: before) rest
      | none => if isPlain c then readLines kind fuel (c :: before) rest else none

/-- A string of one line, from its opening quote on. -/
def readLineString (kind : StringKind) : List Char → Option (String × List Char)
  | [] => none
  | c :: rest => if c = kind.quote then readLine kind (rest.length + 1) [] rest else none

/-- A string, from its opening quote on. -/
def readString (kind : StringKind) (cs : List Char) : Option (String × List Char) :=
  if cs.take 3 = [kind.quote, kind.quote, kind.quote] then
    let content := cs.drop 3
    readLines kind (cs.length + 1) [] ((lineBreak? content).getD content)
  else readLineString kind cs

end ImageFlow.TomlText
