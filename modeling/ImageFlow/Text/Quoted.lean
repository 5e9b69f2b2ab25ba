import ImageFlow.Text.Mark
import ImageFlow.Text.PrintTable

/-!
# Quoted texts

The form in which a text, or a list of texts, appears inside a message: in double quotes, with
the quote, the backslash and every character that has no visible form of its own escaped.
-/

namespace ImageFlow.Text

/-- The hexadecimal digits of a number, lower case, without leading zeros. -/
def hexDigits (n : Nat) : List Char :=
  Nat.toDigits 16 n

/-- Whether a character shows as itself inside quotes. -/
def isVisible (c : Char) : Bool :=
  !inRanges PrintTable.hiddenRanges c && !isNonspacing c
    && !inRanges PrintTable.attachedRanges c

/-- One character as it appears between the quotes. -/
def quoteChar (c : Char) : List Char :=
  match c with
  | '"' => ['\\', '"']
  | '\\' => ['\\', '\\']
  | '\n' => ['\\', 'n']
  | '\r' => ['\\', 'r']
  | '\t' => ['\\', 't']
  | '\x00' => ['\\', '0']
  | c => if isVisible c then [c] else ['\\', 'u', '\x7b'] ++ hexDigits c.toNat ++ ['\x7d']

def quoted (s : String) : String :=
  String.ofList ('"' :: s.toList.flatMap quoteChar ++ ['"'])

/-- A list of texts in brackets, each in double quotes. -/
def quotedList (texts : List String) : String :=
  "[" ++ String.intercalate ", " (texts.map quoted) ++ "]"

end ImageFlow.Text
