import ImageFlow.Decimal.Shortest
import ImageFlow.Json.Value

/-!
# Writing JSON

Values are written without blanks, strings with the escapes that the grammar demands and no
others, and doubles with the fewest digits that read back.
-/

namespace ImageFlow.JsonText

def escapeChar (c : Char) : List Char :=
  match c with
  | '"' => ['\\', '"']
  | '\\' => ['\\', '\\']
  | '\n' => ['\\', 'n']
  | '\r' => ['\\', 'r']
  | '\t' => ['\\', 't']
  | '\x08' => ['\\', 'b']
  | '\x0c' => ['\\', 'f']
  | c =>
    if c.toNat < 0x20 then
      ['\\', 'u', '0', '0', Nat.digitChar (c.toNat / 16), Nat.digitChar (c.toNat % 16)]
    else [c]

def printString (s : String) : String :=
  String.ofList ('"' :: s.toList.flatMap escapeChar ++ ['"'])

/-- Zeros to fill up a number. -/
def zeros (n : Nat) : List Char :=
  List.replicate n '0'

def printExponent (e : Int) : List Char :=
  (if 0 ≤ e then '+' else '-') :: Nat.toDigits 10 e.natAbs

/-- A positive decimal: positional notation with at least one digit after the point between
`10 ^ -5` and `10 ^ 16`, and an exponent beyond. -/
def printScientific (s : Decimal.Scientific) : List Char :=
  let digits := Nat.toDigits 10 s.digits
  let point : Int := digits.length + s.exponent
  if 0 ≤ s.exponent ∧ point ≤ 16 then digits ++ zeros s.exponent.toNat ++ ['.', '0']
  else if 0 < point ∧ point ≤ 16 then
    digits.take point.toNat ++ '.' :: digits.drop point.toNat
  else if -5 < point ∧ point ≤ 0 then '0' :: '.' :: zeros (-point).toNat ++ digits
  else
    let fraction := if digits.length = 1 then [] else '.' :: digits.drop 1
    digits.take 1 ++ fraction ++ 'e' :: printExponent (point - 1)

def printDouble (bits : UInt64) : String :=
  let magnitude := bits &&& 0x7fffffffffffffff
  let sign := if bits = magnitude then [] else ['-']
  let digits :=
    if magnitude = 0 then ['0', '.', '0'] else printScientific (Decimal.shortest magnitude)
  String.ofList (sign ++ digits)

def printNumber : Number → String
  | .integer n => toString n
  | .double bits => printDouble bits

mutual

def print : Json → String
  | .null => "null"
  | .bool true => "true"
  | .bool false => "false"
  | .number n => printNumber n
  | .text s => printString s
  | .array items => "[" ++ printItems items ++ "]"
  | .object members => "\x7b" ++ printMembers members ++ "\x7d"

def printItems : List Json → String
  | [] => ""
  | [item] => print item
  | item :: rest => print item ++ "," ++ printItems rest

def printMembers : List (String × Json) → String
  | [] => ""
  | [(key, value)] => printString key ++ ":" ++ print value
  | (key, value) :: rest => printString key ++ ":" ++ print value ++ "," ++ printMembers rest

end

end ImageFlow.JsonText
