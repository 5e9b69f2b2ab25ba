/-!
# Numerals

The decimal numerals of 64-bit integers, an optional sign and one or more ASCII digits, those of
real numbers, and the values of digits in other bases.
-/

namespace ImageFlow.Text

def digitValue (c : Char) : Nat :=
  c.toNat - '0'.toNat

/-- The number that a list of digits denotes, most significant first. -/
def digitsValue (cs : List Char) : Nat :=
  cs.foldl (fun n c => 10 * n + digitValue c) 0

def hexValue? (c : Char) : Option Nat :=
  if c.isDigit then some (c.toNat - '0'.toNat)
  else if 'a' ≤ c ∧ c ≤ 'f' then some (c.toNat - 'a'.toNat + 10)
  else if 'A' ≤ c ∧ c ≤ 'F' then some (c.toNat - 'A'.toNat + 10)
  else none

/-- Whether a character is a digit in a base of at most sixteen. -/
def isDigitIn (base : Nat) (c : Char) : Bool :=
  (hexValue? c).any (· < base)

/-- The number that a list of digits denotes in a base of at most sixteen. -/
def digitsValueIn (base : Nat) (cs : List Char) : Nat :=
  cs.foldl (fun n c => base * n + (hexValue? c).getD 0) 0

/-- One or more ASCII digits, and nothing else. -/
def natural? (cs : List Char) : Option Nat :=
  if cs ≠ [] ∧ cs.all Char.isDigit then some (digitsValue cs) else none

/-- An integer with an optional sign. -/
def integer? : List Char → Option Int
  | '-' :: cs => (natural? cs).map fun n => -(n : Int)
  | '+' :: cs => (natural? cs).map fun n => (n : Int)
  | cs => (natural? cs).map fun n => (n : Int)

/-- Whether an integer has 64-bit two's complement form. -/
def fitsInt64 (n : Int) : Bool :=
  -9223372036854775808 ≤ n && n < 9223372036854775808

/-- An integer with an optional sign that fits 64 bits. -/
def int64? (s : String) : Option Int :=
  (integer? s.toList).filter fitsInt64

def withoutSign : List Char → List Char
  | '+' :: cs => cs
  | '-' :: cs => cs
  | cs => cs

/-- Whether a text is empty or an exponent: its letter, an optional sign and digits. -/
def isExponentOrEmpty : List Char → Bool
  | [] => true
  | c :: cs => (c = 'e' || c = 'E') && (natural? (withoutSign cs)).isSome

/-- Whether a text is a number with an optional sign, fraction and exponent, or the name of an
infinite or of no number. -/
def isReal (cs : List Char) : Bool :=
  let cs := withoutSign cs
  let whole := cs.takeWhile Char.isDigit
  let (fraction, rest) := match cs.dropWhile Char.isDigit with
    | '.' :: rest => (rest.takeWhile Char.isDigit, rest.dropWhile Char.isDigit)
    | rest => ([], rest)
  ["inf", "infinity", "nan"].contains (String.ofList (cs.map Char.toLower))
    || (!(whole ++ fraction).isEmpty && isExponentOrEmpty rest)

end ImageFlow.Text
