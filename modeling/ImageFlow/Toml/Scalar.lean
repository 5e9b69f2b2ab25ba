import ImageFlow.Toml.Basic
import ImageFlow.Toml.Strings

/-!
# Scalars in a TOML text

Integers of 64 bits in four bases, other numbers, moments, truth values and strings.  Digits may
be set apart by single underscores.  A positive number beyond the doubles is refused.
-/

namespace ImageFlow.TomlText

open Text (digitsValue digitsValueIn isDigitIn fitsInt64)

def skip (wanted : Char) : List Char → Option (List Char)
  | [] => none
  | c :: rest => if c = wanted then some rest else none

def skipWord : List Char → List Char → Option (List Char)
  | [], rest => some rest
  | c :: word, rest => (skip c rest).bind (skipWord word)

/-- The digits that go on a number; an underscore must stand between two digits. -/
def readMore (base : Nat) : List Char → Option (List Char × List Char)
  | [] => some ([], [])
  | '_' :: c :: rest =>
    if isDigitIn base c then (readMore base rest).map fun (cs, rest) => (c :: cs, rest) else none
  | c :: rest =>
    if c = '_' then none
    else if isDigitIn base c then (readMore base rest).map fun (cs, rest) => (c :: cs, rest)
    else some ([], c :: rest)

/-- One or more digits. -/
def readDigits (base : Nat) : List Char → Option (List Char × List Char)
  | [] => none
  | c :: rest =>
    if isDigitIn base c then (readMore base rest).map fun (cs, rest) => (c :: cs, rest) else none

/-- The digits before a point: a zero stands alone. -/
def readWhole : List Char → Option (List Char × List Char)
  | '0' :: rest => some (['0'], rest)
  | cs => readDigits 10 cs

/-- Whether a minus sign stands here, and the text after a sign. -/
def takeSign : List Char → Bool × List Char
  | '-' :: rest => (true, rest)
  | '+' :: rest => (false, rest)
  | rest => (false, rest)

/-- An integer that fits 64 bits. -/
def integerOf (negative : Bool) (magnitude : Nat) (rest : List Char) :
    Option (Toml × List Char) :=
  let n : Int := if negative then -magnitude else magnitude
  if fitsInt64 n then some (.integer n, rest) else none

/-- An integer in a base other than ten, after its mark. -/
def readBased (base : Nat) (cs : List Char) : Option (Toml × List Char) := do
  let (digits, rest) ← readDigits base cs
  integerOf false (digitsValueIn base digits) rest

/-- An integer; only a decimal one has a sign. -/
def readInteger : List Char → Option (Toml × List Char)
  | '0' :: 'x' :: rest => readBased 16 rest
  | '0' :: 'o' :: rest => readBased 8 rest
  | '0' :: 'b' :: rest => readBased 2 rest
  | cs => do
    let (negative, rest) := takeSign cs
    let (digits, rest) ← readWhole rest
    integerOf negative (digitsValue digits) rest

/-- The point and the digits after it, if there is a point. -/
def readFraction : List Char → Option (Option (List Char) × List Char)
  | '.' :: rest => (readDigits 10 rest).map fun (digits, rest) => (some digits, rest)
  | rest => some (none, rest)

/-- The exponent, if there is one. -/
def readExponent : List Char → Option (Option Int × List Char)
  | 'e' :: rest | 'E' :: rest => do
    let (negative, rest) := takeSign rest
    let (digits, rest) ← readDigits 10 rest
    let n := digitsValue digits
    return (some (if negative then -n else n), rest)
  | rest => some (none, rest)

/-- Half a unit above the largest double: from here on a number reads as infinite. -/
def infiniteFrom : Nat := (Nat.pow 2 54 - 1) * Nat.pow 2 970

/-- Whether digits times a power of ten lie beyond the doubles.  Below `10 ^ 308` nothing does and
from `10 ^ 309` on everything, so the exact comparison stays small. -/
def isInfinite (digits : List Char) (exponent : Int) : Bool :=
  let digits := digits.dropWhile (· = '0')
  let top : Int := digits.length + exponent
  if digits.isEmpty ∨ top < 309 then false
  else if 309 < top then true
  else
    digitsValue digits * Nat.pow 10 exponent.toNat
      ≥ infiniteFrom * Nat.pow 10 (-exponent).toNat

/-- The characters that were read, when `rest` is what is left of `cs`. -/
def written (cs rest : List Char) : String :=
  String.ofList (cs.take (cs.length - rest.length))

/-- A number with a fraction, an exponent or both, or one that is infinite or undefined. -/
def readDecimal (cs : List Char) : Option (Toml × List Char) :=
  let (negative, unsigned) := takeSign cs
  let named := skipWord ['i', 'n', 'f'] unsigned <|> skipWord ['n', 'a', 'n'] unsigned
  match named with
  | some rest => some (.decimal (written cs rest), rest)
  | none => do
    let (whole, rest) ← readWhole unsigned
    let (fraction, rest) ← readFraction rest
    let (exponent, rest) ← readExponent rest
    let after := fraction.getD []
    if fraction.isNone ∧ exponent.isNone then none
    else if !negative ∧ isInfinite (whole ++ after) (exponent.getD 0 - after.length) then none
    else some (.decimal (written cs rest), rest)

/-- A number of exactly `n` digits within bounds. -/
def readCount (n least most : Nat) (cs : List Char) : Option (Nat × List Char) :=
  let digits := cs.take n
  let count := digitsValue digits
  if digits.length = n ∧ digits.all Char.isDigit ∧ least ≤ count ∧ count ≤ most then
    some (count, cs.drop n)
  else none

def isLeapYear (year : Nat) : Bool :=
  year % 4 = 0 && (year % 100 ≠ 0 || year % 400 = 0)

def daysInMonth (year month : Nat) : Nat :=
  if month = 2 then (if isLeapYear year then 29 else 28)
  else if month = 4 ∨ month = 6 ∨ month = 9 ∨ month = 11 then 30
  else 31

/-- The text after a date. -/
def skipDate (cs : List Char) : Option (List Char) := do
  let (year, rest) ← readCount 4 0 9999 cs
  let rest ← skip '-' rest
  let (month, rest) ← readCount 2 1 12 rest
  let rest ← skip '-' rest
  let (_, rest) ← readCount 2 1 (daysInMonth year month) rest
  return rest

def skipHourMinute (cs : List Char) : Option (List Char) := do
  let (_, rest) ← readCount 2 0 23 cs
  let rest ← skip ':' rest
  let (_, rest) ← readCount 2 0 59 rest
  return rest

/-- The text after a time of day, whose seconds may have a fraction. -/
def skipTime (cs : List Char) : Option (List Char) := do
  let rest ← skipHourMinute cs
  let rest ← skip ':' rest
  let (_, rest) ← readCount 2 0 60 rest
  match rest with
  | '.' :: c :: after => return if c.isDigit then after.dropWhile Char.isDigit else rest
  | _ => return rest

/-- The text after an offset from universal time, if there is one. -/
def skipOffset : List Char → Option (List Char)
  | 'Z' :: rest | 'z' :: rest => some rest
  | '+' :: rest | '-' :: rest => skipHourMinute rest
  | rest => some rest

/-- The text after what a date may be followed by: a time of day with or without an offset. -/
def skipTimeOfDate (cs : List Char) : Option (List Char) :=
  match cs with
  | c :: rest =>
    if c = 'T' ∨ c = 't' ∨ c = ' ' then
      match skipTime rest with
      | some rest => skipOffset rest
      | none => some cs
    else some cs
  | [] => some []

/-- A date, a time of day, or both. -/
def readMoment (cs : List Char) : Option (Toml × List Char) := do
  let rest ← ((skipDate cs).bind skipTimeOfDate) <|> skipTime cs
  return (.moment (written cs rest), rest)

/-- A value that holds no other values. -/
def readScalar (cs : List Char) : Option (Toml × List Char) :=
  match cs with
  | [] => none
  | c :: _ =>
    if c = '"' then (readString .basic cs).map fun (s, rest) => (.text s, rest)
    else if c = '\'' then (readString .literal cs).map fun (s, rest) => (.text s, rest)
    else if c = 't' then (skipWord ['t', 'r', 'u', 'e'] cs).map (.boolean true, ·)
    else if c = 'f' then (skipWord ['f', 'a', 'l', 's', 'e'] cs).map (.boolean false, ·)
    else readMoment cs <|> readDecimal cs <|> readInteger cs

end ImageFlow.TomlText
