import ImageFlow.Decimal.Double
import ImageFlow.Json.Document
import ImageFlow.Text.Numeral

/-!
# Numbers in a JSON text

The grammar of numbers and the values they denote.  A number without fraction and exponent that
fits 64 bits is an integer; every other one is a double, `-0` among them, and one beyond the
doubles is refused.  Digits that would carry the significand past 64 bits are dropped.
-/

namespace ImageFlow.JsonText

open Text

/-- The written parts of a number. -/
structure Numeral where
  negative : Bool
  whole : List Char
  fraction : List Char
  exponent : Option Int

/-- A significand and a power of ten under construction; `full` once a digit did not fit. -/
structure Significand where
  value : Nat
  exponent : Int
  full : Bool

/-- Takes in a digit before the point: one that does not fit, and all after it, only count. -/
def Significand.pushWhole (s : Significand) (digit : Char) : Significand :=
  let next := 10 * s.value + digitValue digit
  if s.full ∨ UInt64.size ≤ next then { s with exponent := s.exponent + 1, full := true }
  else { s with value := next }

/-- Takes in a digit after the point: one that does not fit, and all after it, are dropped. -/
def Significand.pushFraction (s : Significand) (digit : Char) : Significand :=
  let next := 10 * s.value + digitValue digit
  if s.full ∨ UInt64.size ≤ next then { s with full := true }
  else { s with value := next, exponent := s.exponent - 1 }

/-- The significand of a number, its written exponent included. -/
def Numeral.significand (n : Numeral) : Significand :=
  let whole := n.whole.foldl Significand.pushWhole ⟨0, 0, false⟩
  let all := n.fraction.foldl Significand.pushFraction { whole with full := false }
  { all with exponent := all.exponent + n.exponent.getD 0 }

/-- The double that a number denotes, unless it lies beyond the finite ones. -/
def Numeral.double? (n : Numeral) : Option Number :=
  let s := n.significand
  (Decimal.double? s.value s.exponent).map fun magnitude =>
    .double (if n.negative then -magnitude else magnitude).toBits

def Numeral.value? (n : Numeral) : Option Number :=
  let magnitude := digitsValue n.whole
  if n.fraction = [] ∧ n.exponent = none then
    if !n.negative ∧ magnitude < UInt64.size then some (.integer magnitude)
    else if n.negative ∧ 0 < magnitude ∧ magnitude ≤ UInt64.size / 2 then
      some (.integer (-magnitude))
    else n.double?
  else n.double?

/-- The problem of a place where a digit should stand. -/
def missingDigit : List Char → JsonProblem
  | [] => .ended
  | _ => .malformed

/-- One or more digits. -/
def readDigits (cs : List Char) : Except JsonProblem (List Char × List Char) :=
  match cs.span Char.isDigit with
  | ([], rest) => .error (missingDigit rest)
  | (digits, rest) => .ok (digits, rest)

/-- The digits before the point: a zero stands alone. -/
def readWhole (cs : List Char) : Except JsonProblem (List Char × List Char) := do
  let (digits, rest) ← readDigits cs
  match digits with
  | '0' :: _ :: _ => .error .malformed
  | _ => .ok (digits, rest)

/-- The point and the digits after it, if there is a point. -/
def readFraction : List Char → Except JsonProblem (List Char × List Char)
  | '.' :: rest => readDigits rest
  | rest => .ok ([], rest)

/-- The digits of an exponent, with their sign. -/
def readSigned : List Char → Except JsonProblem (Int × List Char)
  | '-' :: rest => do
    let (digits, rest) ← readDigits rest
    return (-(digitsValue digits), rest)
  | '+' :: rest => do
    let (digits, rest) ← readDigits rest
    return (digitsValue digits, rest)
  | rest => do
    let (digits, rest) ← readDigits rest
    return (digitsValue digits, rest)

/-- The exponent, if there is one. -/
def readExponent : List Char → Except JsonProblem (Option Int × List Char)
  | 'e' :: rest | 'E' :: rest => do
    let (exponent, rest) ← readSigned rest
    return (some exponent, rest)
  | rest => .ok (none, rest)

/-- A number from its first digit on. -/
def readUnsigned (negative : Bool) (cs : List Char) :
    Except JsonProblem (Numeral × List Char) := do
  let (whole, rest) ← readWhole cs
  let (fraction, rest) ← readFraction rest
  let (exponent, rest) ← readExponent rest
  return (⟨negative, whole, fraction, exponent⟩, rest)

def readNumeral : List Char → Except JsonProblem (Numeral × List Char)
  | '-' :: rest => readUnsigned true rest
  | rest => readUnsigned false rest

def readNumber (cs : List Char) : Except JsonProblem (Number × List Char) := do
  let (numeral, rest) ← readNumeral cs
  match numeral.value? with
  | some value => .ok (value, rest)
  | none => .error .malformed

/-- Passes over a number; one that breaks off is malformed, wherever it breaks off. -/
def passNumber (cs : List Char) : Except JsonProblem (List Char) :=
  match readNumeral cs with
  | .ok (_, rest) => .ok rest
  | .error _ => .error .malformed

end ImageFlow.JsonText
