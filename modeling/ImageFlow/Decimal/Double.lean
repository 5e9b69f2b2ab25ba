/-!
# Decimals as doubles

A decimal significand with a power of ten, read as an IEEE double.  The significand is taken as
a double first and then multiplied or divided once by a power of ten, in steps of at most
`10 ^ 308`, so the result is the correctly rounded one whenever the significand is below
`2 ^ 53` and the power at most `10 ^ 22`.  A value beyond the largest finite double has no
reading.
-/

namespace ImageFlow.Decimal

/-- The largest power of ten that one step multiplies or divides by. -/
def maxStep : Nat := 308

/-- The double nearest to a power of ten. -/
def powerOfTen (n : Nat) : Float :=
  Float.ofScientific 1 false n

/-- Divides by a power of ten; a value that has reached zero stays there. -/
def divideByPower (value : Float) (n : Nat) : Float :=
  if n ≤ maxStep then value / powerOfTen n
  else if value == 0 then value
  else divideByPower (value / powerOfTen maxStep) (n - maxStep)
termination_by n
decreasing_by simp only [maxStep] at *; omega

/-- Multiplies by a power of ten, unless the result is no longer finite. -/
def multiplyByPower? (value : Float) (n : Nat) : Option Float :=
  if n ≤ maxStep then
    let product := value * powerOfTen n
    if product.isInf then none else some product
  else if value == 0 then some value
  else none

/-- The double for a significand below `2 ^ 64` times a power of ten. -/
def double? (significand : Nat) (exponent : Int) : Option Float :=
  let value := (UInt64.ofNat significand).toFloat
  if exponent < 0 then some (divideByPower value exponent.natAbs)
  else multiplyByPower? value exponent.natAbs

end ImageFlow.Decimal
