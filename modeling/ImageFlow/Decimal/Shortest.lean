/-!
# The shortest decimal of a double

A finite double stands for all reals that round to it.  Its shortest decimal is the one with the
fewest digits among those reals, and of those the nearest to the double itself.  All arithmetic
is exact: the double is decoded into `m · 2 ^ q`, and for one digit, two digits and so on the two
neighbours of that value on the decimal grid are tested against the interval.
-/

namespace ImageFlow.Decimal

/-- A positive finite double `m · 2 ^ q`. -/
structure Binary where
  m : Nat
  q : Int

/-- The parts of a double's magnitude: the hidden bit is put back unless the exponent field is
zero. -/
def Binary.ofBits (bits : UInt64) : Binary :=
  let fraction : Nat := bits.toNat % Nat.pow 2 52
  let field : Nat := bits.toNat / Nat.pow 2 52 % Nat.pow 2 11
  if field = 0 then ⟨fraction, -1074⟩ else ⟨fraction + Nat.pow 2 52, (field : Int) - 1075⟩

/-- The reals that round to a double, scaled by a common denominator; the ends belong to the
interval when `closed`. -/
structure Interval where
  low : Nat
  value : Nat
  high : Nat
  denominator : Nat
  closed : Bool

/-- The interval reaches half way to the neighbouring doubles; the one below is only half as far
away at a power of two. -/
def Binary.interval (b : Binary) : Interval :=
  let scale := if 0 ≤ b.q then Nat.pow 2 b.q.natAbs else 1
  let below := if b.m = Nat.pow 2 52 ∧ -1074 < b.q then 1 else 2
  { low := (4 * b.m - below) * scale
    value := 4 * b.m * scale
    high := (4 * b.m + 2) * scale
    denominator := 4 * (if 0 ≤ b.q then 1 else Nat.pow 2 b.q.natAbs)
    closed := b.m % 2 == 0 }

/-- A decimal `digits · 10 ^ exponent`. -/
structure Scientific where
  digits : Nat
  exponent : Int
  deriving DecidableEq

/-- The same decimal with a final zero of its digits, if there is one, moved into the exponent. -/
def Scientific.dropZero (s : Scientific) : Scientific :=
  if s.digits % 10 = 0 then ⟨s.digits / 10, s.exponent + 1⟩ else s

/-- Whether `c / unit`, in the scale of the interval multiplied by `factor`, lies in it. -/
def Interval.holds (i : Interval) (factor unit c : Nat) : Bool :=
  if i.closed then i.low * factor ≤ c * unit && c * unit ≤ i.high * factor
  else i.low * factor < c * unit && c * unit < i.high * factor

/-- The point of the grid `10 ^ exponent` in the interval that is nearest to the value; of two
equally near points the one with an even last digit. -/
def Interval.onGrid? (i : Interval) (exponent : Int) : Option Scientific :=
  let factor := if exponent < 0 then Nat.pow 10 exponent.natAbs else 1
  let unit := i.denominator * (if exponent < 0 then 1 else Nat.pow 10 exponent.natAbs)
  let below := i.value * factor / unit
  let rest := i.value * factor - below * unit
  let nearer := if 2 * rest < unit ∨ (2 * rest = unit ∧ below % 2 = 0) then below else below + 1
  let farther := if nearer = below then below + 1 else below
  if i.holds factor unit nearer then some ⟨nearer, exponent⟩
  else if i.holds factor unit farther then some ⟨farther, exponent⟩
  else none

/-- The least `k`, from `k` on, with `value < 10 ^ k · denominator`. -/
def magnitudeFrom (value denominator : Nat) (k : Int) : Nat → Int
  | 0 => k
  | steps + 1 =>
    let inside :=
      if 0 ≤ k then value < Nat.pow 10 k.natAbs * denominator
      else value * Nat.pow 10 k.natAbs < denominator
    if inside then k else magnitudeFrom value denominator (k + 1) steps

/-- The first grid with a hit, from `n` digits on.  A hit may be the power of ten above the value,
which needs one digit less than its grid allows. -/
def Interval.shortestFrom (i : Interval) (k : Int) (n : Nat) : Nat → Scientific
  | 0 => ⟨0, 0⟩
  | steps + 1 =>
    match i.onGrid? (k - n) with
    | some s => s.dropZero
    | none => i.shortestFrom k (n + 1) steps

/-- The shortest decimal of a positive finite double.  Seventeen digits always suffice, and the
power of ten above a double lies between `10 ^ -323` and `10 ^ 309`. -/
def shortest (bits : UInt64) : Scientific :=
  let i := (Binary.ofBits bits).interval
  let k := magnitudeFrom i.value i.denominator (-324) 640
  i.shortestFrom k 1 18

end ImageFlow.Decimal
