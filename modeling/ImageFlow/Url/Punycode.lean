import ImageFlow.Text.Cut

/-!
# Punycode

The ASCII form of a label with other characters: the ASCII characters first, then, after the last
dash, one number for each other character that says which it is and where it stands.
-/

namespace ImageFlow.Url.Punycode

/-- The number of digits. -/
def base : Nat := 36

/-- The value of a digit: the letters first, then the figures. -/
def digit? (c : Char) : Option Nat :=
  if 'a' ≤ c ∧ c ≤ 'z' then some (c.toNat - 'a'.toNat)
  else if 'A' ≤ c ∧ c ≤ 'Z' then some (c.toNat - 'A'.toNat)
  else if c.isDigit then some (c.toNat - '0'.toNat + 26)
  else none

/-- How many times a difference can be divided before it is small, and what is left of it. -/
def scale (delta k : Nat) : Nat :=
  if delta ≤ 455 then k + 36 * delta / (delta + 38) else scale (delta / 35) (k + base)
termination_by delta
decreasing_by omega

/-- The bias after a number that differs by `delta` from the one before, with `count` characters
so far. -/
def adapt (delta count : Nat) (atStart : Bool) : Nat :=
  let delta := if atStart then delta / 700 else delta / 2
  scale (delta + delta / count) 0

/-- Reads one number of variable length; the weight of its digits grows with each of them. -/
def number? (bias k weight sum : Nat) : List Char → Option (Nat × List Char)
  | [] => none
  | c :: rest => do
    let d ← digit? c
    let sum := sum + d * weight
    if sum ≥ UInt32.size then none
    else
      let threshold := if k ≤ bias then 1 else if k ≥ bias + 26 then 26 else k - bias
      if d < threshold then some (sum, rest)
      else if weight * (base - threshold) ≥ UInt32.size then none
      else number? bias (k + base) (weight * (base - threshold)) sum rest

/-- Reads the numbers into the characters read so far: each number advances a count of places
that runs through all places for one code point after the other. -/
def insertAll? : Nat → Nat → Nat → Nat → List Nat → List Char → Option (List Nat)
  | 0, _, _, _, _, _ => none
  | _ + 1, _, _, _, read, [] => some read
  | fuel + 1, code, place, bias, read, cs => do
    let (sum, rest) ← number? bias base 1 place cs
    let count := read.length + 1
    let next := code + sum / count
    let spot := sum % count
    if next > 0x10FFFF ∨ (0xD800 ≤ next ∧ next ≤ 0xDFFF) then none
    else
      insertAll? fuel next (spot + 1) (adapt (sum - place) count (place == 0))
        (read.take spot ++ next :: read.drop spot) rest

/-- The code points of a label in its ASCII form.  A dash with nothing before it is no digit. -/
def decode? (cs : List Char) : Option (List Nat) :=
  match Text.cutLast '-' cs with
  | none => insertAll? (cs.length + 1) 128 0 72 [] cs
  | some (plain, numbers) =>
    if plain = [] ∨ plain.any (128 ≤ ·.toNat) then none
    else insertAll? (numbers.length + 1) 128 0 72 (plain.map Char.toNat) numbers

end ImageFlow.Url.Punycode
