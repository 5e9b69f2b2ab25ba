import ImageFlow.Text.Numeral
import ImageFlow.Url.Percent

/-!
# Internet addresses in host names

The numeric forms of a host.  An address of four octets may be written with fewer than four
numbers, each decimal, octal or hexadecimal, of which the last fills all remaining octets.  An
address of eight pieces may leave out one run of zero pieces and may end in four octets.
-/

namespace ImageFlow.Url

open Text

/-- A number of an address: `none` for a text that is no number, `some none` for one that does
not fit 32 bits. -/
def addressNumber? (cs : List Char) : Option (Option Nat) :=
  let read := fun (base : Nat) (digits : List Char) =>
    if digits.all (isDigitIn base) then
      let n := digitsValueIn base digits
      some (if n < UInt32.size then some n else none)
    else none
  match cs with
  | [] => none
  | '0' :: 'x' :: digits => read 16 digits
  | '0' :: 'X' :: digits => read 16 digits
  | '0' :: c :: digits => read 8 (c :: digits)
  | digits => read 10 digits

/-- The parts of a host between its points, without the empty part after a final point. -/
def hostParts (host : List Char) : List (List Char) :=
  let parts := host.splitOn '.'
  if parts.length > 1 ∧ parts.getLast? = some [] then parts.dropLast else parts

/-- Whether the last part of a host is a number, so that the host must be an address. -/
def endsInNumber (host : List Char) : Bool :=
  match (hostParts host).getLast? with
  | none => false
  | some last => (last ≠ [] && last.all Char.isDigit) || (addressNumber? last).isSome

/-- The address that numbers denote: all but the last fit an octet, and the last fills the octets
that are left. -/
def joinNumbers? : List Nat → Nat → Option Nat
  | [], _ => none
  | [last], octets => if last < Nat.pow 256 octets then some last else none
  | n :: rest, octets =>
    if n < 256 then
      (joinNumbers? rest (octets - 1)).map (n * Nat.pow 256 (octets - 1) + ·)
    else none

/-- An address of four octets. -/
def ipv4? (host : List Char) : Option Nat :=
  let parts := hostParts host
  if parts.length > 4 then none
  else do
    let numbers ← parts.mapM fun part => (addressNumber? part).join
    joinNumbers? numbers 4

/-- A piece of an address of eight pieces: one to four hexadecimal digits. -/
def piece? (cs : List Char) : Option Nat :=
  if cs ≠ [] ∧ cs.length ≤ 4 ∧ cs.all (isDigitIn 16) then
    some (digitsValueIn 16 cs)
  else none

/-- One of four octets in decimal, without leading zeros. -/
def octet? (cs : List Char) : Option Nat :=
  match Text.natural? cs with
  | some n => if n < 256 ∧ (cs.head? = some '0' → cs.length = 1) then some n else none
  | none => none

/-- Four octets at the end of an address, as two pieces. -/
def octetPieces? (cs : List Char) : Option (List Nat) := do
  match ← (cs.splitOn '.').mapM octet? with
  | [a, b, c, d] => some [256 * a + b, 256 * c + d]
  | _ => none

/-- Pieces separated by colons; the last may be four octets when `tail` allows it. -/
def pieces? (tail : Bool) : List (List Char) → Option (List Nat)
  | [] => some []
  | [last] =>
    match piece? last with
    | some n => some [n]
    | none => if tail then octetPieces? last else none
  | part :: rest => do
    let n ← piece? part
    let more ← pieces? tail rest
    some (n :: more)

/-- Cuts at the first pair of colons. -/
def cutColons : List Char → Option (List Char × List Char)
  | ':' :: ':' :: rest => some ([], rest)
  | c :: rest => (cutColons rest).map fun (front, back) => (c :: front, back)
  | [] => none

/-- The pieces of a run between colons, none for an empty run. -/
def colonPieces? (tail : Bool) (cs : List Char) : Option (List Nat) :=
  if cs = [] then some [] else pieces? tail (cs.splitOn ':')

/-- An address of eight pieces. -/
def ipv6? (cs : List Char) : Option (List Nat) :=
  match cutColons cs with
  | some (front, back) => do
    let before ← colonPieces? false front
    let after ← colonPieces? true back
    let given := before.length + after.length
    if given ≤ 7 then some (before ++ List.replicate (8 - given) 0 ++ after) else none
  | none => do
    let all ← colonPieces? true cs
    if all.length = 8 then some all else none

end ImageFlow.Url
