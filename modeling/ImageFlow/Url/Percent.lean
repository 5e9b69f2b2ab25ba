import ImageFlow.Text.Numeral

/-!
# Percent-encoding

Octets of the UTF-8 form of a text, written as a percent sign and two hexadecimal digits where a
character may not stand for itself, and read back.
-/

namespace ImageFlow.Url

open Text (hexValue?)

/-- The octets of a character. -/
def utf8 (c : Char) : List UInt8 :=
  (String.singleton c).toUTF8.toList

/-- An octet as a percent sign and two upper-case digits. -/
def percentOctet (b : UInt8) : List Char :=
  let digit := fun (n : Nat) => (Nat.digitChar n).toUpper
  ['%', digit (b.toNat / 16), digit (b.toNat % 16)]

/-- The characters with each one that is not `kept` written by its octets. -/
def percentEncode (kept : Char → Bool) (cs : List Char) : List Char :=
  cs.flatMap fun c => if kept c then [c] else (utf8 c).flatMap percentOctet

/-- A visible ASCII character. -/
def isGraphic (c : Char) : Bool :=
  0x20 < c.toNat && c.toNat < 0x7F

/-- The characters that stand for themselves in a path. -/
def keptInPath (c : Char) : Bool :=
  isGraphic c && c ∉ ['"', '#', '<', '>', '?', '`', '\x7b', '\x7d']

/-- The characters that stand for themselves in a query. -/
def keptInQuery (c : Char) : Bool :=
  isGraphic c && c ∉ ['"', '#', '\'', '<', '>']

/-- The characters that stand for themselves in a form field. -/
def keptInForm (c : Char) : Bool :=
  c.isAlphanum || ['*', '-', '.', '_'].contains c

/-- A form field: a blank becomes a plus sign. -/
def formEncode (s : String) : List Char :=
  s.toList.flatMap fun c => if c = ' ' then ['+'] else percentEncode keptInForm [c]

/-- The octets of a text in which every written octet is read back; a percent sign that two
digits do not follow stands for itself. -/
def percentDecode : List Char → List UInt8
  | '%' :: a :: b :: rest =>
    match hexValue? a, hexValue? b with
    | some high, some low => UInt8.ofNat (16 * high + low) :: percentDecode rest
    | _, _ => utf8 '%' ++ percentDecode (a :: b :: rest)
  | c :: rest => utf8 c ++ percentDecode rest
  | [] => []

end ImageFlow.Url
