import ImageFlow.Data.OrderedMap

/-!
# JSON values

Numbers keep the distinction that documents make: an integer of 64 bits, signed or unsigned, or
a double.  Objects are lists of members; `Json.object` builds one in key order in which the last
member of a key counts.
-/

namespace ImageFlow

/-- A number of a document: an integer between `-2 ^ 63` and `2 ^ 64 - 1`, or a finite double
given by its bits. -/
inductive Number where
  | integer (n : Int)
  | double (bits : UInt64)
  deriving DecidableEq, Inhabited

/-- A JSON value. -/
inductive Json where
  | null
  | bool (b : Bool)
  | number (n : Number)
  | text (s : String)
  | array (items : List Json)
  | object (members : List (String × Json))
  deriving Inhabited, BEq

namespace Json

def int (n : Int) : Json :=
  .number (.integer n)

def nat (n : Nat) : Json :=
  .int n

/-- An object with its members in key order; the last member of a key counts. -/
def ofPairs (members : List (String × Json)) : Json :=
  .object (OrderedMap.ofList members).entries

def ofMap (m : OrderedMap Json) : Json :=
  .object m.entries

def ofTexts (texts : List String) : Json :=
  .array (texts.map .text)

def member? (key : String) : Json → Option Json
  | .object members => Entries.get? key members
  | _ => none

mutual

/-- The value with every text in it changed; keys stay. -/
def mapTexts (f : String → String) : Json → Json
  | .text s => .text (f s)
  | .array items => .array (mapTextsItems f items)
  | .object members => .object (mapTextsMembers f members)
  | other => other

/-- The elements of an array with every text in them changed. -/
def mapTextsItems (f : String → String) : List Json → List Json
  | [] => []
  | item :: rest => mapTexts f item :: mapTextsItems f rest

/-- The members of an object with every text in their values changed. -/
def mapTextsMembers (f : String → String) : List (String × Json) → List (String × Json)
  | [] => []
  | (key, value) :: rest => (key, mapTexts f value) :: mapTextsMembers f rest

end

end Json

end ImageFlow
