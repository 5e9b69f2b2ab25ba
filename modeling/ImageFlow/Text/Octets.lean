/-!
# Places in a text

A place in a text counts the octets of its UTF-8 form that lie before it.
-/

namespace ImageFlow.Text

/-- The text from a place on. -/
def fromOctet (place : Nat) : List Char → List Char
  | [] => []
  | c :: rest => if place = 0 then c :: rest else fromOctet (place - c.utf8Size) rest

/-- The text up to a place. -/
def upToOctet (place : Nat) : List Char → List Char
  | [] => []
  | c :: rest => if place = 0 then [] else c :: upToOctet (place - c.utf8Size) rest

end ImageFlow.Text
