import ImageFlow.Text.CompositeTable
import ImageFlow.Text.FormTable
import ImageFlow.Text.Mark

/-!
# Composed texts

Texts in which a letter and its marks are as few characters as can be.  A text is taken apart
into letters and marks, the marks on a letter are put in the order of their classes, and then
each mark joins its letter where a character for the two exists and no mark of the same class
stands between them.
-/

namespace ImageFlow.Text

/-- The characters that stand for two others. -/
def composites : List FormRun :=
  readForms CompositeTable.text

/-! ## Hangul syllables -/

def initialCount : Nat := 19

def medialCount : Nat := 21

/-- The number of final letters, one more for the lack of one. -/
def finalCount : Nat := 28

/-- The code point of the first syllable. -/
def firstSyllable : Nat := 0xAC00

/-- The code point of the first initial letter. -/
def firstInitial : Nat := 0x1100

/-- The code point of the first medial letter. -/
def firstMedial : Nat := 0x1161

/-- The code point before the first final letter. -/
def beforeFinals : Nat := 0x11A7

/-- The two parts of a syllable: what comes before its final letter, and that letter; or its
initial and its medial letter. -/
def syllableParts? (c : Char) : Option (Char × Char) :=
  let index := c.toNat - firstSyllable
  if c.toNat < firstSyllable ∨ initialCount * medialCount * finalCount ≤ index then none
  else if index % finalCount ≠ 0 then
    some (Char.ofNat (c.toNat - index % finalCount), Char.ofNat (beforeFinals + index % finalCount))
  else
    some (Char.ofNat (firstInitial + index / finalCount / medialCount),
      Char.ofNat (firstMedial + index / finalCount % medialCount))

/-- The syllable of two parts. -/
def syllable? (a b : Char) : Option Char :=
  let initial := a.toNat - firstInitial
  let medial := b.toNat - firstMedial
  let syllable := a.toNat - firstSyllable
  let final := b.toNat - beforeFinals
  if firstInitial ≤ a.toNat ∧ initial < initialCount ∧ firstMedial ≤ b.toNat
      ∧ medial < medialCount then
    some (Char.ofNat (firstSyllable + (initial * medialCount + medial) * finalCount))
  else if firstSyllable ≤ a.toNat ∧ syllable < initialCount * medialCount * finalCount
      ∧ syllable % finalCount = 0 ∧ beforeFinals < b.toNat ∧ final < finalCount then
    some (Char.ofNat (a.toNat + final))
  else none

/-! ## Taking apart -/

def parts? (c : Char) : Option (Char × Char) :=
  match formIn? composites c with
  | some [a, b] => some (a, b)
  | _ => syllableParts? c

/-- The character that stands for two. -/
def composite? (a b : Char) : Option Char :=
  match composites.find? (·.form == [a.toNat, b.toNat]) with
  | some run => some (Char.ofNat run.first)
  | none => syllable? a b

/-- How often the first part of a character has parts itself, at most. -/
def greatestDepth : Nat := 3

/-- The letter and the marks of a character. -/
def takeApart : Nat → Char → List Char
  | 0, c => [c]
  | depth + 1, c =>
    match parts? c with
    | some (a, b) => takeApart depth a ++ [b]
    | none => [c]

/-! ## Order -/

/-- Puts a character in front of marks in order, behind those of a smaller class. -/
def placeMark (c : Char) : List Char → List Char
  | [] => [c]
  | d :: rest =>
    if 0 < combiningClass d ∧ combiningClass d < combiningClass c then d :: placeMark c rest
    else c :: d :: rest

/-- The text with the marks on each letter in the order of their classes. -/
def orderMarks (cs : List Char) : List Char :=
  cs.foldr placeMark []

/-! ## Putting together -/

/-- Whether a character reaches its letter past the marks that stay between them, nearest to it
first. -/
def reachesLetter (marks : List Char) (c : Char) : Bool :=
  match marks with
  | [] => true
  | mark :: _ => combiningClass mark < combiningClass c

/-- Puts the rest of a text together with a letter and the marks that stay on it, last first. -/
def joinMarks (letter : Char) (marks : List Char) : List Char → List Char
  | [] => letter :: marks.reverse
  | c :: rest =>
    match if reachesLetter marks c then composite? letter c else none with
    | some composite => joinMarks composite marks rest
    | none =>
      if combiningClass c = 0 then letter :: marks.reverse ++ joinMarks c [] rest
      else joinMarks letter (c :: marks) rest

def putTogether : List Char → List Char
  | [] => []
  | c :: rest => if combiningClass c = 0 then joinMarks c [] rest else c :: putTogether rest

/-- The code point of the first mark; a text of characters before it is composed as it stands. -/
def firstMark : Nat := 0x300

def composed (cs : List Char) : List Char :=
  if cs.all (·.toNat < firstMark) then cs
  else putTogether (orderMarks (cs.flatMap (takeApart greatestDepth)))

end ImageFlow.Text
