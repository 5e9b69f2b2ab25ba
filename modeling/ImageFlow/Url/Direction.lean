import ImageFlow.Text.Mark
import ImageFlow.Url.DirectionTable

/-!
# Writing direction

Which way the characters of a domain are written, and when a label stays readable in a domain that
mixes both ways.  The rule speaks of the directions of the characters only.
-/

namespace ImageFlow.Url

open Text

/-- Which way a character is written, as far as the rule for labels tells it apart. -/
inductive Direction where
  | leftToRight
  | rightToLeft
  /-- A digit of a number in Arabic text. -/
  | arabicNumber
  /-- Any other digit. -/
  | number
  /-- What is written the way of its neighbours. -/
  | neutral
  /-- What attaches to the character before it. -/
  | mark
  deriving DecidableEq, Inhabited

/-- The direction of a character that a domain may hold. -/
def direction (c : Char) : Direction :=
  if c.toNat < 128 then
    if c.isAlpha then .leftToRight else if c.isDigit then .number else .neutral
  else if inRanges DirectionTable.rightRanges c then .rightToLeft
  else if inRanges DirectionTable.neutralRanges c then .neutral
  else if inRanges DirectionTable.arabicNumberRanges c then .arabicNumber
  else if inRanges DirectionTable.numberRanges c then .number
  else if isNonspacing c && !DirectionTable.leftMarks.contains c.toNat then .mark
  else .leftToRight

/-- Whether a character makes its domain one of both directions. -/
def turns (d : Direction) : Bool :=
  d = .rightToLeft || d = .arabicNumber

/-- Whether a label from left to right may hold a character of this direction. -/
def staysLeft (d : Direction) : Bool :=
  d ≠ .rightToLeft && d ≠ .arabicNumber

/-- Whether a label of these directions stays readable: it begins with a letter, keeps to the
direction of that letter, ends in a letter or digit of it, marks aside, and does not mix digits
of two kinds. -/
def readable : List Direction → Bool
  | [] => true
  | first :: rest =>
    match first, rest.reverse.dropWhile (· = .mark) with
    | .leftToRight, [] => true
    | .leftToRight, last :: middle =>
      (last = .leftToRight || last = .number) && middle.all staysLeft
    | .rightToLeft, [] => true
    | .rightToLeft, last :: middle =>
      (last = .rightToLeft || last = .number || last = .arabicNumber)
        && middle.all (· ≠ .leftToRight)
        && !((last :: middle).contains .number && (last :: middle).contains .arabicNumber)
    | _, _ => false

/-- Whether the labels of a domain may stand together: each stays readable where one of them has
a character that turns the direction. -/
def directionsFit (labels : List (List Char)) : Bool :=
  let directions := labels.map (·.map direction)
  !directions.any (·.any turns) || directions.all readable

end ImageFlow.Url
