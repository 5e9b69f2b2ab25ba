import ImageFlow.Text.Composed
import ImageFlow.Url.ExclusionTable
import ImageFlow.Url.JoiningTable
import ImageFlow.Url.MappingTable
import ImageFlow.Url.Punycode

/-!
# Labels of a domain

The form in which a domain holds its characters, and the parts of it between the points.  A label
may stand in its ASCII form, which has to be that of a label in the form a domain holds.
-/

namespace ImageFlow.Url

open Text

def forbiddenInDomain (c : Char) : Bool :=
  c.toNat ≤ 0x20 || c.toNat == 0x7F
    || ['#', '%', '/', ':', '<', '>', '?', '@', '[', '\\', ']', '^', '|'].contains c

def isAscii (c : Char) : Bool :=
  c.toNat < 128

/-! ## The form of characters -/

/-- What replaces a character beyond ASCII, for those that are replaced. -/
def replacements : List FormRun :=
  readForms MappingTable.text

/-- What a domain holds for a character: nothing for a character that is left out, and no form at
all for one that is excluded. -/
def domainForm? (c : Char) : Option (List Char) :=
  if isAscii c then some [c.toLower]
  else if inRanges ExclusionTable.ranges c then none
  else if inRanges MappingTable.ignoredRanges c then some []
  else some ((formIn? replacements c).getD [c])

/-- The form of a text in a domain.  Forbidden characters are told afterwards: a mark may have
joined one of them and made another character of it. -/
def domainText? (cs : List Char) : Option (List Char) :=
  match cs.mapM domainForm? with
  | none => none
  | some forms =>
    let text := composed forms.flatten
    if text.any forbiddenInDomain then none else some text

/-! ## The ASCII form of a label -/

/-- The ASCII form of a label with other characters begins with these. -/
def encodedMark : List Char := ['x', 'n', '-', '-']

/-- The greatest length of what follows the mark of an ASCII form. -/
def longestEncoded : Nat := 2000

/-- The characters of a label in the form that a domain holds; the label may be in ASCII form. -/
def plainLabel? (label : List Char) : Option (List Char) :=
  match dropFront encodedMark label with
  | none => some label
  | some encoded =>
    if longestEncoded < encoded.length then none
    else do
      let codes ← Punycode.decode? encoded
      let plain := codes.map Char.ofNat
      if !plain.all isAscii ∧ domainText? plain = some plain then some plain else none

/-! ## Joiners -/

/-- The character that keeps its neighbours from joining. -/
def nonJoiner : Char := '\u200c'

/-- The character that joins its neighbours. -/
def joiner : Char := '\u200d'

/-- Whether joining passes over a character. -/
def isPassed (c : Char) : Bool :=
  isNonspacing c || JoiningTable.passedLetters.contains c.toNat

/-- Whether the first character that joining does not pass over joins: on both sides, or as one
of these. -/
def beginsJoining (ranges : List (Nat × Nat)) (cs : List Char) : Bool :=
  match cs.dropWhile isPassed with
  | [] => false
  | c :: _ => inRanges JoiningTable.dualRanges c || inRanges ranges c

/-- Whether a joiner of either kind changes what is shown, between what comes before it, nearest
first, and what comes after: behind a letter without its vowel both do, and letters that would
join can be kept apart. -/
def joinerFits (c : Char) (before after : List Char) : Bool :=
  before.head?.any isVirama
    || (c = nonJoiner && beginsJoining JoiningTable.leftRanges before
      && beginsJoining JoiningTable.rightRanges after)

/-- Whether all joiners of a text fit; what comes before it is listed nearest first. -/
def joinersFit (before : List Char) : List Char → Bool
  | [] => true
  | c :: rest =>
    ((c ≠ nonJoiner && c ≠ joiner) || joinerFits c before rest) && joinersFit (c :: before) rest

/-! ## Whole labels -/

/-- The greatest length of a label that is not ASCII. -/
def longestPlain : Nat := 1000

/-- Whether a label may stand in a domain.  One of ASCII characters always may. -/
def labelFits (label : List Char) : Bool :=
  label.all isAscii
    || (label.length ≤ longestPlain && !label.head?.any isMark && joinersFit [] label)

end ImageFlow.Url
