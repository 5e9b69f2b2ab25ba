import ImageFlow.Text.CombiningTable
import ImageFlow.Text.MarkTable
import ImageFlow.Text.Ranges

/-!
# Marks

Characters that attach to the character before them, and the order in which several of them do.
-/

namespace ImageFlow.Text

/-- A mark that takes no place of its own. -/
def isNonspacing (c : Char) : Bool :=
  inRanges MarkTable.nonspacingRanges c

/-- A mark of either kind. -/
def isMark (c : Char) : Bool :=
  isNonspacing c || inRanges MarkTable.spacingRanges c

/-- The combining class: marks of different classes may change places without a change in what
they show.  Of class zero is whatever does not attach to what stands before it. -/
def combiningClass (c : Char) : Nat :=
  ((CombiningTable.classes.find? (inRanges ·.2 c)).map (·.1)).getD 0

/-- The class of the marks that take away the vowel of a letter. -/
def viramaClass : Nat := 9

/-- A mark that takes away the vowel of a letter. -/
def isVirama (c : Char) : Bool :=
  combiningClass c = viramaClass

end ImageFlow.Text
