import ImageFlow.Url.Direction
import ImageFlow.Url.Label

/-!
# Domains

Names of hosts in any script.  A domain is put into its form character by character, and its
labels are checked one by one and, where both writing directions meet, together.
-/

namespace ImageFlow.Url

/-- The labels of a domain: what stands between its points. -/
def labelsOf (name : List Char) : List (List Char) :=
  name.splitOn '.'

/-- The form of a domain, if the text is one. -/
def domain? (cs : List Char) : Option (List Char) := do
  let name ← domainText? cs
  let labels ← (labelsOf name).mapM plainLabel?
  if labels.all labelFits && directionsFit labels then some name else none

end ImageFlow.Url
