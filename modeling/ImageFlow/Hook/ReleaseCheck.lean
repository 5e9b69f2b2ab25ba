import ImageFlow.Hook.Basic
import ImageFlow.Machine.OsRelease

/-!
# The release that was found and the one that was named

When the operating system found on a disk contradicts the one that the user named, a failure is
replaced by a message that says so.  Minor versions do not count, and without two releases to
compare the failure stays as it is.
-/

namespace ImageFlow.ReleaseCheck

def mismatchMessage (specified : String) (detected : OsRelease) : String :=
  "\"" ++ detected.display ++ "\" was detected on your disk, but \"" ++ specified
    ++ "\" was specified. Please verify and re-import"

/-- The failure to report instead of the one that occurred. -/
def explain (specified : String) (detected : Option OsRelease) (error : WorkflowError) :
    Logged WorkflowError :=
  match detected with
  | none => .quiet error
  | some detected =>
    match OsRelease.parse? specified with
    | none =>
      ⟨error, [.debug "could not parse specified OS; keeping original error"
        [("specified", specified)]]⟩
    | some named =>
      if named.agrees detected then .quiet error
      else
        ⟨.userInput (mismatchMessage specified detected),
          [.debug "replacing error with detection mismatch message" [("cause", error.message)]]⟩

/-- The error to hand on; a success stays one. -/
def judge (specified : String) (detected : Option OsRelease) (error : Option WorkflowError) :
    Logged (Option WorkflowError) :=
  match error with
  | none => .quiet none
  | some error =>
    let explained := explain specified detected error
    ⟨some explained.value, explained.events⟩

end ImageFlow.ReleaseCheck
