import ImageFlow.Resolve.Failure
import ImageFlow.Text.Quoted

/-!
# The machine series of a zone

A series can be used in a zone when the zone offers it in every shape that a run needs.
-/

namespace ImageFlow.SeriesChoice

/-- The series that are looked for, the most preferred first. -/
def preferred : List String := ["n2", "n1", "e2"]

/-- The shapes that a series must come in. -/
def requiredShapes : List String := ["-standard-2", "-standard-4", "-standard-8", "-highcpu-4"]

/-- The series that can be used where these machine types are offered. -/
def available (offered : List String) : List String :=
  preferred.filter fun series => requiredShapes.all fun shape => offered.contains (series ++ shape)

variable {ω : Type}

/-- The series that a project can use in a zone. -/
def detect (cloud : Cloud ω) (project zone : String) : Session ω ResolveError (List String) := do
  let offered : List String ← Session.ask cloud (.machineTypes project zone) .client
  let series := available offered
  Session.tell
    (.debug "detected machine series"
      [("project", project), ("zone", zone), ("series", Text.quotedList series)])
  return series

end ImageFlow.SeriesChoice
