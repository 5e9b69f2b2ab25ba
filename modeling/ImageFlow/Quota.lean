import ImageFlow.Text.Case
import ImageFlow.Text.Cut
import ImageFlow.Workflow.Failure

/-!
# Exhausted quota

An API reports that the CPU quota of a machine series is exhausted only in the text of its
failure, by the name of the quota: `N2_CPUS` for the series `n2`.  A failure is one of quota
exactly when its text contains that name.
-/

namespace ImageFlow.Quota

/-- The name of the CPU quota of a machine series. -/
def marker (series : String) : String :=
  Text.upper series ++ "_CPUS"

/-- Whether a failure reports that the CPU quota of a machine series is exhausted. -/
def isExhausted (error : WorkflowError) (series : String) : Bool :=
  !series.isEmpty && Text.occursIn (marker series).toList error.message.toList

theorem isExhausted_iff (error : WorkflowError) (series : String) :
    isExhausted error series = true
      ↔ series ≠ "" ∧ (Text.upper series ++ "_CPUS").toList <:+: error.message.toList := by
  rw [isExhausted, marker, Bool.and_eq_true, Text.occursIn_iff]
  simp

end ImageFlow.Quota
