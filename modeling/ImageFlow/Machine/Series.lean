import ImageFlow.Text.Cut

/-!
# Machine series

A machine type such as `e2-standard-2` begins with its series; what follows from the first dash
on is its class and size.
-/

namespace ImageFlow.MachineType

/-- The machine type of the same class and size in another series; a name without a dash has
none. -/
def inSeries? (machineType series : String) : Option String :=
  match Text.cutFirst '-' machineType.toList with
  | some (_, shape) => some (series ++ String.ofList ('-' :: shape))
  | none => none

/-- Why a machine type has no counterpart in another series. -/
def unknownMessage (machineType : String) : String :=
  "unknown machine type: " ++ machineType

end ImageFlow.MachineType
