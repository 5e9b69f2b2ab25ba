import ImageFlow.Workflow.Traversal

/-!
# Nested virtualization

Every instance is created with nested virtualization enabled.
-/

namespace ImageFlow.NestedVirtualization

/-- An instance with nested virtualization enabled. -/
def enable (i : Instance) : Instance :=
  { i with features := some { i.features.getD {} with nestedVirtualization := true } }

/-- A workflow in which every instance has nested virtualization enabled. -/
def apply (workflow : Workflow) : Workflow :=
  workflow.mapInstances enable

end ImageFlow.NestedVirtualization
