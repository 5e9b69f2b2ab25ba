import ImageFlow.Workflow.Traversal

/-!
# The network of instances

The first interface of every instance is attached to the network and the subnetwork of the run.
An empty name leaves that part of the interface alone, and when both are empty nothing is
touched.
-/

namespace ImageFlow.NetworkAssignment

/-- An interface attached to the network and the subnetwork, where they are given. -/
def attach (network subnet : String) (interface : NetworkInterface) : NetworkInterface :=
  { network := if network.isEmpty then interface.network else network
    subnetwork := if subnet.isEmpty then interface.subnetwork else subnet }

/-- The interfaces of an instance, of which it has at least one, with the first attached. -/
def attachFirst (network subnet : String) : List NetworkInterface → List NetworkInterface
  | [] => [attach network subnet {}]
  | first :: rest => attach network subnet first :: rest

/-- An instance with its first interface attached. -/
def attachInstance (network subnet : String) (i : Instance) : Instance :=
  { i with networkInterfaces := attachFirst network subnet i.networkInterfaces }

/-- A workflow in which the first interface of every instance is attached. -/
def apply (network subnet : String) (workflow : Workflow) : Workflow :=
  if network.isEmpty ∧ subnet.isEmpty then workflow
  else workflow.mapInstances (attachInstance network subnet)

end ImageFlow.NetworkAssignment
