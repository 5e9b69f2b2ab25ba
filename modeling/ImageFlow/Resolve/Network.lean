import ImageFlow.Resolve.Failure

/-!
# The network of a run

A network and a subnetwork as resource paths.  When only the subnetwork is given, the network is
the one that it belongs to; when neither is, it is the default network.
-/

namespace ImageFlow.NetworkChoice

def defaultNetwork : String := "default"

/-- A name that is no path yet, as a path. -/
def expand (value full : String) : String :=
  if value.toList.contains '/' then value else full

def lastSegment (path : String) : String :=
  String.ofList (Text.afterLast '/' path.toList)

/-- The path of a resource without the host before it. -/
def resourcePath (url : String) : String :=
  match Text.fromFirst "projects/".toList url.toList with
  | some path => String.ofList path
  | none => url

def networkPath (project network : String) : String :=
  expand network ("projects/" ++ project ++ "/global/networks/" ++ network)

/-- The path of a subnetwork of a project and region. -/
def subnetPath (project region subnet : String) : String :=
  expand subnet ("projects/" ++ project ++ "/regions/" ++ region ++ "/subnetworks/" ++ subnet)

variable {ω : Type}

/-- The name or path of the network to use. -/
def choose (cloud : Cloud ω) (network subnet region project : String) :
    Session ω ResolveError String := do
  if !network.isEmpty then return network
  else if subnet.isEmpty then return defaultNetwork
  else
    let name := lastSegment subnet
    let found : Subnetwork ← Session.ask cloud (.subnetwork project region name) .client
    Session.tell
      (.debug "network taken from subnet" [("subnet", name), ("network", found.network)])
    return resourcePath found.network

/-- The network and the subnetwork to use; a subnetwork that is not given stays empty. -/
def resolve (cloud : Cloud ω) (network subnet region project : String) :
    Session ω ResolveError (String × String) := do
  let network ← choose cloud network subnet region project
  let subnet := if subnet.isEmpty then "" else subnetPath project region subnet
  return (networkPath project network, subnet)

end ImageFlow.NetworkChoice
