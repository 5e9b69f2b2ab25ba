import ImageFlow.Cloud.Answer
import ImageFlow.Cloud.Client

/-!
# The compute service

Listings come in pages, each with the token of the next one; a listing is all items of all pages
in order.  How many pages may come is a budget of the caller, since nothing else bounds them.
-/

namespace ImageFlow

structure ComputeClient where
  api : ApiClient
  deriving DecidableEq, Inhabited

namespace ComputeClient

def build (files : FileNode) (endpoint credentials : Option String) :
    Except ClientError ComputeClient :=
  (ApiClient.build files .compute endpoint credentials).map ComputeClient.mk

def endpoint (client : ComputeClient) : String :=
  client.api.baseUrl

variable {ω α : Type}

/-- The fields that ask for a page. -/
def pageFields (token : Option String) : List (String × String) :=
  (token.map fun t => ("pageToken", t)).toList

/-- All items of a listing from one page on; beyond the budget the service counts as silent. -/
def listPages (ask : Option String → Exchange ω (Page α)) :
    Nat → Option String → Exchange ω (List α)
  | 0, _ => throw .network
  | budget + 1, token => do
    let page ← ask token
    match page.next? with
    | none => return page.items
    | some next => return page.items ++ (← listPages ask budget (some next))

/-- All items of the listing at a path. -/
def list (transport : Transport ω) (client : ComputeClient) (budget : Nat) (path : String)
    (item : Decoder α) : Exchange ω (List α) :=
  listPages (fun token => client.api.get transport path (pageFields token) (Page.decode item))
    budget none

/-- The names of the machine types of a zone. -/
def machineTypes (transport : Transport ω) (client : ComputeClient) (budget : Nat)
    (project zone : String) : Exchange ω (List String) :=
  client.list transport budget ("projects/" ++ project ++ "/zones/" ++ zone ++ "/machineTypes")
    MachineType.decode

def zones (transport : Transport ω) (client : ComputeClient) (budget : Nat) (project : String) :
    Exchange ω (List Zone) :=
  client.list transport budget ("projects/" ++ project ++ "/zones") Zone.decode

def image (transport : Transport ω) (client : ComputeClient) (project name : String) :
    Exchange ω StoredDisk :=
  client.api.get transport ("projects/" ++ project ++ "/global/images/" ++ name) []
    StoredDisk.decode

def snapshot (transport : Transport ω) (client : ComputeClient) (project name : String) :
    Exchange ω StoredDisk :=
  client.api.get transport ("projects/" ++ project ++ "/global/snapshots/" ++ name) []
    StoredDisk.decode

def subnetwork (transport : Transport ω) (client : ComputeClient)
    (project region name : String) : Exchange ω Subnetwork :=
  client.api.get transport
    ("projects/" ++ project ++ "/regions/" ++ region ++ "/subnetworks/" ++ name) []
    Subnetwork.decode

def createImage (transport : Transport ω) (client : ComputeClient) (project : String)
    (spec : ImageSpec) : Exchange ω Unit :=
  client.api.post transport ("projects/" ++ project ++ "/global/images") [] spec.encode

end ComputeClient

end ImageFlow
