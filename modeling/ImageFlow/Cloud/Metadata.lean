import ImageFlow.Cloud.Client
import ImageFlow.Text.Cut

/-!
# The metadata server

The server that tells an instance about itself, in plain text.
-/

namespace ImageFlow

structure MetadataClient where
  baseUrl : String
  deriving DecidableEq, Inhabited

namespace MetadataClient

def ofBaseUrl (url : String) : MetadataClient :=
  ⟨withoutTrailingSlashes url⟩

variable {ω : Type}

/-- The text at a path, without the blanks around it. -/
def get (transport : Transport ω) (client : MetadataClient) (path : String) :
    Exchange ω String := do
  match Url.parse (client.baseUrl ++ "/" ++ path) with
  | .error _ => throw .network
  | .ok url =>
    let response ← transport.send { method := .get, url, metadataFlavor := some "Google" }
    if response.isSuccess then return Text.trim response.text
    else throw (.api response.status response.text)

/-- The project that the instance belongs to. -/
def projectId (transport : Transport ω) (client : MetadataClient) : Exchange ω String :=
  client.get transport "project/project-id"

/-- The name of the zone that the instance runs in, which ends the server's answer. -/
def zone (transport : Transport ω) (client : MetadataClient) : Exchange ω String := do
  let path ← client.get transport "instance/zone"
  return String.ofList (Text.afterLast '/' path.toList)

end MetadataClient

end ImageFlow
