import ImageFlow.Cloud.Http
import ImageFlow.Text.Blank

/-!
# Clients of one service

A client is bound to the endpoint of its service and, where credentials are given, to a bearer
token.  The endpoint is checked before the credentials are read, and without credentials no file
is read.
-/

namespace ImageFlow

/-- The services that a workflow talks to. -/
inductive Service where
  | compute
  | storage
  | logging
  deriving DecidableEq, Inhabited

def Service.name : Service → String
  | compute => "compute"
  | storage => "storage"
  | logging => "logging"

def Service.defaultEndpoint : Service → String
  | compute => "https://compute.googleapis.com/compute/v1/"
  | storage => "https://storage.googleapis.com/storage/v1/"
  | logging => "https://logging.googleapis.com/v2/"

def withoutTrailingSlashes (s : String) : String :=
  String.ofList (Text.dropTail (· = '/') s.toList)

def withoutLeadingSlashes (s : String) : String :=
  String.ofList (s.toList.dropWhile (· = '/'))

def endpointProblem? (endpoint : String) : Option EndpointProblem :=
  match Url.parse endpoint with
  | .error problem => some (.invalid problem)
  | .ok url =>
    if url.scheme = "http" ∨ url.scheme = "https" then none
    else some (.unsupportedScheme url.scheme)

/-- A credentials file: the token, if it is there. -/
def decodeCredentials : Decoder (Option String) :=
  Decoder.record
    [Decoder.field "access_token" (Decoder.optional Decoder.text) (fun v _ => v) .nothing] none

def readToken (files : FileNode) (path : String) : Except CredentialsProblem String :=
  match files.read path with
  | .error problem => .error (.unreadable problem)
  | .ok text =>
    match Decoder.ofText decodeCredentials text with
    | .error problem => .error (.undecodable problem)
    | .ok none => .error .missingToken
    | .ok (some token) => if token.isEmpty then .error .missingToken else .ok token

structure ApiClient where
  service : Service
  baseUrl : String
  token : Option String
  deriving DecidableEq, Inhabited

namespace ApiClient

/-- Builds a client, at the public endpoint unless another one is given. -/
def build (files : FileNode) (service : Service) (endpoint credentials : Option String) :
    Except ClientError ApiClient :=
  let endpoint := endpoint.getD service.defaultEndpoint
  let baseUrl := withoutTrailingSlashes endpoint
  match endpointProblem? endpoint with
  | some problem => .error (.endpoint endpoint problem)
  | none =>
    match credentials with
    | none => .ok { service, baseUrl, token := none }
    | some path =>
      match readToken files path with
      | .error problem => .error (.credentials path problem)
      | .ok token => .ok { service, baseUrl, token := some token }

/-- Whether a token can be sent: it holds no control characters but tabs. -/
def isSendable (token : String) : Bool :=
  token.toList.all fun c => c = '\t' || (0x20 ≤ c.toNat && c.toNat ≠ 0x7F)

/-- The authorization that a client sends, unless its token cannot be sent. -/
def authorization (client : ApiClient) : Except ClientError (Option String) :=
  match client.token with
  | none => .ok none
  | some token => if isSendable token then .ok (some ("Bearer " ++ token)) else .error .network

/-- The request for a path below the endpoint. -/
def request (client : ApiClient) (method : HttpMethod) (path : String)
    (fields : List (String × String)) (body : Option Json) : Except ClientError HttpRequest :=
  match Url.parse (client.baseUrl ++ "/" ++ withoutLeadingSlashes path) with
  | .error _ => .error .network
  | .ok url => do
    let authorization ← client.authorization
    return { method, url := url.addFields fields, authorization, body }

variable {ω α : Type}

/-- Sends a request and takes the content of the answer. -/
def call (transport : Transport ω) (client : ApiClient) (method : HttpMethod) (path : String)
    (fields : List (String × String)) (body : Option Json) (decoder : Decoder α) :
    Exchange ω α := do
  let request ← ExceptT.mk (pure (client.request method path fields body))
  let response ← transport.send request
  ExceptT.mk (pure (response.content decoder))

/-- Asks for what stands at a path. -/
def get (transport : Transport ω) (client : ApiClient) (path : String)
    (fields : List (String × String)) (decoder : Decoder α) : Exchange ω α :=
  client.call transport .get path fields none decoder

/-- Sends a body to a path; the answer only has to be JSON. -/
def post (transport : Transport ω) (client : ApiClient) (path : String)
    (fields : List (String × String)) (body : Json) : Exchange ω Unit := do
  discard (client.call transport .post path fields (some body) Decoder.json)

end ApiClient

end ImageFlow
