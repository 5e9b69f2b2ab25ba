import ImageFlow.Cloud.Failure
import ImageFlow.Json.Decode

/-!
# Requests and answers

What a client sends and how it takes an answer.  A success is a status from 200 to 299; what an
answer of any other status says is the message of its error body, or else its whole text.
-/

namespace ImageFlow

inductive HttpMethod where
  | get
  | post
  deriving DecidableEq, Inhabited

def HttpMethod.name : HttpMethod → String
  | get => "GET"
  | post => "POST"

structure HttpRequest where
  method : HttpMethod
  url : Url
  authorization : Option String := none
  metadataFlavor : Option String := none
  /-- The JSON body, if there is one. -/
  body : Option Json := none

structure HttpResponse where
  status : Nat
  body : String
  deriving DecidableEq, Inhabited

namespace HttpResponse

/-- Whether answers of a status come without a body, whatever was meant to be in it. -/
def isBodiless (status : Nat) : Bool :=
  status = 204 || status = 304

/-- An answer as it arrives. -/
def arriving (status : Nat) (body : String) : HttpResponse :=
  ⟨status, if isBodiless status then "" else body⟩

def isSuccess (response : HttpResponse) : Bool :=
  200 ≤ response.status && response.status < 300

/-- The body as a text, without a byte order mark. -/
def text (response : HttpResponse) : String :=
  match response.body.toList with
  | '\uFEFF' :: rest => String.ofList rest
  | _ => response.body

/-- The message in an error body, which may be left out. -/
def decodeMessage : Decoder String :=
  Decoder.record [Decoder.field "message" Decoder.text fun v _ => v] ""

/-- An error body: `error` holds the message. -/
def decodeEnvelope : Decoder String :=
  Decoder.record [Decoder.field "error" decodeMessage (fun v _ => v) .refused] ""

/-- What an answer says that is no success. -/
def complaint (response : HttpResponse) : String :=
  match Decoder.ofText decodeEnvelope response.text with
  | .ok message => message
  | .error _ => response.text

def content {α : Type} (decoder : Decoder α) (response : HttpResponse) : Except ClientError α :=
  if response.isSuccess then
    match Decoder.ofText decoder response.body with
    | .ok value => .ok value
    | .error _ => .error .network
  else .error (.api response.status response.complaint)

end HttpResponse

/-- Takes a request to its service and brings back the answer, unless none comes. -/
abbrev Transport (ω : Type) := HttpRequest → ω → Option HttpResponse × ω

/-- A conversation with services, which may fail. -/
abbrev Exchange (ω : Type) := ExceptT ClientError (StateM ω)

def Transport.send {ω : Type} (transport : Transport ω) (request : HttpRequest) :
    Exchange ω HttpResponse := fun world =>
  match transport request world with
  | (some response, world) => (.ok response, world)
  | (none, world) => (.error .network, world)

end ImageFlow
