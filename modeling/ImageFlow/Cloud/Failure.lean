import ImageFlow.Files
import ImageFlow.Json.Document
import ImageFlow.Url.Basic

/-!
# Failures of cloud clients

What can go wrong when a client is built, and when it is used.
-/

namespace ImageFlow

inductive EndpointProblem where
  | invalid (problem : Url.UrlProblem)
  | unsupportedScheme (scheme : String)
  deriving DecidableEq, Inhabited

def EndpointProblem.message : EndpointProblem → String
  | invalid problem => problem.message
  | unsupportedScheme scheme => "unsupported scheme " ++ scheme

inductive CredentialsProblem where
  | unreadable (problem : FileProblem)
  | undecodable (problem : JsonProblem)
  | missingToken
  deriving DecidableEq, Inhabited

/-- The text of a problem, for one that has a text of its own. -/
def CredentialsProblem.message? : CredentialsProblem → Option String
  | unreadable problem => some problem.message
  | undecodable _ => none
  | missingToken => some "missing access_token"

inductive ClientError where
  /-- The service answered with a status that is no success. -/
  | api (status : Nat) (message : String)
  /-- No answer came, or one that cannot be decoded. -/
  | network
  | endpoint (url : String) (problem : EndpointProblem)
  | credentials (path : String) (problem : CredentialsProblem)
  deriving DecidableEq, Inhabited

namespace ClientError

def message : ClientError → String
  | api status message => "API error (status " ++ toString status ++ "): " ++ message
  | network => "network error"
  | endpoint url problem => "invalid endpoint " ++ url ++ ": " ++ problem.message
  | credentials path problem =>
    "invalid credentials file " ++ path
      ++ (problem.message?.map (": " ++ ·)).getD ""

def status? : ClientError → Option Nat
  | api status _ => some status
  | _ => none

end ClientError

end ImageFlow
