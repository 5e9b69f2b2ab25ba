import ImageFlow.Cloud.Answer
import ImageFlow.Cloud.Client

/-!
# The storage and logging services

A bucket that already exists counts as created.
-/

namespace ImageFlow

structure StorageClient where
  api : ApiClient
  deriving DecidableEq, Inhabited

namespace StorageClient

def build (files : FileNode) (endpoint credentials : Option String) :
    Except ClientError StorageClient :=
  (ApiClient.build files .storage endpoint credentials).map StorageClient.mk

def endpoint (client : StorageClient) : String :=
  client.api.baseUrl

variable {ω : Type}

/-- Where a bucket lies. -/
def bucketLocation (transport : Transport ω) (client : StorageClient) (bucket : String) :
    Exchange ω String :=
  Bucket.location <$> client.api.get transport ("b/" ++ bucket) [] Bucket.decode

/-- The status of an answer that finds a resource in the way. -/
def conflict : Nat := 409

/-- A failure to create a bucket, unless it only says that the bucket exists. -/
def toleratingConflict : ClientError → Except ClientError Unit
  | .api status message => if status = conflict then .ok () else .error (.api status message)
  | error => .error error

def createBucket (transport : Transport ω) (client : StorageClient)
    (project bucket location : String) : Exchange ω Unit :=
  tryCatch
    (client.api.post transport "b" [("project", project)] (Bucket.encode ⟨bucket, location⟩))
    fun error => ExceptT.mk (pure (toleratingConflict error))

end StorageClient

/-- A client of the logging service, bound to the project whose logs are written. -/
structure LoggingClient where
  api : ApiClient
  project : String
  deriving DecidableEq, Inhabited

namespace LoggingClient

def build (files : FileNode) (project : String) (endpoint credentials : Option String) :
    Except ClientError LoggingClient :=
  (ApiClient.build files .logging endpoint credentials).map fun api => ⟨api, project⟩

def endpoint (client : LoggingClient) : String :=
  client.api.baseUrl

end LoggingClient

end ImageFlow
