import ImageFlow.Json.Decode
import ImageFlow.Workflow.Document

/-!
# What services answer

The parts of the resources of the compute and storage services that a run needs, and the body of
a request for a new image.
-/

namespace ImageFlow

open Decoder (RecordField field)

structure Zone where
  name : String
  status : String := ""
  deriving DecidableEq, Inhabited

def Zone.decode : Decoder Zone :=
  Decoder.record
    [ field "name" Decoder.text (fun v z => { z with name := v }) .refused
    , field "status" Decoder.text fun v z => { z with status := v } ] ⟨"", ""⟩

/-- A machine type as it is answered, by its name. -/
def MachineType.decode : Decoder String :=
  Decoder.record [field "name" Decoder.text (fun v _ => v) .refused] ""

/-- An image or a snapshot and its size. -/
structure StoredDisk where
  name : String
  sizeGb : Int := 0
  deriving DecidableEq, Inhabited

/-- An image or a snapshot as it is answered; its size may be a number or a text. -/
def StoredDisk.decode : Decoder StoredDisk :=
  Decoder.record
    [ field "name" Decoder.text (fun v d => { d with name := v }) .refused
    , field "diskSizeGb" Decoder.int64 fun v d => { d with sizeGb := v } ] ⟨"", 0⟩

structure Subnetwork where
  name : String
  network : String
  deriving DecidableEq, Inhabited

def Subnetwork.decode : Decoder Subnetwork :=
  Decoder.record
    [ field "name" Decoder.text (fun v s => { s with name := v }) .refused
    , field "network" Decoder.text (fun v s => { s with network := v }) .refused ] ⟨"", ""⟩

/-- A bucket and where it lies. -/
structure Bucket where
  name : String
  location : String := ""
  deriving DecidableEq, Inhabited

def Bucket.decode : Decoder Bucket :=
  Decoder.record
    [ field "name" Decoder.text (fun v b => { b with name := v }) .refused
    , field "location" Decoder.text fun v b => { b with location := v } ] ⟨"", ""⟩

/-- The body of a request for a bucket. -/
def Bucket.encode (bucket : Bucket) : Json :=
  Json.ofPairs [("name", .text bucket.name), ("location", .text bucket.location)]

/-- One page of a listing, and the token that asks for the next one. -/
structure Page (α : Type) where
  items : List α := []
  nextToken : Option String := none

/-- The token of the page after this one, if there is one. -/
def Page.next? {α : Type} (page : Page α) : Option String :=
  page.nextToken.filter (!·.isEmpty)

def Page.decode {α : Type} (item : Decoder α) : Decoder (Page α) :=
  Decoder.record
    [ field "items" (Decoder.list item) fun v p => { p with items := v }
    , field "nextPageToken" (Decoder.optional Decoder.text)
        (fun v p => { p with nextToken := v }) .nothing ] {}

/-- A request for a new image. -/
structure ImageSpec where
  name : String := ""
  description : String := ""
  family : String := ""
  labels : OrderedMap String := ∅
  sourceDisk : String := ""
  storageLocations : List String := []
  licenses : List String := []
  encryptionKey : Option EncryptionKey := none
  deriving DecidableEq, Inhabited

/-- The body of a request for a new image. -/
def ImageSpec.encode (spec : ImageSpec) : Json :=
  Json.ofPairs <|
    [("name", .text spec.name)]
      ++ Json.memberIfText "description" spec.description
      ++ Json.memberIfText "family" spec.family
      ++ Json.memberIfLabels "labels" spec.labels
      ++ [("sourceDisk", .text spec.sourceDisk)]
      ++ Json.memberIfAny "storageLocations" .text spec.storageLocations
      ++ Json.memberIfAny "licenses" .text spec.licenses
      ++ Json.memberIfSome "imageEncryptionKey" EncryptionKey.encode spec.encryptionKey

end ImageFlow
