import ImageFlow.Json.Printer
import ImageFlow.LogFilter
import ImageFlow.Proofs.Hook.Frame
import ImageFlow.Proofs.Hook.OneShot
import ImageFlow.Proofs.Run.Calls
import ImageFlow.Proofs.Run.Cancellation
import ImageFlow.Proofs.Run.Session
import ImageFlow.Proofs.Run.Limit
import ImageFlow.Proofs.Run.Record
import ImageFlow.Resolve.Resolver
import ImageFlow.Resource.DiskImage
import ImageFlow.Run.Loop
import ImageFlow.Run.Runner
import ImageFlow.Settings
import ImageFlow.Proofs.Resource.KeyName
import ImageFlow.Proofs.Resolve.Subnetwork
import ImageFlow.Proofs.Resolve.Filling
import ImageFlow.Proofs.Resolve.Guarantee
import ImageFlow.Proofs.Data.OrderedMap
import ImageFlow.Proofs.Json.Order
import ImageFlow.Proofs.Json.Depth
import ImageFlow.Proofs.Json.Faithful
import ImageFlow.Proofs.Json.FaithfulRecord
import ImageFlow.Proofs.Workflow.Kept
import ImageFlow.Proofs.Workflow.ResourceForms
import ImageFlow.Proofs.Workflow.RoundTrip
import ImageFlow.Proofs.Resolve.Stage
import ImageFlow.Proofs.Resolve.FailFast
import ImageFlow.Proofs.Resolve.Idempotence
import ImageFlow.Proofs.Run.DetectedSeries
import ImageFlow.Proofs.Run.HandedOn
import ImageFlow.Proofs.Run.Pristine
import ImageFlow.Proofs.Hook.Commutation
import ImageFlow.Proofs.Hook.Idempotence
import ImageFlow.Proofs.Hook.Encrypted
import ImageFlow.Proofs.Hook.QuotaContext
import ImageFlow.Proofs.Resource.ImportLabel
import ImageFlow.Proofs.Run.LabelledJobs
import ImageFlow.Proofs.Run.EnvironmentSetup
import ImageFlow.Proofs.Resolve.Regions
import ImageFlow.Proofs.Resolve.ScratchBucket
import ImageFlow.Proofs.Resource.NameForm
import ImageFlow.Proofs.Resource.SourceSize
import ImageFlow.Proofs.Resolve.ScratchPath
import ImageFlow.Proofs.Resolve.DerivedZone
import ImageFlow.Proofs.Cloud.Paging
import ImageFlow.Proofs.Run.AuditOperations
import ImageFlow.Proofs.Hook.ReleaseNames
import ImageFlow.Proofs.Resolve.AlikeClouds
import ImageFlow.Proofs.Hook.Interfaces
import ImageFlow.Proofs.Cloud.Sizes
import ImageFlow.Proofs.Workflow.VisitOrder
import ImageFlow.Proofs.Resolve.LocationLaws
