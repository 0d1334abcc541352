import ProxyOperator.Adoption
import ProxyOperator.Cluster.Announcement
import ProxyOperator.Cluster.Event
import ProxyOperator.Cluster.Listing
import ProxyOperator.Cluster.Node
import ProxyOperator.Cluster.Pod
import ProxyOperator.Cluster.Secret
import ProxyOperator.Cluster.Service
import ProxyOperator.Effect
import ProxyOperator.Encoding.Base64
import ProxyOperator.Encoding.Digest
import ProxyOperator.Encoding.Form
import ProxyOperator.Encoding.Hex
import ProxyOperator.Encoding.Sha256
import ProxyOperator.Encoding.Utf8
import ProxyOperator.Failure
import ProxyOperator.Json.Basic
import ProxyOperator.Json.Codec
import ProxyOperator.Json.MergePatch
import ProxyOperator.Json.Number
import ProxyOperator.Json.Pointer
import ProxyOperator.Json.Printer
import ProxyOperator.Json.Reader
import ProxyOperator.Json.Record
import ProxyOperator.Json.Token
import ProxyOperator.Main
import ProxyOperator.Manifest.AccessList
import ProxyOperator.Manifest.Certificate
import ProxyOperator.Manifest.Definition
import ProxyOperator.Manifest.ProxyHost
import ProxyOperator.Manifest.Schema
import ProxyOperator.Manifest.Shared
import ProxyOperator.Manifest.Stream
import ProxyOperator.Manifest.Token
import ProxyOperator.Program
import ProxyOperator.Proofs.Attaining
import ProxyOperator.Proofs.Attempt
import ProxyOperator.Proofs.BearerPasses
import ProxyOperator.Proofs.BearerTraffic
import ProxyOperator.Proofs.Bearers
import ProxyOperator.Proofs.BeginningPasses
import ProxyOperator.Proofs.Beginnings
import ProxyOperator.Proofs.Candour
import ProxyOperator.Proofs.Capabilities
import ProxyOperator.Proofs.CertificateChoice
import ProxyOperator.Proofs.CertificateLookup
import ProxyOperator.Proofs.CertificateMarks
import ProxyOperator.Proofs.CertificateRequests
import ProxyOperator.Proofs.CertificateSources
import ProxyOperator.Proofs.Claims
import ProxyOperator.Proofs.ClusterCalls
import ProxyOperator.Proofs.ConditionHistory
import ProxyOperator.Proofs.Conditions
import ProxyOperator.Proofs.Conduct
import ProxyOperator.Proofs.Converging
import ProxyOperator.Proofs.Course
import ProxyOperator.Proofs.CreatedOnce
import ProxyOperator.Proofs.Dates
import ProxyOperator.Proofs.DeclaredDomains
import ProxyOperator.Proofs.Destinations
import ProxyOperator.Proofs.Dictionaries
import ProxyOperator.Proofs.Domains
import ProxyOperator.Proofs.ErrandPasses
import ProxyOperator.Proofs.ErrandRules
import ProxyOperator.Proofs.Errands
import ProxyOperator.Proofs.FailedPasses
import ProxyOperator.Proofs.FanOut
import ProxyOperator.Proofs.Farewells
import ProxyOperator.Proofs.Fingerprints
import ProxyOperator.Proofs.Fleet
import ProxyOperator.Proofs.FleetCourse
import ProxyOperator.Proofs.Footing
import ProxyOperator.Proofs.FootingAdoption
import ProxyOperator.Proofs.FootingCourse
import ProxyOperator.Proofs.FootingPasses
import ProxyOperator.Proofs.FootingUpkeep
import ProxyOperator.Proofs.Frames
import ProxyOperator.Proofs.HostBodies
import ProxyOperator.Proofs.HostRequests
import ProxyOperator.Proofs.Instants
import ProxyOperator.Proofs.Issuance
import ProxyOperator.Proofs.IssuanceHistory
import ProxyOperator.Proofs.JsonTexts
import ProxyOperator.Proofs.Logs
import ProxyOperator.Proofs.MergedRecords
import ProxyOperator.Proofs.NodePorts
import ProxyOperator.Proofs.Openings
import ProxyOperator.Proofs.OrderPasses
import ProxyOperator.Proofs.Orders
import ProxyOperator.Proofs.Playing
import ProxyOperator.Proofs.PoolNames
import ProxyOperator.Proofs.Pools
import ProxyOperator.Proofs.PuttingBack
import ProxyOperator.Proofs.Records
import ProxyOperator.Proofs.Refusals
import ProxyOperator.Proofs.Requests
import ProxyOperator.Proofs.Restoration
import ProxyOperator.Proofs.Retries
import ProxyOperator.Proofs.RoundTrips
import ProxyOperator.Proofs.Secrecy
import ProxyOperator.Proofs.ServerLines
import ProxyOperator.Proofs.Servers
import ProxyOperator.Proofs.ServicePorts
import ProxyOperator.Proofs.Sessions
import ProxyOperator.Proofs.Settling
import ProxyOperator.Proofs.SharedFinalizers
import ProxyOperator.Proofs.Sites
import ProxyOperator.Proofs.StaleCopies
import ProxyOperator.Proofs.Standstill
import ProxyOperator.Proofs.StatusPatches
import ProxyOperator.Proofs.StatusWrites
import ProxyOperator.Proofs.Steadiness
import ProxyOperator.Proofs.StreamRestoration
import ProxyOperator.Proofs.Surroundings
import ProxyOperator.Proofs.Targets
import ProxyOperator.Proofs.Tenure
import ProxyOperator.Proofs.TextOrder
import ProxyOperator.Proofs.TokenFreshness
import ProxyOperator.Proofs.UpgradePasses
import ProxyOperator.Proofs.Upgrades
import ProxyOperator.Proofs.UploadHistory
import ProxyOperator.Proofs.Uploads
import ProxyOperator.Proofs.UpstreamOwners
import ProxyOperator.Proofs.UpstreamSets
import ProxyOperator.Proofs.Ways
import ProxyOperator.Proofs.WireRoundTrips
import ProxyOperator.Proofs.Wording
import ProxyOperator.Proofs.Worlds
import ProxyOperator.Reconcile.AccessList
import ProxyOperator.Reconcile.Adoption
import ProxyOperator.Reconcile.Basic
import ProxyOperator.Reconcile.Certificate
import ProxyOperator.Reconcile.Claim
import ProxyOperator.Reconcile.Credentials
import ProxyOperator.Reconcile.HostAccess
import ProxyOperator.Reconcile.HostCertificate
import ProxyOperator.Reconcile.ProxyHost
import ProxyOperator.Reconcile.Resource
import ProxyOperator.Reconcile.Stream
import ProxyOperator.Reconcile.Token
import ProxyOperator.Rehearsal.World
import ProxyOperator.Remote.AccessList
import ProxyOperator.Remote.Certificate
import ProxyOperator.Remote.Host
import ProxyOperator.Remote.Loose
import ProxyOperator.Remote.Request
import ProxyOperator.Remote.Search
import ProxyOperator.Remote.Stream
import ProxyOperator.Resource.AccessList
import ProxyOperator.Resource.Basic
import ProxyOperator.Resource.Certificate
import ProxyOperator.Resource.Condition
import ProxyOperator.Resource.Domain
import ProxyOperator.Resource.Forward
import ProxyOperator.Resource.Metadata
import ProxyOperator.Resource.Problem
import ProxyOperator.Resource.ProxyHost
import ProxyOperator.Resource.Reference
import ProxyOperator.Resource.Stream
import ProxyOperator.Resource.Token
import ProxyOperator.Retry
import ProxyOperator.Settings.Arguments
import ProxyOperator.Settings.Basic
import ProxyOperator.Target
import ProxyOperator.Text.Blank
import ProxyOperator.Text.Dictionary
import ProxyOperator.Text.Quoted
import ProxyOperator.Time.Calendar
import ProxyOperator.Time.Codec
import ProxyOperator.Time.Instant
import ProxyOperator.Time.Reader
import ProxyOperator.Upstream
import ProxyOperator.Watch
import ProxyOperator.Wire.ClusterApi
import ProxyOperator.Wire.Effect
import ProxyOperator.Wire.Method
import ProxyOperator.Wire.Operation
import ProxyOperator.Wire.Recorder
import ProxyOperator.Wire.RemoteApi
import ProxyOperator.Wire.Status
