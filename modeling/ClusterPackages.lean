import ClusterPackages.Action
import ClusterPackages.Catalog.Artifact
import ClusterPackages.Catalog.Index
import ClusterPackages.Catalog.Keyspace
import ClusterPackages.Catalog.Package
import ClusterPackages.Catalog.Repository
import ClusterPackages.Catalog.Resolve
import ClusterPackages.Cluster.App
import ClusterPackages.Cluster.Call
import ClusterPackages.Cluster.Ensemble
import ClusterPackages.Cluster.NodeTree
import ClusterPackages.Cluster.Services
import ClusterPackages.Cluster.State
import ClusterPackages.Cluster.Subtree
import ClusterPackages.Cluster.World
import ClusterPackages.CommandLine.Grammar
import ClusterPackages.CommandLine.Invocation
import ClusterPackages.CommandLine.Page
import ClusterPackages.CommandLine.Read
import ClusterPackages.CommandLine.Run
import ClusterPackages.Config.Definition
import ClusterPackages.Config.Merge
import ClusterPackages.Config.Platform
import ClusterPackages.Config.Schema
import ClusterPackages.Decimal.Binary64
import ClusterPackages.Decimal.Shortest
import ClusterPackages.Decimal.Text
import ClusterPackages.Deploy.Cleanup
import ClusterPackages.Deploy.Discovery
import ClusterPackages.Deploy.Install
import ClusterPackages.Deploy.Manager
import ClusterPackages.Deploy.Provenance
import ClusterPackages.Deploy.Queue
import ClusterPackages.Deploy.Request
import ClusterPackages.Deploy.Uninstall
import ClusterPackages.Error
import ClusterPackages.Http.Endpoint
import ClusterPackages.Http.Form
import ClusterPackages.Http.Message
import ClusterPackages.Http.Phrase
import ClusterPackages.Http.Replay
import ClusterPackages.Http.Wire
import ClusterPackages.Json.Basic
import ClusterPackages.Json.Document
import ClusterPackages.Json.Numeral
import ClusterPackages.Json.Read
import ClusterPackages.Json.Record
import ClusterPackages.Json.Write
import ClusterPackages.Main
import ClusterPackages.Remote.Resources
import ClusterPackages.Remote.Scheduler
import ClusterPackages.Remote.Store
import ClusterPackages.Settings.Basic
import ClusterPackages.Settings.Read
import ClusterPackages.Settings.Secret
import ClusterPackages.Table
import ClusterPackages.Template.Node
import ClusterPackages.Template.Parse
import ClusterPackages.Template.Piece
import ClusterPackages.Template.Render
import ClusterPackages.Text.Affix
import ClusterPackages.Text.Base64
import ClusterPackages.Text.Blank
import ClusterPackages.Text.Case
import ClusterPackages.Text.CaseTable
import ClusterPackages.Text.Compose
import ClusterPackages.Text.ComposeTable
import ClusterPackages.Text.Digit
import ClusterPackages.Text.Points
import ClusterPackages.Text.Utf8
import ClusterPackages.Text.Visible
import ClusterPackages.Time.Date
import ClusterPackages.Time.Instant
import ClusterPackages.Time.Read
import ClusterPackages.Toml.Basic
import ClusterPackages.Toml.Number
import ClusterPackages.Toml.Read
import ClusterPackages.Toml.Record
import ClusterPackages.Toml.Scan
import ClusterPackages.Toml.Tree
import ClusterPackages.Url.Basic
import ClusterPackages.Url.Domain.Form
import ClusterPackages.Url.Domain.FormTable
import ClusterPackages.Url.Domain.Label
import ClusterPackages.Url.Domain.LabelTable
import ClusterPackages.Url.Domain.Name
import ClusterPackages.Url.Host
import ClusterPackages.Url.Ip
import ClusterPackages.Url.Percent
import ClusterPackages.Url.Punycode
import ClusterPackages.Url.Read
import ClusterPackages.Url.Service
import ClusterPackages.Proofs.Action
import ClusterPackages.Proofs.Catalog.Addressing
import ClusterPackages.Proofs.Catalog.Composition
import ClusterPackages.Proofs.Catalog.CurrentVersion
import ClusterPackages.Proofs.Catalog.Directories
import ClusterPackages.Proofs.Catalog.Extent
import ClusterPackages.Proofs.Catalog.Keyspace
import ClusterPackages.Proofs.Catalog.Listing
import ClusterPackages.Proofs.Catalog.Offers
import ClusterPackages.Proofs.Catalog.Precedence
import ClusterPackages.Proofs.Catalog.Reads
import ClusterPackages.Proofs.Catalog.Recency
import ClusterPackages.Proofs.Catalog.Repositories
import ClusterPackages.Proofs.Catalog.Resolution
import ClusterPackages.Proofs.Catalog.Snapshot
import ClusterPackages.Proofs.Catalog.Support
import ClusterPackages.Proofs.Catalog.Visibility
import ClusterPackages.Proofs.Cluster.App
import ClusterPackages.Proofs.Cluster.Ensemble
import ClusterPackages.Proofs.Cluster.NodeTree
import ClusterPackages.Proofs.Cluster.Subtree
import ClusterPackages.Proofs.Cluster.SubtreeRemoval
import ClusterPackages.Proofs.Cluster.Traversal
import ClusterPackages.Proofs.Cluster.World
import ClusterPackages.Proofs.Config.Declarations
import ClusterPackages.Proofs.Config.Integers
import ClusterPackages.Proofs.Config.Layers
import ClusterPackages.Proofs.Config.Manifest
import ClusterPackages.Proofs.Config.Merge
import ClusterPackages.Proofs.Config.Pointwise
import ClusterPackages.Proofs.Config.Repetition
import ClusterPackages.Proofs.Config.Sections
import ClusterPackages.Proofs.Config.Substitution
import ClusterPackages.Proofs.Decimal.Rounding
import ClusterPackages.Proofs.Deploy.CarriedSteps
import ClusterPackages.Proofs.Deploy.ClearedNodes
import ClusterPackages.Proofs.Deploy.Clearing
import ClusterPackages.Proofs.Deploy.FrameworkName
import ClusterPackages.Proofs.Deploy.Frameworks
import ClusterPackages.Proofs.Deploy.Installation
import ClusterPackages.Proofs.Deploy.Labelling
import ClusterPackages.Proofs.Deploy.Polling
import ClusterPackages.Proofs.Deploy.Provenance
import ClusterPackages.Proofs.Deploy.Queueing
import ClusterPackages.Proofs.Deploy.Recomputation
import ClusterPackages.Proofs.Deploy.Removal
import ClusterPackages.Proofs.Deploy.Request
import ClusterPackages.Proofs.Deploy.Retries
import ClusterPackages.Proofs.Deploy.RoundTrip
import ClusterPackages.Proofs.Deploy.Session
import ClusterPackages.Proofs.Json.Record
import ClusterPackages.Proofs.Json.RoundTrip
import ClusterPackages.Proofs.Json.Spelling
import ClusterPackages.Proofs.Remote.Keys
import ClusterPackages.Proofs.Table
import ClusterPackages.Proofs.Template.Concatenation
import ClusterPackages.Proofs.Template.Errors
import ClusterPackages.Proofs.Template.Grammar
import ClusterPackages.Proofs.Template.Leaves
import ClusterPackages.Proofs.Template.Lookups
import ClusterPackages.Proofs.Template.Piece
import ClusterPackages.Proofs.Text.Affix
import ClusterPackages.Proofs.Text.Base64
import ClusterPackages.Proofs.Text.Blank
import ClusterPackages.Proofs.Text.Digit
import ClusterPackages.Proofs.Text.Order
import ClusterPackages.Proofs.Text.Utf8
import ClusterPackages.Proofs.Text.Word
import ClusterPackages.Proofs.Time.Date
import ClusterPackages.Proofs.Time.Scan
import ClusterPackages.Proofs.Time.UnixDate
import ClusterPackages.Proofs.Url.Path
import ClusterPackages.Proofs.Url.Percent
import ClusterPackages.Proofs.Url.Reference
