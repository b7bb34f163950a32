import ShardOperator.Api.Call
import ShardOperator.Api.Reply
import ShardOperator.Api.Request
import ShardOperator.Api.WatchLine
import ShardOperator.CommandLine.Arguments
import ShardOperator.CommandLine.FileTree
import ShardOperator.CommandLine.Launch
import ShardOperator.CommandLine.LogFilter
import ShardOperator.Config.Access
import ShardOperator.Config.Document
import ShardOperator.Config.HostDefaults
import ShardOperator.Config.Operator
import ShardOperator.Data.Der
import ShardOperator.Data.SortedMap
import ShardOperator.Data.Table
import ShardOperator.Declaration.Installation
import ShardOperator.Declaration.Layout
import ShardOperator.Declaration.Manifest
import ShardOperator.Declaration.Records
import ShardOperator.Declaration.Schema
import ShardOperator.Declaration.Status
import ShardOperator.Declaration.TemplateNames
import ShardOperator.Declaration.Templates
import ShardOperator.Desired.Blueprint
import ShardOperator.Desired.Budgets
import ShardOperator.Desired.Claims
import ShardOperator.Desired.ConfigMaps
import ShardOperator.Desired.Containers
import ShardOperator.Desired.Labels
import ShardOperator.Desired.Names
import ShardOperator.Desired.Services
import ShardOperator.Desired.Version
import ShardOperator.Desired.Workloads
import ShardOperator.Digest.Sha256
import ShardOperator.Error
import ShardOperator.Files.Exclusion
import ShardOperator.Files.Flavour
import ShardOperator.Files.KeeperFiles
import ShardOperator.Files.PeerList
import ShardOperator.Files.ServerFiles
import ShardOperator.Files.SettingTree
import ShardOperator.Files.Xml
import ShardOperator.Http.Status
import ShardOperator.Http.Target
import ShardOperator.Json.Basic
import ShardOperator.Json.Fields
import ShardOperator.Json.MergePatch
import ShardOperator.Json.Parts
import ShardOperator.Json.Pointer
import ShardOperator.Json.Reader
import ShardOperator.Json.Writer
import ShardOperator.Main
import ShardOperator.Number.Double
import ShardOperator.Number.Shortest
import ShardOperator.Pattern.Basic
import ShardOperator.Pattern.Reader
import ShardOperator.Platform.Call
import ShardOperator.Platform.Metadata
import ShardOperator.Platform.Pod
import ShardOperator.Platform.Port
import ShardOperator.Platform.Resource
import ShardOperator.Platform.Service
import ShardOperator.Platform.StatefulSet
import ShardOperator.Proofs.Data.Lookup
import ShardOperator.Proofs.Declaration.Records
import ShardOperator.Proofs.Declaration.RoundTrip
import ShardOperator.Proofs.Declaration.StatusWrites
import ShardOperator.Proofs.Desired.Additions
import ShardOperator.Proofs.Desired.Belonging
import ShardOperator.Proofs.Desired.Built
import ShardOperator.Proofs.Desired.Claiming
import ShardOperator.Proofs.Desired.Drafts
import ShardOperator.Proofs.Desired.Flagged
import ShardOperator.Proofs.Desired.ObjectNames
import ShardOperator.Proofs.Desired.Objects
import ShardOperator.Proofs.Desired.PodValidity
import ShardOperator.Proofs.Desired.Selection
import ShardOperator.Proofs.Desired.ServicePorts
import ShardOperator.Proofs.Desired.SharedNames
import ShardOperator.Proofs.Desired.Stopping
import ShardOperator.Proofs.Desired.Versions
import ShardOperator.Proofs.Files.Listing
import ShardOperator.Proofs.Files.Peers
import ShardOperator.Proofs.Files.Precedence
import ShardOperator.Proofs.Files.Rendering
import ShardOperator.Proofs.Files.SectionNames
import ShardOperator.Proofs.Files.ServerIds
import ShardOperator.Proofs.Json.Merging
import ShardOperator.Proofs.Json.ReadBack
import ShardOperator.Proofs.Migration.Metadata
import ShardOperator.Proofs.Migration.NodePorts
import ShardOperator.Proofs.Migration.Services
import ShardOperator.Proofs.Program.Dialogue
import ShardOperator.Proofs.Program.Path
import ShardOperator.Proofs.Program.Reading
import ShardOperator.Proofs.Reconcile.Accounting
import ShardOperator.Proofs.Reconcile.Attempts
import ShardOperator.Proofs.Reconcile.Bracketing
import ShardOperator.Proofs.Reconcile.Convergence
import ShardOperator.Proofs.Reconcile.Converging
import ShardOperator.Proofs.Reconcile.Courses
import ShardOperator.Proofs.Reconcile.Growth
import ShardOperator.Proofs.Reconcile.History
import ShardOperator.Proofs.Reconcile.Idempotence
import ShardOperator.Proofs.Reconcile.Idle
import ShardOperator.Proofs.Reconcile.Ledger
import ShardOperator.Proofs.Reconcile.Ownership
import ShardOperator.Proofs.Reconcile.Peering
import ShardOperator.Proofs.Reconcile.Removal
import ShardOperator.Proofs.Reconcile.Requests
import ShardOperator.Proofs.Reconcile.Stages
import ShardOperator.Proofs.Reconcile.Success
import ShardOperator.Proofs.Reconcile.Sweeping
import ShardOperator.Proofs.Settings.Overlay
import ShardOperator.Proofs.Settings.Spelling
import ShardOperator.Proofs.Simulation.Crew
import ShardOperator.Proofs.Sql.WrittenRows
import ShardOperator.Proofs.Stores.Effects
import ShardOperator.Proofs.Stores.Serving
import ShardOperator.Proofs.Text.Pieces
import ShardOperator.Proofs.Topology.Acceptance
import ShardOperator.Proofs.Topology.Alignment
import ShardOperator.Proofs.Topology.Extents
import ShardOperator.Proofs.Topology.Growth
import ShardOperator.Proofs.Topology.Inheritance
import ShardOperator.Proofs.Topology.Laying
import ShardOperator.Proofs.Topology.Matrix
import ShardOperator.Proofs.Topology.Naming
import ShardOperator.Proofs.Topology.Placement
import ShardOperator.Proofs.Topology.Walks
import ShardOperator.Proofs.Work.Exclusion
import ShardOperator.Proofs.Work.Handover
import ShardOperator.Proofs.Work.Order
import ShardOperator.Proofs.Work.Relist
import ShardOperator.Proofs.Work.Timers
import ShardOperator.Reconcile.Hosts
import ShardOperator.Reconcile.Migration
import ShardOperator.Reconcile.Object
import ShardOperator.Reconcile.Observation
import ShardOperator.Reconcile.Pass
import ShardOperator.Reconcile.Program
import ShardOperator.Reconcile.Report
import ShardOperator.Reconcile.Shared
import ShardOperator.Reconcile.Sweep
import ShardOperator.Settings.Basic
import ShardOperator.Settings.Path
import ShardOperator.Settings.Value
import ShardOperator.Simulation.Crew
import ShardOperator.Simulation.ObjectStore
import ShardOperator.Simulation.Run
import ShardOperator.Simulation.Stores
import ShardOperator.Simulation.Watching
import ShardOperator.Simulation.World
import ShardOperator.Sql.Certificate
import ShardOperator.Sql.Connection
import ShardOperator.Sql.Endpoint
import ShardOperator.Sql.Pool
import ShardOperator.Sql.TabSeparated
import ShardOperator.Text.Alphanumeric
import ShardOperator.Text.Armor
import ShardOperator.Text.Base64
import ShardOperator.Text.Blank
import ShardOperator.Text.Hidden
import ShardOperator.Text.Pieces
import ShardOperator.Time.Duration
import ShardOperator.Time.Timestamp
import ShardOperator.Topology.Cluster
import ShardOperator.Topology.Host
import ShardOperator.Topology.Installation
import ShardOperator.Topology.Normal
import ShardOperator.Topology.Walk
import ShardOperator.View.Api
import ShardOperator.View.Error
import ShardOperator.View.Launch
import ShardOperator.View.Names
import ShardOperator.View.Pass
import ShardOperator.View.Sql
import ShardOperator.View.Topology
import ShardOperator.Work.Cache
import ShardOperator.Work.Queue
import ShardOperator.Work.Requeue
import ShardOperator.Work.Waiting
import ShardOperator.Work.Watch
import ShardOperator.Yaml.Basic
import ShardOperator.Yaml.Cursor
import ShardOperator.Yaml.Lexer
import ShardOperator.Yaml.Reader
import ShardOperator.Yaml.Scalar
import ShardOperator.Yaml.Token
