import ClusterNode.Bus
import ClusterNode.Bytes
import ClusterNode.Cluster.Aggregate
import ClusterNode.Cluster.Filter
import ClusterNode.Cluster.StreamKey
import ClusterNode.Cluster.Tree
import ClusterNode.Codec.Base64
import ClusterNode.CommandLine
import ClusterNode.Crypto.Aes256
import ClusterNode.Crypto.Gcm
import ClusterNode.Crypto.Md5
import ClusterNode.Crypto.Sha256
import ClusterNode.Daemon.AggregatorSteps
import ClusterNode.Daemon.CoordinatorSteps
import ClusterNode.Daemon.Files
import ClusterNode.Daemon.MonitorSteps
import ClusterNode.Daemon.Routes
import ClusterNode.Daemon.Schedule
import ClusterNode.Daemon.State
import ClusterNode.Daemon.WatcherSteps
import ClusterNode.Event
import ClusterNode.Event.Record
import ClusterNode.Heartbeat.Envelope
import ClusterNode.Heartbeat.Fragment
import ClusterNode.Heartbeat.Manager
import ClusterNode.Heartbeat.PeerTable
import ClusterNode.Heartbeat.Reassembler
import ClusterNode.Http.MediaType
import ClusterNode.Http.ObjectRequest
import ClusterNode.Http.Request
import ClusterNode.Http.Target
import ClusterNode.Json.Number
import ClusterNode.Json.Reader
import ClusterNode.Json.Value
import ClusterNode.Json.Wire
import ClusterNode.Json.Writer
import ClusterNode.Main
import ClusterNode.Number.Digits
import ClusterNode.Number.Double
import ClusterNode.Object.Instance
import ClusterNode.Object.Path
import ClusterNode.Object.Status
import ClusterNode.Proofs.Replication.Acknowledgement
import ClusterNode.Proofs.Replication.Archive
import ClusterNode.Proofs.Replication.Exchange
import ClusterNode.Proofs.Replication.History
import ClusterNode.Proofs.Replication.Operations
import ClusterNode.Proofs.Replication.Queue
import ClusterNode.Proofs.Replication.Restart
import ClusterNode.Proofs.Replication.Run
import ClusterNode.Proofs.Replication.Subtree
import ClusterNode.Proofs.SortedMap
import ClusterNode.Replication.Difference
import ClusterNode.Replication.Group
import ClusterNode.Replication.Message
import ClusterNode.Replication.Mutation
import ClusterNode.Replication.Replica
import ClusterNode.RequestError
import ClusterNode.Scope
import ClusterNode.Settings.Ini
import ClusterNode.Settings.Json
import ClusterNode.Settings.Json5
import ClusterNode.Settings.Node
import ClusterNode.Settings.Record
import ClusterNode.Settings.Ron
import ClusterNode.Settings.Start
import ClusterNode.Settings.Setting
import ClusterNode.Settings.Toml
import ClusterNode.Settings.Yaml
import ClusterNode.Settings.Yaml.Cursor
import ClusterNode.Settings.Yaml.Node
import ClusterNode.Settings.Yaml.Scalar
import ClusterNode.Settings.Yaml.Tag
import ClusterNode.Settings.Yaml.Token
import ClusterNode.SortedMap
import ClusterNode.Text.Blank
import ClusterNode.Text.Expression
import ClusterNode.Text.Glob
import ClusterNode.Text.Identifier
import ClusterNode.Text.Lossy
import ClusterNode.Text.Quoted
import ClusterNode.Text.Unprintable
import ClusterNode.Time.Rfc3339
import ClusterNode.Time.Timestamp
import ClusterNode.Proofs.Bus
import ClusterNode.Proofs.Daemon.Hearing
import ClusterNode.Proofs.Daemon.Ownership
import ClusterNode.Proofs.Daemon.Bystanders
import ClusterNode.Proofs.Daemon.WatcherMoves
import ClusterNode.Proofs.Daemon.CoordinatorMoves
import ClusterNode.Proofs.Daemon.Scans
import ClusterNode.Proofs.Daemon.Run
import ClusterNode.Proofs.Daemon.Roster
import ClusterNode.Proofs.Daemon.Listening
import ClusterNode.Proofs.Daemon.Membership
import ClusterNode.Proofs.Daemon.Neglect
import ClusterNode.Proofs.Daemon.Attention
import ClusterNode.Proofs.Daemon.Attendance
import ClusterNode.Proofs.Daemon.Coverage
import ClusterNode.Proofs.Daemon.Discovery
import ClusterNode.Proofs.Replication.Records
import ClusterNode.Proofs.Replication.Telling
import ClusterNode.Proofs.Daemon.Chronicle
import ClusterNode.Proofs.Daemon.AggregatorMoves
import ClusterNode.Proofs.Daemon.StaffMoves
import ClusterNode.Proofs.Daemon.Life
import ClusterNode.Proofs.Replication.Facet
import ClusterNode.Proofs.Daemon.Tracking
import ClusterNode.Proofs.Daemon.Entries
import ClusterNode.Proofs.Daemon.Upkeep
import ClusterNode.Proofs.Daemon.Adoption
import ClusterNode.Proofs.Daemon.Freshness
import ClusterNode.Proofs.Replication.Course
import ClusterNode.Proofs.Replication.Supply
import ClusterNode.Proofs.Replication.Fence
import ClusterNode.Proofs.Replication.Separation
import ClusterNode.Proofs.Replication.RecordForm
import ClusterNode.Proofs.Bus.Delivery
import ClusterNode.Proofs.Heartbeat.Fragments
import ClusterNode.Proofs.Heartbeat.Reassembly
import ClusterNode.Proofs.Replication.Announcement
import ClusterNode.Proofs.Daemon.OwnRecords
import ClusterNode.Proofs.Daemon.RecordKeepers
import ClusterNode.Proofs.Daemon.Leftovers
import ClusterNode.Proofs.Number.Digits
import ClusterNode.Proofs.Json.Text
import ClusterNode.Proofs.Object.Path
import ClusterNode.Proofs.Json.Record
import ClusterNode.Proofs.Time.Rfc3339
import ClusterNode.Proofs.Object.Instance
import ClusterNode.Proofs.Replication.Wire
import ClusterNode.Proofs.Heartbeat.PeerModes
import ClusterNode.Proofs.Codec.Base64
import ClusterNode.Proofs.Crypto.Gcm
import ClusterNode.Proofs.Heartbeat.Sealing
import ClusterNode.Proofs.Replication.OwnChange
import ClusterNode.Proofs.Replication.HeartbeatSection
import ClusterNode.Proofs.Daemon.Crews
import ClusterNode.Proofs.Daemon.CrewSteps
import ClusterNode.Proofs.Daemon.SoleWorkers
import ClusterNode.Proofs.Daemon.Evaluation
import ClusterNode.Proofs.Daemon.WatcherRuns
import ClusterNode.Proofs.Daemon.ConfigRecords
import ClusterNode.Proofs.Daemon.CurrentConfigs
import ClusterNode.Proofs.Cluster.Aggregate
import ClusterNode.Proofs.Heartbeat.StreamLiveness
import ClusterNode.Proofs.Since
import ClusterNode.Proofs.Json.Size
import ClusterNode.Proofs.Heartbeat.Datagrams
import ClusterNode.Proofs.Heartbeat.Reception
import ClusterNode.Proofs.Heartbeat.HostileFragments
import ClusterNode.Proofs.Text.Glob
import ClusterNode.Proofs.Text.Selector
import ClusterNode.Proofs.Cluster.Filter
import ClusterNode.Proofs.Scope
import ClusterNode.Proofs.Settings.Acceptance
