import ClusterNode.Object.Instance

/-!
# The cluster tree

Everything a node knows: the membership of the cluster, the state of the node
itself, what every node says of its instances, and the aggregated status of every
object. Instances and objects are keyed by written object paths.
-/

namespace ClusterNode

/-- The number of a change of a node's own records. -/
abbrev Generation := UInt64

/-- The last generation applied per node; zero asks for everything. -/
abbrev GenerationTable := SortedMap String Generation

/-- The name and the members of the cluster. -/
structure ClusterConfig where
  name : String
  nodes : List String
  deriving DecidableEq, Repr, Inhabited

instance : Wire ClusterConfig where
  toJson c := Json.members [Json.member "name" c.name, Json.member "nodes" c.nodes]
  ofJson? r v := do
    let [name, nodes] ← v.record? ["name", "nodes"] | none
    some { name := ← Json.required r name, nodes := ← Json.required r nodes }

/-- Whether a stream from or to a peer is alive. -/
inductive PeerState where
  | unknown
  | alive
  | stale
  deriving DecidableEq, Repr, Inhabited

namespace PeerState

/-- The written form of a peer state. -/
def name : PeerState → String
  | .unknown => "unknown"
  | .alive => "alive"
  | .stale => "stale"

/-- Every peer state. -/
def all : List PeerState := [.unknown, .alive, .stale]

instance : Wire PeerState where
  toJson s := .str s.name
  ofJson? := Json.enumeration? all name

end PeerState

/-- Whether a peer is sent changes, or everything until it is known to apply them. -/
inductive PeerMode where
  | full
  | patch
  deriving DecidableEq, Repr, Inhabited

namespace PeerMode

/-- The written form of a peer mode. -/
def name : PeerMode → String
  | .full => "full"
  | .patch => "patch"

/-- Every peer mode. -/
def all : List PeerMode := [.full, .patch]

instance : Wire PeerMode where
  toJson s := .str s.name
  ofJson? := Json.enumeration? all name

end PeerMode

/-- The state of one heartbeat stream of one peer. -/
structure HeartbeatStream where
  id : String
  node : String
  state : PeerState
  lastSuccess : Option Timestamp
  deriving DecidableEq

instance : Wire HeartbeatStream where
  toJson s := Json.members [
    Json.member "id" s.id, Json.member "node" s.node, Json.member "state" s.state,
    Json.memberOpt "last_success" s.lastSuccess]
  ofJson? r v := do
    let [id, node, state, lastSuccess] ←
      v.record? ["id", "node", "state", "last_success"] | none
    some {
      id := ← Json.required r id
      node := ← Json.required r node
      state := ← Json.required r state
      lastSuccess := ← Json.optional r lastSuccess }

/-- The mode of one peer. -/
structure PeerModeEntry where
  node : String
  mode : PeerMode
  deriving DecidableEq, Repr

instance : Wire PeerModeEntry where
  toJson e := Json.members [Json.member "node" e.node, Json.member "mode" e.mode]
  ofJson? r v := do
    let [node, mode] ← v.record? ["node", "mode"] | none
    some { node := ← Json.required r node, mode := ← Json.required r mode }

/-- The heartbeat streams and peer modes. -/
structure HeartbeatSection where
  streams : List HeartbeatStream
  modes : List PeerModeEntry
  deriving DecidableEq, Inhabited

instance : Wire HeartbeatSection where
  toJson h := Json.members [Json.member "streams" h.streams, Json.member "modes" h.modes]
  ofJson? r v := do
    let [streams, modes] ← v.record? ["streams", "modes"] | none
    some { streams := ← Json.required r streams, modes := ← Json.required r modes }

/-- The state of the node itself. -/
structure DaemonSection where
  nodename : String
  /-- The last generation applied per node; the own entry is the own generation. -/
  gens : GenerationTable
  heartbeat : HeartbeatSection
  deriving DecidableEq, Inhabited

instance : Wire DaemonSection where
  toJson d := Json.members [
    Json.member "nodename" d.nodename, Json.member "gens" d.gens, Json.member "hb" d.heartbeat]
  ofJson? r v := do
    let [nodename, gens, heartbeat] ← v.record? ["nodename", "gens", "hb"] | none
    some {
      nodename := ← Json.required r nodename
      gens := ← Json.required r gens
      heartbeat := ← Json.required r heartbeat }

/-- What one node says of its instances, as of a generation. -/
structure NodeData where
  generation : Generation
  instances : SortedMap String Instance
  deriving DecidableEq, Inhabited

instance : Wire NodeData where
  toJson d := Json.members [
    Json.member "gen" d.generation, Json.member "instances" d.instances]
  ofJson? r v := do
    let [generation, instances] ← v.record? ["gen", "instances"] | none
    some { generation := ← Json.required r generation, instances := ← Json.required r instances }

/-- The section that holds the cluster configuration. -/
structure ClusterSection where
  config : ClusterConfig
  deriving DecidableEq, Repr, Inhabited

instance : Wire ClusterSection where
  toJson c := Json.members [Json.member "config" c.config]
  ofJson? r v := do
    let [config] ← v.record? ["config"] | none
    some { config := ← Json.required r config }

/-- The cluster tree. -/
structure ClusterStatus where
  cluster : ClusterSection
  daemon : DaemonSection
  nodes : SortedMap String NodeData
  objects : SortedMap String ObjectStatus
  deriving DecidableEq, Inhabited

instance : Wire ClusterStatus where
  toJson s := Json.members [
    Json.member "cluster" s.cluster, Json.member "daemon" s.daemon,
    Json.member "nodes" s.nodes, Json.member "objects" s.objects]
  ofJson? r v := do
    let [cluster, daemon, nodes, objects] ←
      v.record? ["cluster", "daemon", "nodes", "objects"] | none
    some {
      cluster := ← Json.required r cluster
      daemon := ← Json.required r daemon
      nodes := ← Json.required r nodes
      objects := ← Json.required r objects }

namespace ClusterStatus

/-- The records of an object on a node. -/
def instance? (s : ClusterStatus) (node path : String) : Option Instance :=
  (s.nodes.get? node).bind (·.instances.get? path)

end ClusterStatus

end ClusterNode
