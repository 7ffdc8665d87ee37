import ClusterNode.Cluster.Tree
import ClusterNode.Object.Path

/-!
# Events

What the parts of a node tell each other. An event is published with labels, by
which a subscriber chooses what it gets; a `Publication` is both together.
-/

namespace ClusterNode

/-- The kinds of events. -/
inductive EventKind where
  | configFileUpdated
  | configFileRemoved
  | clusterConfigUpdated
  | configUpdated
  | configDeleted
  | instanceStatusUpdated
  | instanceStatusDeleted
  | instanceMonitorUpdated
  | instanceMonitorDeleted
  | setInstanceMonitor
  | aggregateUpdated
  | aggregateDeleted
  | streamUpdated
  | modeUpdated
  | resyncRequested
  deriving DecidableEq, Repr

namespace EventKind

/-- The written form of a kind. -/
def name : EventKind → String
  | .configFileUpdated => "CfgFileUpdated"
  | .configFileRemoved => "CfgFileRemoved"
  | .clusterConfigUpdated => "ClusterConfigUpdated"
  | .configUpdated => "ConfigUpdated"
  | .configDeleted => "ConfigDeleted"
  | .instanceStatusUpdated => "InstanceStatusUpdated"
  | .instanceStatusDeleted => "InstanceStatusDeleted"
  | .instanceMonitorUpdated => "InstanceMonitorUpdated"
  | .instanceMonitorDeleted => "InstanceMonitorDeleted"
  | .setInstanceMonitor => "SetInstanceMonitor"
  | .aggregateUpdated => "ObjectAggUpdated"
  | .aggregateDeleted => "ObjectAggDeleted"
  | .streamUpdated => "HbStatusUpdated"
  | .modeUpdated => "HbModeUpdated"
  | .resyncRequested => "FullResyncRequested"

/-- Every kind. -/
def all : List EventKind :=
  [.configFileUpdated, .configFileRemoved, .clusterConfigUpdated, .configUpdated,
    .configDeleted, .instanceStatusUpdated, .instanceStatusDeleted, .instanceMonitorUpdated,
    .instanceMonitorDeleted, .setInstanceMonitor, .aggregateUpdated, .aggregateDeleted,
    .streamUpdated, .modeUpdated, .resyncRequested]

/-- The kind of a written form. -/
def ofName? (s : String) : Option EventKind := all.find? (·.name == s)

end EventKind

/-- Something that happened on a node, or is asked of it. -/
inductive Event where
  /-- A local configuration file was created or modified. -/
  | configFileUpdated (path : ObjectPath) (filename : String)
  /-- A local configuration file disappeared. -/
  | configFileRemoved (path : ObjectPath) (filename : String)
  /-- The cluster configuration of a node changed. -/
  | clusterConfigUpdated (node : String) (value : ClusterConfig)
  | configUpdated (path : ObjectPath) (node : String) (value : InstanceConfig)
  | configDeleted (path : ObjectPath) (node : String)
  | instanceStatusUpdated (path : ObjectPath) (node : String) (value : InstanceStatus)
  | instanceStatusDeleted (path : ObjectPath) (node : String)
  | instanceMonitorUpdated (path : ObjectPath) (node : String) (value : InstanceMonitor)
  | instanceMonitorDeleted (path : ObjectPath) (node : String)
  /-- A change of an instance monitor is asked for. -/
  | setInstanceMonitor (path : ObjectPath) (node : String) (value : MonitorUpdate)
  /-- The aggregate of an object was computed anew, because of the event described. -/
  | aggregateUpdated (path : ObjectPath) (value : ObjectStatus) (source : Option String)
  | aggregateDeleted (path : ObjectPath)
  /-- A heartbeat stream of a peer changed its state. -/
  | streamUpdated (node stream : String) (before after : PeerState)
  /-- A peer changed its mode; the nodes now in patch mode are listed. -/
  | modeUpdated (node : String) (before after : PeerMode) (joined : List String)
  /-- The changes received from a node do not follow what was applied. -/
  | resyncRequested (node : String) (lastApplied received : Generation)
  deriving DecidableEq

namespace Event

/-- The kind of an event. -/
def kind : Event → EventKind
  | .configFileUpdated .. => .configFileUpdated
  | .configFileRemoved .. => .configFileRemoved
  | .clusterConfigUpdated .. => .clusterConfigUpdated
  | .configUpdated .. => .configUpdated
  | .configDeleted .. => .configDeleted
  | .instanceStatusUpdated .. => .instanceStatusUpdated
  | .instanceStatusDeleted .. => .instanceStatusDeleted
  | .instanceMonitorUpdated .. => .instanceMonitorUpdated
  | .instanceMonitorDeleted .. => .instanceMonitorDeleted
  | .setInstanceMonitor .. => .setInstanceMonitor
  | .aggregateUpdated .. => .aggregateUpdated
  | .aggregateDeleted .. => .aggregateDeleted
  | .streamUpdated .. => .streamUpdated
  | .modeUpdated .. => .modeUpdated
  | .resyncRequested .. => .resyncRequested

/-- The node of an event about an instance. -/
def instanceNode? : Event → Option String
  | .configUpdated _ node _ => some node
  | .configDeleted _ node => some node
  | .instanceStatusUpdated _ node _ => some node
  | .instanceStatusDeleted _ node => some node
  | .instanceMonitorUpdated _ node _ => some node
  | .instanceMonitorDeleted _ node => some node
  | .setInstanceMonitor _ node _ => some node
  | _ => none

/-- The kind of an event, and its node if it is about an instance. -/
def describe (e : Event) : String :=
  match e.instanceNode? with
  | some node => e.kind.name ++ "@" ++ node
  | none => e.kind.name

/-- The object and the node of an event, as far as it has them. -/
def subject : Event → Option ObjectPath × Option String
  | .configFileUpdated path _ => (some path, none)
  | .configFileRemoved path _ => (some path, none)
  | .clusterConfigUpdated node _ => (none, some node)
  | .configUpdated path node _ => (some path, some node)
  | .configDeleted path node => (some path, some node)
  | .instanceStatusUpdated path node _ => (some path, some node)
  | .instanceStatusDeleted path node => (some path, some node)
  | .instanceMonitorUpdated path node _ => (some path, some node)
  | .instanceMonitorDeleted path node => (some path, some node)
  | .setInstanceMonitor path node _ => (some path, some node)
  | .aggregateUpdated path _ _ => (some path, none)
  | .aggregateDeleted path => (some path, none)
  | .streamUpdated node .. => (none, some node)
  | .modeUpdated node .. => (none, some node)
  | .resyncRequested node .. => (none, some node)

end Event

/-- A key and a value attached to a publication. -/
structure Label where
  key : String
  value : String
  deriving DecidableEq, Repr

/-- The label of an object. -/
def Label.path (p : ObjectPath) : Label := ⟨"path", p.toString⟩

/-- The label of a node. -/
def Label.node (node : String) : Label := ⟨"node", node⟩

/-- An event and the labels that it is published with. -/
structure Publication where
  event : Event
  labels : List Label
  deriving DecidableEq

namespace Publication

/-- An event about an object, labelled with it. -/
def ofPath (e : Event) (p : ObjectPath) : Publication := ⟨e, [.path p]⟩

/-- An event about a node, labelled with it. -/
def ofNode (e : Event) (node : String) : Publication := ⟨e, [.node node]⟩

/-- An event about an instance, labelled with its object and its node. -/
def ofInstance (e : Event) (p : ObjectPath) (node : String) : Publication :=
  ⟨e, [.path p, .node node]⟩

end Publication

end ClusterNode
