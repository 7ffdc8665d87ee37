import ClusterNode.Event

/-!
# Events as JSON records

The form in which an observer sees an event, and in which one is put on the bus
from outside: its kind, its description and its members by name.
-/

namespace ClusterNode

namespace Event

/-- The members of an event. -/
def payload : Event → List (Option (String × Json))
  | .configFileUpdated path filename =>
    [Json.member "path" path, Json.member "filename" filename]
  | .configFileRemoved path filename =>
    [Json.member "path" path, Json.member "filename" filename]
  | .clusterConfigUpdated node value => [Json.member "node" node, Json.member "value" value]
  | .configUpdated path node value =>
    [Json.member "path" path, Json.member "node" node, Json.member "value" value,
      Json.member "value_nodename" value.nodename]
  | .configDeleted path node => [Json.member "path" path, Json.member "node" node]
  | .instanceStatusUpdated path node value =>
    [Json.member "path" path, Json.member "node" node, Json.member "value" value]
  | .instanceStatusDeleted path node => [Json.member "path" path, Json.member "node" node]
  | .instanceMonitorUpdated path node value =>
    [Json.member "path" path, Json.member "node" node, Json.member "value" value]
  | .instanceMonitorDeleted path node => [Json.member "path" path, Json.member "node" node]
  | .setInstanceMonitor path node value =>
    [Json.member "path" path, Json.member "node" node, Json.member "value" value]
  | .aggregateUpdated path value source =>
    [Json.member "path" path, Json.member "value" value,
      some ("src_event", source.elim .null .str)]
  | .aggregateDeleted path => [Json.member "path" path]
  | .streamUpdated node stream before after =>
    [Json.member "node" node, Json.member "hb_id" stream, Json.member "from" before,
      Json.member "to" after]
  | .modeUpdated node before after joined =>
    [Json.member "node" node, Json.member "from" before, Json.member "to" after,
      Json.member "joined_nodes" joined]
  | .resyncRequested node lastApplied received =>
    [Json.member "node" node, Json.member "last_applied" lastApplied,
      Json.member "received" received]

/-- The record of an event. -/
def toRecord (e : Event) : Json :=
  Json.members (Json.member "kind" e.kind.name :: Json.member "describe" e.describe :: e.payload)

/-- Why a record is no event. -/
inductive RecordError where
  | unknownKind
  | path (error : PathError)
  | value
  deriving DecidableEq, Repr

/-- A member of a record. -/
def member {α : Type} [Wire α] (v : Json) (name : String) : Except RecordError α :=
  match (v.get? name).bind (ofJson? .direct) with
  | some x => .ok x
  | none => .error .value

/-- A text of a record, empty if it is missing. -/
def text (v : Json) (name : String) : String :=
  match v.get? name with
  | some (.str s) => s
  | _ => ""

/-- The object of a record. -/
def objectPath (v : Json) : Except RecordError ObjectPath :=
  (ObjectPath.parse (text v "path")).mapError .path

/-- The event of a record. -/
def ofRecord (v : Json) : Except RecordError Event :=
  match EventKind.ofName? (text v "kind") with
  | none => .error .unknownKind
  | some kind =>
    let node := text v "node"
    match kind with
    | .configFileUpdated => do .ok (.configFileUpdated (← objectPath v) (text v "filename"))
    | .configFileRemoved => do .ok (.configFileRemoved (← objectPath v) (text v "filename"))
    | .clusterConfigUpdated => do .ok (.clusterConfigUpdated node (← member v "value"))
    | .configUpdated => do .ok (.configUpdated (← objectPath v) node (← member v "value"))
    | .configDeleted => do .ok (.configDeleted (← objectPath v) node)
    | .instanceStatusUpdated => do
      .ok (.instanceStatusUpdated (← objectPath v) node (← member v "value"))
    | .instanceStatusDeleted => do .ok (.instanceStatusDeleted (← objectPath v) node)
    | .instanceMonitorUpdated => do
      .ok (.instanceMonitorUpdated (← objectPath v) node (← member v "value"))
    | .instanceMonitorDeleted => do .ok (.instanceMonitorDeleted (← objectPath v) node)
    | .setInstanceMonitor => do
      .ok (.setInstanceMonitor (← objectPath v) node (← member v "value"))
    | .aggregateUpdated => do
      let source := match v.get? "src_event" with
        | some (.str s) => some s
        | _ => none
      .ok (.aggregateUpdated (← objectPath v) (← member v "value") source)
    | .aggregateDeleted => do .ok (.aggregateDeleted (← objectPath v))
    | .streamUpdated => do
      .ok (.streamUpdated node (text v "hb_id") (← member v "from") (← member v "to"))
    | .modeUpdated => do
      .ok (.modeUpdated node (← member v "from") (← member v "to") (← member v "joined_nodes"))
    | .resyncRequested => do
      .ok (.resyncRequested node (← member v "last_applied") (← member v "received"))

end Event

namespace Label

/-- The record of a label: its key and its value. -/
def toRecord (l : Label) : Json := .arr [.str l.key, .str l.value]

/-- The label of a record. -/
def ofRecord? : Json → Option Label
  | .arr [.str key, .str value] => some ⟨key, value⟩
  | _ => none

end Label

/-- The record of a publication. -/
def Publication.toRecord (p : Publication) : Json :=
  .obj [("event", p.event.toRecord), ("labels", .arr (p.labels.map Label.toRecord))]

end ClusterNode
