import ClusterNode.Replication.Mutation

/-!
# Differences between two states of a node

The events that turn what a node said before into what it says now. A key that is
no object path has no events.
-/

namespace ClusterNode

/-- The event for one kind of record: a new or different value, or a lost one. -/
def recordDifference {α : Type} [DecidableEq α] (updated : α → Event) (deleted : Event)
    (before after : Option α) : List Event :=
  match before, after with
  | before, some v => if before = some v then [] else [updated v]
  | some _, none => [deleted]
  | none, none => []

/-- The events of one object: configuration, then status, then monitor. -/
def Instance.difference (node : String) (p : ObjectPath) (before after : Instance) :
    List Publication :=
  (recordDifference (.configUpdated p node) (.configDeleted p node)
      before.config after.config ++
    recordDifference (.instanceStatusUpdated p node) (.instanceStatusDeleted p node)
      before.status after.status ++
    recordDifference (.instanceMonitorUpdated p node) (.instanceMonitorDeleted p node)
      before.monitor after.monitor).map fun e => .ofInstance e p node

namespace NodeData

/-- The keys of either state, in order. -/
def allKeys (before after : NodeData) : List String :=
  (after.instances.keys.foldl (fun (m : SortedMap String Unit) k => m.insert k ())
    (before.instances.mapValues fun _ => ())).keys

/-- The events that turn one state of a node into another, by object. -/
def difference (node : String) (before after : NodeData) : List Publication :=
  (allKeys before after).flatMap fun key =>
    match ObjectPath.parse key with
    | .ok p => (before.instanceD key).difference node p (after.instanceD key)
    | .error _ => []

/-- The same records, with every configuration published by a node. -/
def publishedBy (node : String) (d : NodeData) : NodeData :=
  { d with instances := d.instances.mapValues fun i =>
      { i with config := i.config.map fun c => { c with nodename := node } } }

end NodeData

end ClusterNode
