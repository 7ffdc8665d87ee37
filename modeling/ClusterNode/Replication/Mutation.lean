import ClusterNode.Event

/-!
# Mutations

A `Mutation` is one change that a node makes to its own records. Applying one
returns the events that tell of it: no event means that nothing changed. Setting
a configuration with an empty scope is deleting it, and deleting a configuration
takes the status and the monitor with it.
-/

namespace ClusterNode

/-- One change of the records of an object. -/
inductive Mutation where
  | setConfig (path : ObjectPath) (value : InstanceConfig)
  | delConfig (path : ObjectPath)
  | setStatus (path : ObjectPath) (value : InstanceStatus)
  | delStatus (path : ObjectPath)
  | setMonitor (path : ObjectPath) (value : InstanceMonitor)
  | delMonitor (path : ObjectPath)
  deriving DecidableEq

namespace Mutation

/-- The object of a mutation. -/
def path : Mutation → ObjectPath
  | .setConfig p _ => p
  | .delConfig p => p
  | .setStatus p _ => p
  | .delStatus p => p
  | .setMonitor p _ => p
  | .delMonitor p => p

/-- The written names of the operations. -/
def operations : List String :=
  ["set_instance_config", "del_instance_config", "set_instance_status", "del_instance_status",
    "set_instance_monitor", "del_instance_monitor"]

instance : Wire Mutation where
  toJson
    | .setConfig p v => Json.members [
      Json.member "op" "set_instance_config", Json.member "path" p, Json.member "value" v]
    | .delConfig p => Json.members [
      Json.member "op" "del_instance_config", Json.member "path" p]
    | .setStatus p v => Json.members [
      Json.member "op" "set_instance_status", Json.member "path" p, Json.member "value" v]
    | .delStatus p => Json.members [
      Json.member "op" "del_instance_status", Json.member "path" p]
    | .setMonitor p v => Json.members [
      Json.member "op" "set_instance_monitor", Json.member "path" p, Json.member "value" v]
    | .delMonitor p => Json.members [
      Json.member "op" "del_instance_monitor", Json.member "path" p]
  ofJson? r v := do
    let (op, v) ← Json.tagged? "op" operations id r v
    match op with
    | "set_instance_config" => do
      let [path, value] ← v.record? ["path", "value"] | none
      some (.setConfig (← Json.required .whole path) (← Json.required .whole value))
    | "del_instance_config" => do
      let [path] ← v.record? ["path"] | none
      some (.delConfig (← Json.required .whole path))
    | "set_instance_status" => do
      let [path, value] ← v.record? ["path", "value"] | none
      some (.setStatus (← Json.required .whole path) (← Json.required .whole value))
    | "del_instance_status" => do
      let [path] ← v.record? ["path"] | none
      some (.delStatus (← Json.required .whole path))
    | "set_instance_monitor" => do
      let [path, value] ← v.record? ["path", "value"] | none
      some (.setMonitor (← Json.required .whole path) (← Json.required .whole value))
    | _ => do
      let [path] ← v.record? ["path"] | none
      some (.delMonitor (← Json.required .whole path))

end Mutation

namespace Instance

/-- Set the configuration; a cluster object also announces the membership. -/
def setConfig (i : Instance) (clusterName node : String) (p : ObjectPath) (v : InstanceConfig) :
    Instance × List Publication :=
  let v := { v with nodename := node }
  if i.config = some v then (i, [])
  else
    let announced := if p.isCluster then
        [Publication.ofNode (.clusterConfigUpdated node ⟨clusterName, v.scope⟩) node]
      else []
    ({ i with config := some v }, .ofInstance (.configUpdated p node v) p node :: announced)

/-- Delete the configuration, and with it the status and the monitor. -/
def delConfig (i : Instance) (node : String) (p : ObjectPath) : Instance × List Publication :=
  let told (record : Bool) (e : Event) : List Publication :=
    if record then [.ofInstance e p node] else []
  (⟨none, none, none⟩,
    told i.status.isSome (.instanceStatusDeleted p node) ++
      told i.monitor.isSome (.instanceMonitorDeleted p node) ++
      told i.config.isSome (.configDeleted p node))

/-- The records after a mutation, and the events that tell of it. -/
def mutate (i : Instance) (clusterName node : String) : Mutation → Instance × List Publication
  | .setConfig p v =>
    if v.scope.isEmpty then i.delConfig node p else i.setConfig clusterName node p v
  | .delConfig p => i.delConfig node p
  | .setStatus p v =>
    if i.status = some v then (i, [])
    else ({ i with status := some v },
      [.ofInstance (.instanceStatusUpdated p node v) p node])
  | .delStatus p =>
    if i.status.isSome then
      ({ i with status := none }, [.ofInstance (.instanceStatusDeleted p node) p node])
    else (i, [])
  | .setMonitor p v =>
    if i.monitor = some v then (i, [])
    else ({ i with monitor := some v },
      [.ofInstance (.instanceMonitorUpdated p node v) p node])
  | .delMonitor p =>
    if i.monitor.isSome then
      ({ i with monitor := none }, [.ofInstance (.instanceMonitorDeleted p node) p node])
    else (i, [])

end Instance

namespace NodeData

/-- The records of an object, empty if there are none. -/
def instanceD (d : NodeData) (key : String) : Instance := (d.instances.get? key).getD default

/-- Keep the records of an object while there are any. -/
def putInstance (d : NodeData) (key : String) (i : Instance) : NodeData :=
  { d with instances := if i.isEmpty then d.instances.erase key else d.instances.insert key i }

end NodeData

namespace ClusterStatus

/-- What a node says, nothing if it has not said anything. -/
def nodeD (s : ClusterStatus) (node : String) : NodeData := (s.nodes.get? node).getD default

/-- Make a mutation of a node. The scope of a cluster object that the node itself
holds becomes the membership, whichever of its records the mutation is about. -/
def mutate (s : ClusterStatus) (node : String) (m : Mutation) :
    ClusterStatus × List Publication :=
  let key := m.path.toString
  let data := s.nodeD node
  let (i, events) := (data.instanceD key).mutate s.cluster.config.name node m
  let s := { s with nodes := s.nodes.insert node (data.putInstance key i) }
  match i.config with
  | some c =>
    if m.path.isCluster && node == s.daemon.nodename then
      ({ s with cluster := ⟨{ s.cluster.config with nodes := c.scope }⟩ }, events)
    else (s, events)
  | none => (s, events)

/-- Make mutations of a node in order. -/
def mutateAll (s : ClusterStatus) (node : String) :
    List Mutation → ClusterStatus × List Publication
  | [] => (s, [])
  | m :: ms =>
    let (s, events) := s.mutate node m
    let (s, more) := s.mutateAll node ms
    (s, events ++ more)

end ClusterStatus

end ClusterNode
