import ClusterNode.Object.Status
import ClusterNode.Time.Rfc3339

/-!
# Instance records

What one node says about one object: its configuration, its evaluated status and
its orchestration monitor. Each record may be absent, and an `Instance` without
any record is empty.
-/

namespace ClusterNode

/-- The configuration of an object on one node; its scope lists the nodes that
are expected to host an instance, and is never empty while the record is kept. -/
structure InstanceConfig where
  /-- The md5 of the configuration file. -/
  checksum : String
  /-- When the configuration file was modified. -/
  updated : Timestamp
  scope : List String
  /-- The node that published the record; it is implied by the place of the
  record and so is not written. -/
  nodename : String
  deriving DecidableEq

namespace InstanceConfig

/-- Whether two records agree in all that is written. -/
def sameContent (a b : InstanceConfig) : Bool :=
  a.updated == b.updated && a.checksum == b.checksum && a.scope == b.scope

instance : Inhabited InstanceConfig := ⟨⟨"", .epoch, [], ""⟩⟩

instance : Wire InstanceConfig where
  toJson c := Json.members [
    Json.member "csum" c.checksum, Json.member "updated" c.updated, Json.member "scope" c.scope]
  ofJson? r v := do
    let [checksum, updated, scope] ← v.record? ["csum", "updated", "scope"] | none
    some {
      checksum := ← Json.required r checksum
      updated := ← Json.required r updated
      scope := ← Json.required r scope
      nodename := "" }

end InstanceConfig

/-- The status of one resource of an instance. -/
structure ResourceStatus where
  rid : String
  label : String
  kind : String
  status : Status
  provisioned : Provisioned
  log : List String
  deriving DecidableEq

/-- A member that is left out when its list is empty. -/
def Json.memberList {α : Type} [Wire α] (name : String) (xs : List α) : Option (String × Json) :=
  if xs.isEmpty then none else Json.member name xs

instance : Wire ResourceStatus where
  toJson s := Json.members [
    Json.member "rid" s.rid, Json.member "label" s.label, Json.member "type" s.kind,
    Json.member "status" s.status, Json.member "provisioned" s.provisioned,
    Json.memberList "log" s.log]
  ofJson? r v := do
    let [rid, label, kind, status, provisioned, log] ←
      v.record? ["rid", "label", "type", "status", "provisioned", "log"] | none
    some {
      rid := ← Json.required r rid
      label := ← Json.defaulted r "" label
      kind := ← Json.defaulted r "" kind
      status := ← Json.required r status
      provisioned := ← Json.defaulted r .undef provisioned
      log := ← Json.defaulted r [] log }

/-- The evaluated status of an instance. -/
structure InstanceStatus where
  avail : Status
  overall : Status
  provisioned : Provisioned
  /-- Since when the instance is frozen. -/
  frozen : Option Timestamp
  resources : List ResourceStatus
  updated : Option Timestamp
  deriving DecidableEq

namespace InstanceStatus

instance : Inhabited InstanceStatus := ⟨⟨.undef, .undef, .undef, none, [], none⟩⟩

/-- Whether the instance is frozen. -/
def isFrozen (s : InstanceStatus) : Bool := s.frozen.isSome

instance : Wire InstanceStatus where
  toJson s := Json.members [
    Json.member "avail" s.avail, Json.member "overall" s.overall,
    Json.member "provisioned" s.provisioned, Json.memberOpt "frozen" s.frozen,
    Json.memberList "resources" s.resources, Json.memberOpt "updated" s.updated]
  ofJson? r v := do
    let [avail, overall, provisioned, frozen, resources, updated] ←
      v.record? ["avail", "overall", "provisioned", "frozen", "resources", "updated"] | none
    some {
      avail := ← Json.defaulted r .undef avail
      overall := ← Json.defaulted r .undef overall
      provisioned := ← Json.defaulted r .undef provisioned
      frozen := ← Json.optional r frozen
      resources := ← Json.defaulted r [] resources
      updated := ← Json.optional r updated }

end InstanceStatus

/-- What the cluster wants of an object. -/
inductive GlobalExpect where
  | none
  | aborted
  | frozen
  | thawed
  | started
  | stopped
  | provisioned
  | unprovisioned
  | purged
  deriving DecidableEq, Repr, Inhabited

namespace GlobalExpect

/-- The written form of an expectation. -/
def name : GlobalExpect → String
  | .none => "none"
  | .aborted => "aborted"
  | .frozen => "frozen"
  | .thawed => "thawed"
  | .started => "started"
  | .stopped => "stopped"
  | .provisioned => "provisioned"
  | .unprovisioned => "unprovisioned"
  | .purged => "purged"

/-- Every expectation. -/
def all : List GlobalExpect :=
  [.none, .aborted, .frozen, .thawed, .started, .stopped, .provisioned, .unprovisioned, .purged]

instance : Wire GlobalExpect where
  toJson s := .str s.name
  ofJson? := Json.enumeration? all name

end GlobalExpect

/-- What an instance monitor is doing. -/
inductive MonitorState where
  | idle
  | starting
  | stopping
  | freezing
  | thawing
  | provisioning
  | unprovisioning
  | startFailed
  | stopFailed
  deriving DecidableEq, Repr, Inhabited

namespace MonitorState

/-- The written form of a monitor state. -/
def name : MonitorState → String
  | .idle => "idle"
  | .starting => "starting"
  | .stopping => "stopping"
  | .freezing => "freezing"
  | .thawing => "thawing"
  | .provisioning => "provisioning"
  | .unprovisioning => "unprovisioning"
  | .startFailed => "start_failed"
  | .stopFailed => "stop_failed"

/-- Every monitor state. -/
def all : List MonitorState :=
  [.idle, .starting, .stopping, .freezing, .thawing, .provisioning, .unprovisioning,
    .startFailed, .stopFailed]

instance : Wire MonitorState where
  toJson s := .str s.name
  ofJson? := Json.enumeration? all name

end MonitorState

/-- How often one resource was restarted. -/
structure MonitorRestart where
  retries : UInt32
  updated : Option Timestamp
  deriving DecidableEq

/-- A restart record is read from its members, or from the bare count that older
nodes send; either way it is taken whole. -/
instance : Wire MonitorRestart where
  toJson s := Json.members [
    Json.member "retries" s.retries, Json.memberOpt "updated" s.updated]
  ofJson? _ v :=
    if v.readable then
      (do
        let [retries, updated] ← v.record? ["retries", "updated"] | none
        some {
          retries := ← Json.required .whole retries
          updated := ← Json.optional .whole updated : MonitorRestart }) <|>
        (do some ⟨← ofJson? .whole v, none⟩)
    else none

/-- The orchestration intent of one instance. -/
structure InstanceMonitor where
  globalExpect : GlobalExpect
  globalExpectUpdated : Option Timestamp
  state : MonitorState
  stateUpdated : Option Timestamp
  /-- Whether this instance is the declared leader of the placement. -/
  isLeader : Bool
  restart : SortedMap String MonitorRestart
  deriving DecidableEq

/-- A partial change of an instance monitor. -/
structure MonitorUpdate where
  globalExpect : Option GlobalExpect
  state : Option MonitorState
  deriving DecidableEq

instance : Wire MonitorUpdate where
  toJson u := Json.members [
    Json.memberOpt "global_expect" u.globalExpect, Json.memberOpt "state" u.state]
  ofJson? r v := do
    let [globalExpect, state] ← v.record? ["global_expect", "state"] | none
    some {
      globalExpect := ← Json.optional r globalExpect
      state := ← Json.optional r state }

namespace InstanceMonitor

instance : Inhabited InstanceMonitor := ⟨⟨.none, none, .idle, none, false, ∅⟩⟩

instance : Wire InstanceMonitor where
  toJson m := Json.members [
    Json.member "global_expect" m.globalExpect,
    Json.memberOpt "global_expect_updated" m.globalExpectUpdated,
    Json.member "state" m.state, Json.memberOpt "state_updated" m.stateUpdated,
    Json.member "is_leader" m.isLeader,
    if m.restart.isEmpty then none else Json.member "restart" m.restart]
  ofJson? r v := do
    let [globalExpect, globalExpectUpdated, state, stateUpdated, isLeader, restart] ←
      v.record? ["global_expect", "global_expect_updated", "state", "state_updated",
        "is_leader", "restart"] | none
    some {
      globalExpect := ← Json.defaulted r .none globalExpect
      globalExpectUpdated := ← Json.optional r globalExpectUpdated
      state := ← Json.defaulted r .idle state
      stateUpdated := ← Json.optional r stateUpdated
      isLeader := ← Json.defaulted r false isLeader
      restart := ← Json.defaulted r ∅ restart }

/-- The expectation and its time after an update. -/
def expect (m : InstanceMonitor) (wanted : Option GlobalExpect) (now : Timestamp) :
    InstanceMonitor :=
  match wanted with
  | some e =>
    if e = m.globalExpect then m
    else { m with globalExpect := e, globalExpectUpdated := some now }
  | none => m

/-- The state and its time after an update. -/
def enter (m : InstanceMonitor) (state : Option MonitorState) (now : Timestamp) :
    InstanceMonitor :=
  match state with
  | some s => if s = m.state then m else { m with state := s, stateUpdated := some now }
  | none => m

/-- The monitor after an update; what changes is stamped with the time. -/
def apply (m : InstanceMonitor) (u : MonitorUpdate) (now : Timestamp) : InstanceMonitor :=
  (m.expect u.globalExpect now).enter u.state now

/-- Whether an update changes anything. -/
def changedBy (m : InstanceMonitor) (u : MonitorUpdate) : Bool :=
  u.globalExpect.any (· != m.globalExpect) || u.state.any (· != m.state)

end InstanceMonitor

/-- All records of one object on one node. -/
structure Instance where
  config : Option InstanceConfig
  status : Option InstanceStatus
  monitor : Option InstanceMonitor
  deriving DecidableEq

namespace Instance

instance : Inhabited Instance := ⟨⟨none, none, none⟩⟩

/-- Whether no record is left. -/
def isEmpty (i : Instance) : Bool :=
  i.config.isNone && i.status.isNone && i.monitor.isNone

instance : Wire Instance where
  toJson i := Json.members [
    Json.memberOpt "config" i.config, Json.memberOpt "status" i.status,
    Json.memberOpt "monitor" i.monitor]
  ofJson? r v := do
    let [config, status, monitor] ← v.record? ["config", "status", "monitor"] | none
    some {
      config := ← Json.optional r config
      status := ← Json.optional r status
      monitor := ← Json.optional r monitor }

end Instance

/-- The status of an object over all of its nodes. -/
structure ObjectStatus where
  avail : Status
  overall : Status
  provisioned : Provisioned
  frozen : Frozen
  placement : Placement
  deriving DecidableEq, Repr, Inhabited

instance : Wire ObjectStatus where
  toJson s := Json.members [
    Json.member "avail" s.avail, Json.member "overall" s.overall,
    Json.member "provisioned" s.provisioned, Json.member "frozen" s.frozen,
    Json.member "placement" s.placement]
  ofJson? r v := do
    let [avail, overall, provisioned, frozen, placement] ←
      v.record? ["avail", "overall", "provisioned", "frozen", "placement"] | none
    some {
      avail := ← Json.required r avail
      overall := ← Json.required r overall
      provisioned := ← Json.required r provisioned
      frozen := ← Json.required r frozen
      placement := ← Json.required r placement }

end ClusterNode
