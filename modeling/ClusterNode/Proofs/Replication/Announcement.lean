import ClusterNode.Proofs.Replication.Operations
import ClusterNode.Proofs.Replication.Telling

/-!
# Announcing the membership

After a mutation of a cluster object, the membership is the scope of the configuration
that the node holds of that object, whatever the mutation was; it is announced only when
it sets a new configuration. The two differ when a node holds several cluster objects:
`Reinstates` is a mutation that brings the membership of one back after another one
changed it.

`announces_iff` says that in a run of own mutations these are the only changes of the
membership that are not announced, that a mutation without an event changes nothing else,
and that there are none of them while there is one cluster object.
-/

namespace ClusterNode

/-! ## The records of one object -/

namespace Instance

variable {i : Instance} {name node : String} {m : Mutation}

/-- A mutation that leaves the configuration does not announce one. -/
theorem mutate_kind_ne (same : (i.mutate name node m).1.config = i.config) :
    ∀ p ∈ (i.mutate name node m).2, p.event.kind ≠ .clusterConfigUpdated := by
  have deleted : ∀ q, ∀ p ∈ (i.delConfig node q).2, p.event.kind ≠ .clusterConfigUpdated := by
    intro q p member
    simp only [delConfig, List.mem_append, List.mem_ite_nil_right, List.mem_singleton] at member
    rcases member with (⟨_, rfl⟩ | ⟨_, rfl⟩) | ⟨_, rfl⟩ <;> nofun
  cases m with
  | setConfig q v =>
    simp only [mutate] at same ⊢
    split
    · exact deleted q
    · rename_i scope
      rw [if_neg scope] at same
      by_cases old : i.config = some { v with nodename := node }
      · simp [setConfig, old]
      · simp only [setConfig, if_neg old] at same
        exact absurd same.symm old
  | delConfig q => exact deleted q
  | setStatus q v | setMonitor q v | delStatus q | delMonitor q =>
    simp only [mutate]
    split <;> simp [Publication.ofInstance, Event.kind]

/-- A configuration that was not there before, of a cluster object, is announced. -/
theorem mutate_announces {c : InstanceConfig} (cluster : m.path.isCluster = true)
    (held : (i.mutate name node m).1.config = some c) (new : i.config ≠ some c) :
    Publication.ofNode (.clusterConfigUpdated node ⟨name, c.scope⟩) node ∈
      (i.mutate name node m).2 := by
  cases m with
  | setConfig q v =>
    have isCluster : q.isCluster = true := cluster
    simp only [mutate] at held ⊢
    split at held
    · cases held
    · rename_i scope
      rw [if_neg scope]
      by_cases old : i.config = some { v with nodename := node }
      · rw [setConfig, if_pos old] at held
        exact absurd held new
      · simp only [setConfig, if_neg old] at held ⊢
        cases held
        simp [isCluster]
  | delConfig q => cases held
  | setStatus q v | setMonitor q v | delStatus q | delMonitor q =>
    simp only [mutate] at held
    split at held <;> exact absurd held new

end Instance

/-! ## The membership -/

/-- The membership that a configuration gives if it is of a cluster object. -/
def ObjectPath.membership? (p : ObjectPath) (config : Option InstanceConfig) :
    Option (List String) :=
  if p.isCluster then config.map InstanceConfig.scope else none

/-- The records that an own mutation leaves of its object give the membership. -/
theorem ClusterStatus.mutate_cluster {s : ClusterStatus} {node : String} (m : Mutation)
    (own : node = s.daemon.nodename) :
    (s.mutate node m).1.cluster.config =
      { s.cluster.config with
        nodes := (m.path.membership?
          ((s.mutate node m).1.records node m.path.toString).config).getD s.cluster.config.nodes } := by
  have itself : (node == s.daemon.nodename) = true := by simpa using own
  rw [records_mutate, Records.set_self]
  unfold records mutate ObjectPath.membership?
  simp only [itself, Bool.and_true]
  split
  · rename_i c held
    rw [held]
    split <;> rfl
  · rename_i none
    rw [none]
    split <;> rfl

namespace Replica

variable {r : Replica} {node : String} {m : Mutation}

/-- The configuration that a node holds of an object of its own. -/
def ownConfig? (r : Replica) (p : ObjectPath) : Option InstanceConfig :=
  (r.records r.localhost p.toString).config

/-- The members of the cluster as a node announces them. -/
def announcement (r : Replica) (members : List String) : Publication :=
  .ofNode (.clusterConfigUpdated r.localhost ⟨r.status.cluster.config.name, members⟩) r.localhost

/-- A mutation of a cluster object leaves its configuration, which is not the one that the
membership is of. -/
def Reinstates (r : Replica) (m : Mutation) : Prop :=
  m.path.isCluster = true ∧ ∃ c, r.ownConfig? m.path = some c ∧
    (r.applyLocal m).1.ownConfig? m.path = some c ∧ c.scope ≠ r.members

/-- Own mutations in order. -/
def applyLocals (r : Replica) (ms : List Mutation) : Replica :=
  ms.foldl (fun r m => (r.applyLocal m).1) r

/-- Own mutations leave a replica that of its node. -/
theorem BelongsTo.applyLocals (belongs : r.BelongsTo node) (ms : List Mutation) :
    (r.applyLocals ms).BelongsTo node := by
  induction ms generalizing r with
  | nil => exact belongs
  | cons m ms ih => exact ih (belongs.applyLocal m)

/-- An own mutation publishes what it makes of the records of its object. -/
theorem applyLocal_events (r : Replica) (m : Mutation) :
    (r.applyLocal m).2 =
      ((r.records r.localhost m.path.toString).mutate r.status.cluster.config.name r.localhost
        m).2 := by
  refine Eq.trans ?_ (ClusterStatus.mutate_events r.status r.localhost m)
  simp only [applyLocal]
  split
  · rename_i silent
    exact (List.isEmpty_iff.1 silent).symm
  · rfl

/-- The configurations after an own mutation. -/
theorem applyLocal_ownConfig? (r : Replica) (m : Mutation) (p : ObjectPath) :
    (r.applyLocal m).1.ownConfig? p =
      if p.toString = m.path.toString then
        ((r.records r.localhost m.path.toString).mutate r.status.cluster.config.name r.localhost
          m).1.config
      else r.ownConfig? p := by
  simp only [ownConfig?, applyLocal_localhost, records_applyLocal, ClusterStatus.records_mutate,
    Records.set, true_and]
  split <;> rfl

/-- The membership after an own mutation. -/
theorem applyLocal_members (named : r.status.daemon.nodename = r.localhost) (m : Mutation) :
    (r.applyLocal m).1.members =
      (m.path.membership? ((r.applyLocal m).1.ownConfig? m.path)).getD r.members := by
  have cluster : (r.applyLocal m).1.status.cluster = (r.status.mutate r.localhost m).1.cluster := by
    simp only [applyLocal]
    split <;> rfl
  have config := congrArg ClusterConfig.nodes (ClusterStatus.mutate_cluster m named.symm)
  rw [members, cluster, config, ownConfig?, records_applyLocal, applyLocal_localhost]
  rfl

/-- The membership changes without an announcement exactly when it is brought back. -/
theorem announces_iff_of_belongs (belongs : r.BelongsTo node) (m : Mutation) :
    ((r.applyLocal m).1.members = r.members ∨
      r.announcement (r.applyLocal m).1.members ∈ (r.applyLocal m).2) ↔ ¬r.Reinstates m := by
  have members := applyLocal_members belongs.named m
  have after := applyLocal_ownConfig? r m m.path
  rw [if_pos rfl] at after
  rw [applyLocal_events]
  cases cluster : m.path.isCluster with
  | false =>
    have same : (r.applyLocal m).1.members = r.members := by
      rw [members, ObjectPath.membership?, cluster]
      rfl
    exact iff_of_true (.inl same) fun back => by simp [Reinstates, cluster] at back
  | true =>
    rw [ObjectPath.membership?, cluster, if_pos rfl] at members
    cases held : (r.applyLocal m).1.ownConfig? m.path with
    | none =>
      rw [held] at members
      exact iff_of_true (.inl members) fun back => by simp [Reinstates, held] at back
    | some c =>
      rw [held] at members after
      by_cases old : r.ownConfig? m.path = some c
      · have silent : r.announcement (r.applyLocal m).1.members ∉
            ((r.records r.localhost m.path.toString).mutate r.status.cluster.config.name
              r.localhost m).2 := fun told =>
          Instance.mutate_kind_ne (after.symm.trans old.symm) _ told rfl
        have back : r.Reinstates m ↔ c.scope ≠ r.members := by
          simp [Reinstates, cluster, old, held]
        rw [or_iff_left silent, members, back, Decidable.not_not]
        rfl
      · refine iff_of_true (.inr ?_) fun back => ?_
        · rw [members]
          exact Instance.mutate_announces cluster after.symm old
        · obtain ⟨_, c', before, now, _⟩ := back
          exact old (before.trans (now.symm.trans held))

/-- A mutation without an event leaves everything but the membership. -/
theorem applyLocal_of_silent (belongs : r.BelongsTo node) (silent : (r.applyLocal m).2 = []) :
    (r.applyLocal m).1 =
      { r with status.cluster.config.nodes := (r.applyLocal m).1.members } := by
  obtain ⟨rfl, named, d, own, formed⟩ := belongs
  have data : r.status.nodeD r.localhost = d := by simp [ClusterStatus.nodeD, own]
  have nothing : (r.status.mutate r.localhost m).2 = [] := by
    rw [ClusterStatus.mutate_events]
    exact (applyLocal_events r m).symm.trans silent
  have nodes : (r.status.mutate r.localhost m).1.nodes = r.status.nodes := by
    have kept := ClusterStatus.nodeD_mutate_of_silent (by rwa [data]) nothing
    rw [ClusterStatus.mutate_nodes, kept, data, SortedMap.insert_get? own]
  have cluster := ClusterStatus.mutate_cluster m named.symm
  have unchanged : (r.applyLocal m).1 = { r with status := (r.status.mutate r.localhost m).1 } := by
    simp [applyLocal, nothing]
  rw [unchanged, members]
  have status : (r.status.mutate r.localhost m).1 =
      { r.status with
        cluster.config.nodes := (r.status.mutate r.localhost m).1.cluster.config.nodes } := by
    calc (r.status.mutate r.localhost m).1
      _ = ⟨⟨(r.status.mutate r.localhost m).1.cluster.config⟩,
            (r.status.mutate r.localhost m).1.daemon, (r.status.mutate r.localhost m).1.nodes,
            (r.status.mutate r.localhost m).1.objects⟩ := rfl
      _ = _ := by
        rw [nodes, ClusterStatus.mutate_daemon, ClusterStatus.mutate_objects, cluster]
  exact congrArg (fun status => { r with status }) status

/-- The membership is that of the configuration of a cluster object, if the node holds it. -/
def GoesBy (r : Replica) (p : ObjectPath) : Prop :=
  p.isCluster = true → ∀ c, r.ownConfig? p = some c → c.scope = r.members

/-- While the own mutations of cluster objects, and of what is kept as the object is, are of
one object, the membership is that of its configuration. -/
theorem goesBy_applyLocals {p : ObjectPath} {ms : List Mutation}
    (belongs : r.BelongsTo node) (goes : r.GoesBy p)
    (alone : ∀ m ∈ ms, m.path.isCluster = true ∨ m.path.toString = p.toString → m.path = p) :
    (r.applyLocals ms).GoesBy p := by
  induction ms generalizing r with
  | nil => exact goes
  | cons m ms ih =>
    refine ih (belongs.applyLocal m) ?_ fun m' later => alone m' (List.mem_cons_of_mem _ later)
    intro cluster c held
    have members := applyLocal_members belongs.named m
    by_cases mine : m.path = p
    · rw [mine, ObjectPath.membership?, cluster, if_pos rfl, held] at members
      exact members.symm
    · have others := mt (alone m (List.mem_cons_self ..)) mine
      rw [not_or, Bool.not_eq_true] at others
      rw [ObjectPath.membership?, others.1] at members
      rw [applyLocal_ownConfig?, if_neg (Ne.symm others.2)] at held
      exact (goes cluster c held).trans members.symm

/-- In every run of own mutations of a new replica, a mutation changes the membership
without announcing it exactly when it brings back the membership of a configuration that
it leaves as it is; a mutation without an event changes nothing else; and none brings a
membership back while all that touch the configuration of a cluster object are of one. -/
theorem announces_iff (node : String) (cluster : ClusterConfig) (limit timeout : Nat)
    (ms : List Mutation) (m : Mutation) :
    let r := (new node cluster limit timeout).applyLocals ms
    let next := (r.applyLocal m).1
    let events := (r.applyLocal m).2
    ((next.members = r.members ∨ r.announcement next.members ∈ events) ↔ ¬r.Reinstates m) ∧
    (events = [] → next = { r with status.cluster.config.nodes := next.members }) ∧
    ((∀ m' ∈ ms, m'.path.isCluster = true ∨ m'.path.toString = m.path.toString →
      m'.path = m.path) → ¬r.Reinstates m) := by
  have belongs := (BelongsTo.new node cluster limit timeout).applyLocals ms
  refine ⟨announces_iff_of_belongs belongs m, applyLocal_of_silent belongs, fun alone back => ?_⟩
  have fresh : (new node cluster limit timeout).GoesBy m.path := fun _ c held => by
    have nothing : (new node cluster limit timeout).ownConfig? m.path = none := by
      have localhost : (new node cluster limit timeout).localhost = node := rfl
      rw [ownConfig?, localhost, records, ClusterStatus.records, ClusterStatus.nodeD,
        new_get?_self]
      rfl
    cases nothing.symm.trans held
  obtain ⟨kind, c, held, _, other⟩ := back
  exact other (goesBy_applyLocals (.new node cluster limit timeout) fresh alone kind c held)

/-- A cluster object is given members. -/
def setCluster (name : String) (members : List String) : Mutation :=
  .setConfig ⟨"root", .ccfg, name⟩ ⟨"", .epoch, members, ""⟩

/-- The only cluster object is given other members, which is announced. -/
theorem announces_only_cluster :
    let r := (new "n1" ⟨"c", ["n1"]⟩ 8 1000).applyLocals [setCluster "cluster" ["n1", "n2"]]
    let m := setCluster "cluster" ["n1", "n3"]
    (∀ m' ∈ [setCluster "cluster" ["n1", "n2"]],
      m'.path.isCluster = true ∨ m'.path.toString = m.path.toString → m'.path = m.path) ∧
    (r.applyLocal m).1.members = ["n1", "n3"] ∧
    r.announcement ["n1", "n3"] ∈ (r.applyLocal m).2 := by
  intro r m
  have alone : ∀ m' ∈ [setCluster "cluster" ["n1", "n2"]],
      m'.path.isCluster = true ∨ m'.path.toString = m.path.toString → m'.path = m.path := by
    simp [setCluster, m, Mutation.path]
  have members : (r.applyLocal m).1.members = ["n1", "n3"] := by decide +kernel
  have changed : (r.applyLocal m).1.members ≠ r.members := by decide +kernel
  obtain ⟨announced, _, never⟩ := announces_iff "n1" ⟨"c", ["n1"]⟩ 8 1000
    [setCluster "cluster" ["n1", "n2"]] m
  refine ⟨alone, members, ?_⟩
  rw [← members]
  exact (announced.2 (never alone)).resolve_left changed

/-- Of two cluster objects, the first is given again what it has: nothing is announced, and
its members are those of the cluster again. -/
theorem unannounced_of_two_clusters :
    let r := (new "n1" ⟨"c", ["n1"]⟩ 8 1000).applyLocals
      [setCluster "cluster" ["n1", "n2"], setCluster "other" ["n1", "n3"]]
    let m := setCluster "cluster" ["n1", "n2"]
    (r.applyLocal m).2 = [] ∧ (r.applyLocal m).1.members = ["n1", "n2"] ∧
      r.members = ["n1", "n3"] := by
  decide +kernel

end Replica

end ClusterNode
