import ClusterNode.Proofs.Replication.Announcement
import ClusterNode.Proofs.Replication.Supply

/-!
# What an own mutation does

A mutation edits the own records in place and tells of what it changed, and a node that hears
nothing of it makes no generation. `Replica.Course.applyLocal_law` says that this is right: no
event is exactly no change of the own records, and otherwise there is one generation more, the
mutation waits last in the queue, and what other nodes say is left.

The law rests on two facts about the records of one object, whatever they were before:
`Instance.mutate_silent_iff` and `Instance.mutate_mutate`.
-/

namespace ClusterNode

/-! ## The records of one object -/

namespace Instance

variable {i : Instance} {name name' node : String} {m : Mutation}

/-- Deleting a configuration that is not there, with no record that would go with it, is not
told. -/
theorem delConfig_silent {p : ObjectPath} : ((default : Instance).delConfig node p).2 = [] := rfl

/-- A mutation tells of something exactly if it changes the records. -/
theorem mutate_silent_iff : (i.mutate name node m).2 = [] ↔ (i.mutate name node m).1 = i := by
  refine ⟨mutate_of_silent, fun same => ?_⟩
  have deleted : ∀ p, (i.delConfig node p).1 = i → (i.delConfig node p).2 = [] := by
    intro p gone
    rw [← gone]
    exact delConfig_silent
  cases m with
  | setConfig p v =>
    simp only [mutate] at same ⊢
    split at same
    · rename_i empty
      rw [if_pos empty]
      exact deleted p same
    · rename_i scope
      rw [if_neg scope]
      by_cases old : i.config = some { v with nodename := node }
      · rw [setConfig, if_pos old]
      · rw [setConfig, if_neg old] at same
        exact absurd (congrArg Instance.config same).symm old
  | delConfig p => exact deleted p same
  | setStatus p v =>
    simp only [mutate] at same ⊢
    split at same
    · rename_i old
      rw [if_pos old]
    · rename_i new
      exact absurd (congrArg Instance.status same).symm new
  | setMonitor p v =>
    simp only [mutate] at same ⊢
    split at same
    · rename_i old
      rw [if_pos old]
    · rename_i new
      exact absurd (congrArg Instance.monitor same).symm new
  | delStatus p =>
    have absent : ¬i.status.isSome = true := by
      intro there
      simp only [mutate, there, if_true] at same
      rw [← same] at there
      cases there
    simp only [mutate, if_neg absent]
  | delMonitor p =>
    have absent : ¬i.monitor.isSome = true := by
      intro there
      simp only [mutate, there, if_true] at same
      rw [← same] at there
      cases there
    simp only [mutate, if_neg absent]

/-- A mutation made again leaves the records. -/
theorem mutate_mutate (i : Instance) (name node : String) (m : Mutation) :
    ((i.mutate name node m).1.mutate name node m).1 = (i.mutate name node m).1 := by
  cases m with
  | setConfig p v =>
    simp only [mutate]
    split
    · rfl
    · by_cases old : i.config = some { v with nodename := node }
      · have unchanged : i.setConfig name node p v = (i, []) := if_pos old
        rw [unchanged, unchanged]
      · simp only [setConfig, if_neg old, if_true]
  | delConfig p => rfl
  | setStatus p v | setMonitor p v | delStatus p | delMonitor p =>
    simp only [mutate]
    split <;> simp_all

end Instance

/-- The records of a node are left exactly if those of the object of the mutation are. -/
theorem NodeData.mutate_instances_iff {node : String} {d : NodeData} {m : Mutation}
    (formed : d.WellFormed node) :
    (d.mutate node m).instances = d.instances ↔
      ((d.instanceD m.path.toString).mutate "" node m).1 = d.instanceD m.path.toString := by
  constructor
  · intro same
    have after : (d.putInstance m.path.toString
        ((d.instanceD m.path.toString).mutate "" node m).1).instanceD m.path.toString =
          ((d.instanceD m.path.toString).mutate "" node m).1 := by
      rw [instanceD_putInstance, if_pos rfl]
    calc ((d.instanceD m.path.toString).mutate "" node m).1
      _ = (d.mutate node m).instanceD m.path.toString := after.symm
      _ = d.instanceD m.path.toString := by rw [instanceD, same, ← instanceD]
  · intro same
    exact congrArg NodeData.instances (mutate_of_records formed same)

/-- A configuration with an empty scope is deleted. -/
theorem ClusterStatus.mutate_setConfig_of_scope (s : ClusterStatus) (node : String)
    (p : ObjectPath) {v : InstanceConfig} (scope : v.scope = []) :
    s.mutate node (.setConfig p v) = s.mutate node (.delConfig p) := by
  have same : ∀ i : Instance, i.mutate s.cluster.config.name node (.setConfig p v) =
      i.mutate s.cluster.config.name node (.delConfig p) := by
    intro i
    simp [Instance.mutate, scope]
  simp only [mutate, Mutation.path, same]
  rfl

namespace Replica

variable {r s : Replica} {node : String} {m : Mutation}

/-! ## The own records -/

/-- The own records after an own mutation. -/
theorem applyLocal_instances (r : Replica) (m : Mutation) :
    ((r.applyLocal m).1.status.nodeD r.localhost).instances =
      ((r.status.nodeD r.localhost).mutate r.localhost m).instances := by
  rw [← ClusterStatus.nodeD_mutate]
  simp only [applyLocal]
  split
  · rfl
  · rw [ClusterStatus.nodeD, refreshGens_nodes]
    simp only [SortedMap.get?_insert_self, Option.getD_some]

/-- No event is no change of the own records. -/
theorem BelongsTo.applyLocal_silent_iff (belongs : r.BelongsTo node) (m : Mutation) :
    (r.applyLocal m).2 = [] ↔
      ((r.applyLocal m).1.status.nodeD node).instances = (r.status.nodeD node).instances := by
  obtain ⟨rfl, named, d, own, formed⟩ := belongs
  have data : r.status.nodeD r.localhost = d := by simp [ClusterStatus.nodeD, own]
  rw [applyLocal_events, Instance.mutate_silent_iff, Instance.mutate_records _ _ "",
    applyLocal_instances, data, NodeData.mutate_instances_iff formed, records,
    ClusterStatus.records, data]

/-- An own mutation made again is not told. -/
theorem applyLocal_applyLocal (r : Replica) (m : Mutation) :
    ((r.applyLocal m).1.applyLocal m).2 = [] := by
  have after : (r.applyLocal m).1.records r.localhost m.path.toString =
      ((r.records r.localhost m.path.toString).mutate "" r.localhost m).1 := by
    rw [records_applyLocal, ClusterStatus.records_mutate, Records.set_self,
      Instance.mutate_records _ _ ""]
    rfl
  rw [applyLocal_events, Instance.mutate_silent_iff, Instance.mutate_records _ _ "",
    applyLocal_localhost, after]
  exact Instance.mutate_mutate ..

/-- An own configuration with an empty scope is deleted: the tree and the events are those of the
deletion. -/
theorem applyLocal_setConfig_of_scope (r : Replica) (p : ObjectPath) {v : InstanceConfig}
    (scope : v.scope = []) :
    (r.applyLocal (.setConfig p v)).1.status = (r.applyLocal (.delConfig p)).1.status ∧
      (r.applyLocal (.setConfig p v)).2 = (r.applyLocal (.delConfig p)).2 := by
  have same := r.status.mutate_setConfig_of_scope r.localhost p scope
  simp only [applyLocal, same]
  split <;> exact ⟨rfl, rfl⟩

/-! ## The others -/

/-- What is not the node's own is as before: what other nodes say, what is applied of them, who is
wanted in full, and the aggregates. -/
structure LeavesOthers (r s : Replica) : Prop where
  nodes : ∀ other, other ≠ r.localhost → s.status.nodes.get? other = r.status.nodes.get? other
  applied : s.applied = r.applied
  resync : s.resync = r.resync
  objects : s.status.objects = r.status.objects

/-- An own mutation concerns no other node and no aggregate. -/
theorem applyLocal_leavesOthers (r : Replica) (m : Mutation) :
    r.LeavesOthers (r.applyLocal m).1 where
  nodes _ other := applyLocal_get?_of_ne m other
  applied := applyLocal_applied r m
  resync := applyLocal_resync r m
  objects := (applyLocal_spares r m).objects

/-! ## Generations that can grow -/

/-- The generation is not the last one that there is. -/
def CanGrow (r : Replica) : Prop := r.generation.toNat + 1 < UInt64.size

instance (r : Replica) : Decidable r.CanGrow := inferInstanceAs (Decidable (_ < _))

/-- No operation takes the own generation back, if there is a next one. -/
theorem BelongsTo.operate_generation (belongs : r.BelongsTo node) (canGrow : r.CanGrow)
    {o : Operation} (foreign : o.Foreign node) :
    r.generation ≤ (r.operate o).1.generation := by
  by_cases change : ∃ m, o = .call (.applyLocal m)
  · obtain ⟨m, rfl⟩ := change
    obtain ⟨rfl, named, d, own, formed⟩ := belongs
    rw [CanGrow, generation_of_own own] at canGrow
    rw [generation_of_own own, operate, call]
    rcases applyLocal_cases (m := m) own formed with ⟨unchanged, _⟩ | ⟨changed, _⟩
    · rw [← applyLocal_localhost r m] at unchanged
      rw [generation_of_own unchanged]
      exact UInt64.le_refl _
    · rw [← applyLocal_localhost r m] at changed
      rw [generation_of_own changed, UInt64.le_iff_toNat_le, UInt64.toNat_add, UInt64.toNat_one,
        Nat.mod_eq_of_lt canGrow]
      exact Nat.le_succ _
  · by_cases message : ∃ now, o = .buildMessage now
    · obtain ⟨now, rfl⟩ := message
      rw [operate, buildMessage_own_generation]
      exact UInt64.le_refl _
    · have same := operate_sameOwn belongs foreign (fun m made => change ⟨m, made⟩)
        fun now made => message ⟨now, made⟩
      rw [same.generation]
      exact UInt64.le_refl _

section Fresh

variable {cluster : ClusterConfig} {limit timeout : Nat} {past : List Moment}

/-- While the generations can grow, what is kept of the own changes is kept. -/
theorem Course.kept_of_canGrow (course : Course (.new node cluster limit timeout) past r)
    (foreign : ∀ t ∈ past, t.operation.Foreign node)
    (canGrow : ∀ t ∈ past, t.replica.CanGrow) : Kept node limit past r := by
  refine course.kept foreign ?_
  induction course with
  | start => intro t member; cases member
  | @step past r o course ih =>
    have foreignBefore := fun t before => foreign t (List.mem_cons_of_mem _ before)
    have grows := ih foreignBefore fun t before => canGrow t (List.mem_cons_of_mem _ before)
    intro t member
    rcases List.mem_cons.1 member with rfl | before
    · exact (course.kept foreignBefore grows).belongs.operate_generation
        (canGrow ⟨r, o⟩ (List.mem_cons_self ..)) (foreign ⟨r, o⟩ (List.mem_cons_self ..))
    · exact grows t before

/-- In every state that a node reaches without being told of itself, and before its generations
are used up, an own mutation returns no event exactly if the own records are as before; then the
generation and the queue are as before too. Otherwise the generation is the next one, and the
queue has the mutation last, without the oldest changes beyond the limit. What is not the node's
own is left in either case, the same mutation made again returns no event, and a configuration
with an empty scope is deleted. -/
theorem Course.applyLocal_law (course : Course (.new node cluster limit timeout) past r)
    (foreign : ∀ t ∈ past, t.operation.Foreign node)
    (canGrow : r.CanGrow ∧ ∀ t ∈ past, t.replica.CanGrow) (m : Mutation) :
    let next := (r.applyLocal m).1
    let events := (r.applyLocal m).2
    (events = [] ↔ (next.status.nodeD node).instances = (r.status.nodeD node).instances) ∧
    (events = [] → next.generation = r.generation ∧ next.patchQueue = r.patchQueue) ∧
    (events ≠ [] → next.generation.toNat = r.generation.toNat + 1 ∧
      next.patchQueue.entries = (r.patchQueue.entries ++ [(next.generation, [m])]).drop
        (r.patchQueue.size + 1 - r.maxPatchQueue)) ∧
    r.LeavesOthers next ∧
    (next.applyLocal m).2 = [] ∧
    ∀ p v, v.scope = [] →
      (r.applyLocal (.setConfig p v)).1.status = (r.applyLocal (.delConfig p)).1.status ∧
        (r.applyLocal (.setConfig p v)).2 = (r.applyLocal (.delConfig p)).2 := by
  intro next events
  have kept := course.kept_of_canGrow foreign canGrow.2
  have belongs := kept.belongs
  have silent := belongs.applyLocal_silent_iff m
  have quiet : events = [] → next.generation = r.generation ∧ next.patchQueue = r.patchQueue := by
    intro nothing
    have same := applyLocal_of_silent belongs nothing
    exact ⟨by rw [show next = _ from same]; rfl, by rw [show next = _ from same]⟩
  refine ⟨silent, quiet, fun told => ?_, applyLocal_leavesOthers r m, applyLocal_applyLocal r m,
    fun p v => applyLocal_setConfig_of_scope r p⟩
  have foreignOwn : (Operation.call (.applyLocal m)).Foreign node := trivial
  have grows := belongs.operate_generation canGrow.1 foreignOwn
  rcases kept.ordered.applyLocal_cases belongs m grows with ⟨same, _⟩ | made
  · -- The generation stands still only where the own subtree is left.
    obtain ⟨rfl, named, d, own, formed⟩ := belongs
    rcases applyLocal_cases (m := m) own formed with ⟨unchanged, _⟩ | ⟨changed, _⟩
    · refine absurd (silent.2 ?_) told
      simp only [ClusterStatus.nodeD, own, unchanged]
    · rw [← applyLocal_localhost r m] at changed
      rw [generation_of_own changed, generation_of_own own] at same
      exact absurd same (by simp)
  · exact made

end Fresh

/-- The node that keeps two of its three changes deletes one of its objects: the older of the two
changes makes room, and deleting the object again changes nothing. -/
theorem applyLocal_law_of_backlog :
    let m := Mutation.delConfig ⟨"root", .svc, "db"⟩
    let next := (backlog.2.applyLocal m).1
    (∀ t ∈ backlog.1, t.operation.Foreign "n1") ∧
      (backlog.2.CanGrow ∧ ∀ t ∈ backlog.1, t.replica.CanGrow) ∧
      (backlog.2.applyLocal m).2.length = 1 ∧ next.generation.toNat = 5 ∧
      next.patchQueue.entries =
        (backlog.2.patchQueue.entries ++ [(next.generation, [m])]).drop 1 ∧
      (next.applyLocal m).2 = [] := by
  intro m next
  have foreign : ∀ t ∈ backlog.1, t.operation.Foreign "n1" := by decide +kernel
  have canGrow : backlog.2.CanGrow ∧ ∀ t ∈ backlog.1, t.replica.CanGrow := by decide +kernel
  have told : (backlog.2.applyLocal m).2.length = 1 := by decide +kernel
  have loud : (backlog.2.applyLocal m).2 ≠ [] := by
    intro nothing
    rw [nothing] at told
    cases told
  obtain ⟨_, _, changed, _, again, _⟩ := (Course.start.pursue _).applyLocal_law foreign canGrow m
  exact ⟨foreign, canGrow, told, (changed loud).1, (changed loud).2, again⟩

end Replica

end ClusterNode
