import ClusterNode.Proofs.SortedMap
import ClusterNode.Replication.Difference

/-!
# What a mutation does to a subtree

A mutation names one node, and its effect on the tree is a function of what that
node said before: `NodeData.mutate`. The rest of the tree, the name of the cluster
and the events play no part in it, so that two nodes that hold the same subtree of
a third hold the same subtree after the same mutation. `NodeData.WellFormed` is
what a node's own mutations keep of its own records.
-/

namespace ClusterNode

namespace Instance

/-- The name of the cluster reaches the announcement only, never the records. -/
theorem mutate_records (i : Instance) (name name' node : String) (m : Mutation) :
    (i.mutate name node m).1 = (i.mutate name' node m).1 := by
  cases m with
  | setConfig p v =>
    simp only [mutate]
    split
    · rfl
    · simp only [setConfig]
      split <;> rfl
  | _ => rfl

/-- A mutation without an event leaves the records. -/
theorem mutate_of_silent {i : Instance} {name node : String} {m : Mutation}
    (silent : (i.mutate name node m).2 = []) : (i.mutate name node m).1 = i := by
  have deleted : ∀ p, (i.delConfig node p).2 = [] → (i.delConfig node p).1 = i := by
    intro p nothing
    obtain ⟨config, status, monitor⟩ := i
    cases config <;> cases status <;> cases monitor <;> simp_all [delConfig]
  cases m with
  | setConfig p v =>
    simp only [mutate] at silent ⊢
    split at silent
    · rename_i empty
      rw [if_pos empty]
      exact deleted p silent
    · rename_i full
      rw [if_neg full]
      simp only [setConfig] at silent ⊢
      split at silent
      · rename_i same
        rw [if_pos same]
      · simp at silent
  | delConfig p => exact deleted p silent
  | setStatus p v | setMonitor p v | delStatus p | delMonitor p =>
    simp only [mutate] at silent ⊢
    split at silent <;> simp_all

/-- A configuration in the records was there before, or is published by the node and has a
scope. -/
theorem mutate_config {i : Instance} {name node : String} {m : Mutation} {c : InstanceConfig}
    (found : (i.mutate name node m).1.config = some c) :
    i.config = some c ∨ c.nodename = node ∧ c.scope ≠ [] := by
  have deleted : ∀ p, (i.delConfig node p).1.config ≠ some c := by
    intro p
    simp [delConfig]
  cases m with
  | setConfig p v =>
    simp only [mutate] at found
    split at found
    · exact absurd found (deleted p)
    · rename_i scope
      simp only [setConfig] at found
      split at found
      · exact .inl found
      · have same : { v with nodename := node } = c := by simpa using found
        right
        rw [← same]
        exact ⟨rfl, by simpa using scope⟩
  | delConfig p => exact absurd found (deleted p)
  | setStatus p v | setMonitor p v | delStatus p | delMonitor p =>
    simp only [mutate] at found
    split at found <;> exact .inl found

end Instance

namespace NodeData

/-- What a node says after a mutation of its own; the generation is left. -/
def mutate (node : String) (d : NodeData) (m : Mutation) : NodeData :=
  d.putInstance m.path.toString ((d.instanceD m.path.toString).mutate "" node m).1

/-- What a node says after mutations of its own, in order. -/
def mutateAll (node : String) (d : NodeData) (ms : List Mutation) : NodeData :=
  ms.foldl (mutate node) d

@[simp] theorem mutate_generation (node : String) (d : NodeData) (m : Mutation) :
    (d.mutate node m).generation = d.generation := rfl

@[simp] theorem mutateAll_nil (node : String) (d : NodeData) : d.mutateAll node [] = d := rfl

@[simp] theorem mutateAll_cons (node : String) (d : NodeData) (m : Mutation)
    (ms : List Mutation) : d.mutateAll node (m :: ms) = (d.mutate node m).mutateAll node ms := rfl

/-- What holds of the records that a node keeps of itself: each object has a record,
and each configuration is published by the node. -/
structure WellFormed (node : String) (d : NodeData) : Prop where
  nonempty : ∀ key i, d.instances.get? key = some i → i.isEmpty = false
  published : ∀ key i c, d.instances.get? key = some i → i.config = some c → c.nodename = node

/-- The lookups after the records of one object were replaced. -/
theorem get?_putInstance (d : NodeData) (key other : String) (i : Instance) :
    (d.putInstance key i).instances.get? other =
      if other = key then (if i.isEmpty then none else some i) else d.instances.get? other := by
  unfold putInstance
  by_cases empty : i.isEmpty
  · simp [empty, SortedMap.get?_erase]
  · simp [empty, SortedMap.get?_insert]

/-- A node that says nothing is well formed. -/
theorem WellFormed.ofEmpty (node : String) (generation : Generation) :
    WellFormed node ⟨generation, ∅⟩ where
  nonempty := by simp
  published := by simp

/-- The generation plays no part in the form of the records. -/
theorem WellFormed.withGeneration {node : String} {d : NodeData} (formed : WellFormed node d)
    (generation : Generation) : WellFormed node { d with generation } where
  nonempty := formed.nonempty
  published := formed.published

/-- A mutation of a node keeps its records well formed. -/
theorem WellFormed.mutate {node : String} {d : NodeData} (formed : WellFormed node d)
    (m : Mutation) : WellFormed node (d.mutate node m) where
  nonempty := by
    intro key i found
    rw [NodeData.mutate, get?_putInstance] at found
    split at found
    · split at found
      · cases found
      · rename_i full
        cases found
        simpa using full
    · exact formed.nonempty key i found
  published := by
    intro key i c found config
    rw [NodeData.mutate, get?_putInstance] at found
    split at found
    · split at found
      · cases found
      · cases found
        -- A configuration that the mutation did not set is one of the old records.
        rcases Instance.mutate_config config with before | own
        · unfold instanceD at before
          cases known : d.instances.get? m.path.toString with
          | none => simp [known, default] at before
          | some old =>
            rw [known] at before
            exact formed.published _ old c known before
        · exact own.1
    · exact formed.published key i c found config

/-- Publishing well-formed records as the node that keeps them changes nothing. -/
theorem publishedBy_of_wellFormed {node : String} {d : NodeData} (formed : WellFormed node d) :
    d.publishedBy node = d := by
  have same : d.instances.mapValues (fun i =>
      { i with config := i.config.map fun c => { c with nodename := node } }) = d.instances := by
    apply SortedMap.ext_get?
    intro key
    rw [SortedMap.get?_mapValues]
    cases found : d.instances.get? key with
    | none => rfl
    | some i =>
      obtain ⟨config, status, monitor⟩ := i
      cases config with
      | none => rfl
      | some c =>
        have own : c.nodename = node := formed.published key _ c found rfl
        cases own
        rfl
  unfold publishedBy
  rw [same]

/-- A mutation that leaves the records of its object leaves well-formed data. -/
theorem mutate_of_records {node : String} {d : NodeData} {m : Mutation}
    (formed : WellFormed node d)
    (same : ((d.instanceD m.path.toString).mutate "" node m).1 = d.instanceD m.path.toString) :
    d.mutate node m = d := by
  have instances : (d.mutate node m).instances = d.instances := by
    apply SortedMap.ext_get?
    intro key
    rw [mutate, get?_putInstance, same]
    by_cases own : key = m.path.toString
    · subst own
      unfold instanceD
      cases found : d.instances.get? m.path.toString with
      | none => simp [default, Instance.isEmpty]
      | some i => simp [formed.nonempty _ i found]
    · simp [own]
  calc d.mutate node m = ⟨(d.mutate node m).generation, (d.mutate node m).instances⟩ := rfl
    _ = d := by rw [instances, mutate_generation]

end NodeData

namespace ClusterStatus

variable (s : ClusterStatus) (node : String) (m : Mutation) (ms : List Mutation)

/-- A mutation replaces the subtree of its node by the mutated one. -/
theorem mutate_nodes :
    (s.mutate node m).1.nodes = s.nodes.insert node ((s.nodeD node).mutate node m) := by
  have records := Instance.mutate_records ((s.nodeD node).instanceD m.path.toString)
    s.cluster.config.name "" node m
  simp only [mutate, NodeData.mutate, ← records]
  split
  · split <;> rfl
  · rfl

@[simp] theorem mutate_daemon : (s.mutate node m).1.daemon = s.daemon := by
  simp only [mutate]
  split
  · split <;> rfl
  · rfl

@[simp] theorem mutate_objects : (s.mutate node m).1.objects = s.objects := by
  simp only [mutate]
  split
  · split <;> rfl
  · rfl

variable {s node} in
/-- Only the node itself sets the membership. -/
theorem mutate_cluster_of_ne (other : node ≠ s.daemon.nodename) :
    (s.mutate node m).1.cluster = s.cluster := by
  have foreign : (node == s.daemon.nodename) = false := by simpa using other
  simp only [mutate, foreign, Bool.and_false]
  split <;> rfl

/-- The events of a mutation are those of the records of its object. -/
theorem mutate_events :
    (s.mutate node m).2 =
      (((s.nodeD node).instanceD m.path.toString).mutate s.cluster.config.name node m).2 := by
  simp only [mutate]
  split
  · split <;> rfl
  · rfl

variable {s node m} in
/-- A mutation without an event leaves well-formed data. -/
theorem nodeD_mutate_of_silent (formed : (s.nodeD node).WellFormed node)
    (silent : (s.mutate node m).2 = []) : (s.nodeD node).mutate node m = s.nodeD node := by
  rw [mutate_events] at silent
  have same := Instance.mutate_of_silent silent
  rw [Instance.mutate_records _ _ ""] at same
  exact NodeData.mutate_of_records formed same

/-- The subtree of the node after a mutation of it. -/
@[simp] theorem nodeD_mutate :
    (s.mutate node m).1.nodeD node = (s.nodeD node).mutate node m := by
  simp [nodeD, mutate_nodes]

variable {node} in
/-- The subtree of any other node is left. -/
theorem get?_mutate_of_ne {other : String} (different : other ≠ node) :
    (s.mutate node m).1.nodes.get? other = s.nodes.get? other := by
  rw [mutate_nodes, SortedMap.get?_insert_of_ne _ _ different]

@[simp] theorem mutateAll_nil : (s.mutateAll node []).1 = s := rfl

@[simp] theorem mutateAll_cons :
    (s.mutateAll node (m :: ms)).1 = ((s.mutate node m).1.mutateAll node ms).1 := rfl

@[simp] theorem mutateAll_daemon : (s.mutateAll node ms).1.daemon = s.daemon := by
  induction ms generalizing s with
  | nil => rfl
  | cons m ms ih => rw [mutateAll_cons, ih, mutate_daemon]

@[simp] theorem mutateAll_objects : (s.mutateAll node ms).1.objects = s.objects := by
  induction ms generalizing s with
  | nil => rfl
  | cons m ms ih => rw [mutateAll_cons, ih, mutate_objects]

variable {s node} in
/-- The mutations of a peer leave the cluster of a node. -/
theorem mutateAll_cluster_of_ne (other : node ≠ s.daemon.nodename) :
    (s.mutateAll node ms).1.cluster = s.cluster := by
  induction ms generalizing s with
  | nil => rfl
  | cons m ms ih =>
    rw [mutateAll_cons, ih (by simpa using other), mutate_cluster_of_ne m other]

/-- The subtree of the node after mutations of it. -/
@[simp] theorem nodeD_mutateAll :
    (s.mutateAll node ms).1.nodeD node = (s.nodeD node).mutateAll node ms := by
  induction ms generalizing s with
  | nil => rfl
  | cons m ms ih => rw [mutateAll_cons, ih, nodeD_mutate, NodeData.mutateAll_cons]

variable {node} in
/-- Mutations of one node leave every other subtree. -/
theorem get?_mutateAll_of_ne {other : String} (different : other ≠ node) :
    (s.mutateAll node ms).1.nodes.get? other = s.nodes.get? other := by
  induction ms generalizing s with
  | nil => rfl
  | cons m ms ih => rw [mutateAll_cons, ih, get?_mutate_of_ne s m different]

end ClusterStatus

end ClusterNode
