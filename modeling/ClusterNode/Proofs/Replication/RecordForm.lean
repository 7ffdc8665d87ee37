import ClusterNode.Heartbeat.Manager
import ClusterNode.Proofs.Replication.Course

/-!
# The form of the records

An instance without a record is removed, and to set a configuration with an empty scope is to
delete it, so that none is kept (`NodeData.Tidy`). Mutations see to that, whereas everything that
a peer sends replaces its subtree as it is. So what is kept is tidy but for what was last brought
in full and was not (`Course.formed`), and a message can bring that: `untidy_of_bare`. That is a
fault.
-/

namespace ClusterNode

/-- No instance is without a record, and no configuration without a scope. -/
def NodeData.Tidy (d : NodeData) : Prop :=
  ∀ key i, d.instances.get? key = some i → i.isEmpty = false ∧ ∀ c ∈ i.config, c.scope ≠ []

/-- What is kept of a node is tidy, and its configurations are published by the node. -/
def NodeData.WellKept (node : String) (d : NodeData) : Prop :=
  d.Tidy ∧ ∀ key i, d.instances.get? key = some i → ∀ c ∈ i.config, c.nodename = node

instance (d : NodeData) : Decidable d.Tidy := inferInstanceAs (Decidable (∀ _ _, _ → _))

instance (node : String) (d : NodeData) : Decidable (d.WellKept node) :=
  inferInstanceAs (Decidable (_ ∧ ∀ _ _, _ → _))

/-- What is kept of a node is tidy where its source is: its configurations are published by the
node, and an instance without a record, or a configuration without a scope, is so at the source. -/
structure NodeData.FormedFrom (node : String) (d source : NodeData) : Prop where
  published : ∀ key i c, d.instances.get? key = some i → i.config = some c → c.nodename = node
  nonempty : ∀ key i, d.instances.get? key = some i → i.isEmpty = true →
    ∃ j, source.instances.get? key = some j ∧ j.isEmpty = true
  scope : ∀ key i c, d.instances.get? key = some i → i.config = some c → c.scope = [] →
    ∃ j b, source.instances.get? key = some j ∧ j.config = some b ∧
      c = { b with nodename := node }

namespace NodeData

variable {node : String} {source d : NodeData}

/-- A node that says nothing has nothing that is not formed. -/
theorem FormedFrom.ofEmpty (node : String) (source : NodeData) (generation : Generation) :
    FormedFrom node ⟨generation, ∅⟩ source where
  published := by simp
  nonempty := by simp
  scope := by simp

/-- The generation has no part in the form. -/
theorem FormedFrom.withGeneration (formed : FormedFrom node d source) (generation : Generation) :
    FormedFrom node { d with generation } source :=
  ⟨formed.published, formed.nonempty, formed.scope⟩

/-- What a node is said to say has the form where it was brought with it. -/
theorem FormedFrom.publishedBy (node : String) (d : NodeData) :
    FormedFrom node (d.publishedBy node) d := by
  have found {key : String} {i : Instance}
      (here : (d.publishedBy node).instances.get? key = some i) :
      ∃ j, d.instances.get? key = some j ∧
        i = { j with config := j.config.map fun c => { c with nodename := node } } := by
    rw [NodeData.publishedBy, SortedMap.get?_mapValues] at here
    obtain ⟨j, there, rfl⟩ := Option.map_eq_some_iff.1 here
    exact ⟨j, there, rfl⟩
  refine ⟨fun key i c here config => ?_, fun key i here empty => ?_,
    fun key i c here config _ => ?_⟩
  · obtain ⟨j, _, rfl⟩ := found here
    obtain ⟨b, _, rfl⟩ := Option.map_eq_some_iff.1 config
    rfl
  · obtain ⟨j, there, rfl⟩ := found here
    exact ⟨j, there, by simpa [Instance.isEmpty] using empty⟩
  · obtain ⟨j, there, rfl⟩ := found here
    obtain ⟨b, before, rfl⟩ := Option.map_eq_some_iff.1 config
    exact ⟨j, b, there, before, rfl⟩

/-- A mutation sees to the form of the records that it leaves. -/
theorem FormedFrom.mutate (formed : FormedFrom node d source) (m : Mutation) :
    FormedFrom node (d.mutate node m) source := by
  -- A record is as before, or it is what the mutation leaves of its object, and not empty.
  have found {key : String} {i : Instance} (here : (d.mutate node m).instances.get? key = some i) :
      d.instances.get? key = some i ∨ i.isEmpty = false ∧ ∀ c, i.config = some c →
        (∃ j, d.instances.get? key = some j ∧ j.config = some c) ∨
          c.nodename = node ∧ c.scope ≠ [] := by
    rw [NodeData.mutate, get?_putInstance] at here
    split at here
    · rename_i own
      split at here
      · cases here
      · rename_i full
        cases here
        refine .inr ⟨by simpa using full, fun c config => ?_⟩
        refine (Instance.mutate_config config).imp_left fun before => ?_
        unfold instanceD at before
        rw [own]
        cases known : d.instances.get? m.path.toString with
        | none => simp [known, default] at before
        | some j => exact ⟨j, rfl, by simpa [known] using before⟩
    · exact .inl here
  refine ⟨fun key i c here config => ?_, fun key i here empty => ?_,
    fun key i c here config scope => ?_⟩
  · rcases found here with before | ⟨_, left⟩
    · exact formed.published key i c before config
    · rcases left c config with ⟨j, before, same⟩ | set
      · exact formed.published key j c before same
      · exact set.1
  · rcases found here with before | ⟨full, _⟩
    · exact formed.nonempty key i before empty
    · rw [empty] at full
      cases full
  · rcases found here with before | ⟨_, left⟩
    · exact formed.scope key i c before config scope
    · rcases left c config with ⟨j, before, same⟩ | set
      · exact formed.scope key j c before same scope
      · exact absurd scope set.2

/-- What was brought tidy is well kept. -/
theorem FormedFrom.wellKept (formed : FormedFrom node d source) (tidy : source.Tidy) :
    d.WellKept node := by
  refine ⟨fun key i here => ⟨?_, fun c config scope => ?_⟩,
    fun key i here c config => formed.published key i c here config⟩
  · refine Bool.eq_false_iff.2 fun empty => ?_
    obtain ⟨j, there, empty⟩ := formed.nonempty key i here empty
    rw [(tidy key j there).1] at empty
    cases empty
  · obtain ⟨j, b, there, before, rfl⟩ := formed.scope key i c here config scope
    exact (tidy key j there).2 b before scope

end NodeData

namespace Replica

variable {r : Replica} {node p : String} {past : List Moment}

/-- Everything of a node that was brought last, nothing if it never was. -/
def lastFull (past : List Moment) (p : String) : NodeData :=
  ((past.findSome? fun t => t.operation.full? t.replica p).map (·.2)).getD default

/-- When everything of a node is brought, it is what was brought last. -/
theorem lastFull_of_full {t : Moment} {everything : Generation × NodeData}
    (full : t.operation.full? t.replica p = some everything) :
    lastFull (t :: past) p = everything.2 := by
  rw [lastFull, List.findSome?_cons, full]
  rfl

/-- What does not bring everything of a node leaves what was brought last. -/
theorem lastFull_of_partly {t : Moment} (partly : t.operation.full? t.replica p = none) :
    lastFull (t :: past) p = lastFull past p := by
  rw [lastFull, List.findSome?_cons, partly]
  rfl

/-- Along a course what is kept of a node is formed from what was brought last. -/
theorem Course.formedFrom {cluster : ClusterConfig} {limit timeout : Nat}
    (course : Course (.new node cluster limit timeout) past r) (p : String) :
    (r.status.nodeD p).FormedFrom p (lastFull past p) := by
  induction course with
  | start =>
    by_cases own : p = node
    · rw [ClusterStatus.nodeD, own, new_get?_self]
      exact .ofEmpty node _ initialGeneration
    · have absent : (Replica.new node cluster limit timeout).status.nodes.get? p = none := by
        simp [Replica.new, SortedMap.get?_insert_of_ne _ _ own]
      rw [ClusterStatus.nodeD, absent]
      exact .ofEmpty p _ 0
  | @step past r o _ ih =>
    cases full : o.full? r p with
    | some everything =>
      have filled := operate_filled full
      rw [lastFull_of_full full, ClusterStatus.nodeD, filled.node]
      exact (NodeData.FormedFrom.publishedBy p everything.2).withGeneration everything.1
    | none =>
      rw [lastFull_of_partly full]
      exact operate_nodeD (motive := fun d => d.FormedFrom p (lastFull past p))
        (fun d m formed => formed.mutate m) (fun d generation formed =>
          formed.withGeneration generation) ih full

/-- Whatever is done with a node, what it keeps of every node is tidy where what was last brought
in full is, and its configurations are published by that node. -/
theorem Course.formed {cluster : ClusterConfig} {limit timeout : Nat}
    (course : Course (.new node cluster limit timeout) past r) (p : String) :
    (r.status.nodeD p).FormedFrom p (lastFull past p) ∧
      ((lastFull past p).Tidy → (r.status.nodeD p).WellKept p) :=
  ⟨course.formedFrom p, (course.formedFrom p).wellKept⟩

/-- A node that was brought an instance without a record and then, anew, a configured one. -/
def mended : List Moment × Replica :=
  let brought (generation : Generation) (web : Instance) : Operation :=
    .call (.applyMessage ⟨"n2", generation, ∅, .full ⟨generation,
      (∅ : SortedMap String Instance).insert "web" web⟩⟩ 0)
  pursue [] (.new "n1" ⟨"c", ["n1", "n2"]⟩ 8 1000)
    [brought 1 ⟨none, none, none⟩, brought 2 ⟨some ⟨"", .epoch, ["n2"], ""⟩, none, none⟩]

/-- What was brought last is tidy, and so is what is kept. -/
theorem formed_of_mended :
    Course (.new "n1" ⟨"c", ["n1", "n2"]⟩ 8 1000) mended.1 mended.2 ∧
      (lastFull mended.1 "n2").Tidy ∧ (mended.2.status.nodeD "n2").WellKept "n2" := by
  have course : Course (.new "n1" ⟨"c", ["n1", "n2"]⟩ 8 1000) mended.1 mended.2 :=
    Course.start.pursue _
  have tidy : (lastFull mended.1 "n2").Tidy := by decide +kernel
  exact ⟨course, tidy, (course.formed "n2").2 tidy⟩

/-- A peer says that it has an instance without a record, and one without a scope. -/
def bare : Message :=
  let web := (∅ : SortedMap String Instance).insert "web" ⟨none, none, none⟩
  ⟨"n2", 1, ∅, .full ⟨1, web.insert "db" ⟨some ⟨"", .epoch, [], ""⟩, none, none⟩⟩⟩

/-- What the peer sends for it. -/
def barePayload : Bytes :=
  Bytes.ofText ("\x7b\"kind\":\"full\",\"nodename\":\"n2\",\"gen\":1,\"gens\":\x7b\x7d," ++
    "\"data\":\x7b\"gen\":1,\"instances\":\x7b\"web\":\x7b\x7d,\"db\":\x7b\"config\":" ++
    "\x7b\"csum\":\"\",\"updated\":\"1970-01-01T00:00:00Z\",\"scope\":[]" ++
    "\x7d\x7d\x7d\x7d\x7d")

/-- Both are taken, and kept as they are. -/
theorem untidy_of_bare : (Inbound.mk "n2" barePayload).message? = some bare ∧
    ¬ (((Replica.new "n1" ⟨"c", ["n1", "n2"]⟩ 8 1000).applyMessage bare 0).1.status.nodeD
      "n2").Tidy :=
  ⟨by decide +kernel, by decide +kernel⟩

end Replica

end ClusterNode
