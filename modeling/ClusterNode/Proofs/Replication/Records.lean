import ClusterNode.Proofs.Object.Path
import ClusterNode.Proofs.Replication.Operations

/-!
# Records and the events that tell of them

Each event about an instance tells of one record: whose it is, and what it is now, if it is
still there. `Records.replay` makes the changes that publications tell of, in order.

`Records.Tells` relates the records before and after an operation with what it published:
replaying gives the records after it, every change is a real one when its turn comes, and
every publication is labelled with the object and the node of its record. It holds of
mutations and of differences, and it composes.
-/

namespace ClusterNode

/-! ## What events tell -/

/-- What becomes of one record of an instance. -/
inductive RecordNews where
  | config (now : Option InstanceConfig)
  | status (now : Option InstanceStatus)
  | monitor (now : Option InstanceMonitor)
  deriving DecidableEq

namespace RecordNews

/-- The records of an instance after news of one of them. -/
def apply (i : Instance) : RecordNews → Instance
  | .config now => { i with config := now }
  | .status now => { i with status := now }
  | .monitor now => { i with monitor := now }

/-- Whether the record differs from what the news say it is now: a new value is another one,
and a lost record was there. -/
def IsReal (i : Instance) : RecordNews → Prop
  | .config now => i.config ≠ now
  | .status now => i.status ≠ now
  | .monitor now => i.monitor ≠ now

/-- News that are no change leave the records. -/
theorem apply_of_not_isReal {i : Instance} {n : RecordNews} (same : ¬ n.IsReal i) :
    n.apply i = i := by
  cases n <;> cases Classical.not_not.1 same <;> rfl

end RecordNews

/-- A change of one record of an instance. -/
structure RecordChange where
  path : ObjectPath
  node : String
  news : RecordNews
  deriving DecidableEq

/-- The change of a record that an event tells of. -/
def Event.change? : Event → Option RecordChange
  | .configUpdated path node value => some ⟨path, node, .config (some value)⟩
  | .configDeleted path node => some ⟨path, node, .config none⟩
  | .instanceStatusUpdated path node value => some ⟨path, node, .status (some value)⟩
  | .instanceStatusDeleted path node => some ⟨path, node, .status none⟩
  | .instanceMonitorUpdated path node value => some ⟨path, node, .monitor (some value)⟩
  | .instanceMonitorDeleted path node => some ⟨path, node, .monitor none⟩
  | _ => none

/-- The records of all instances, by their node and the written form of their object. -/
abbrev Records := String → String → Instance

namespace Records

/-- The records after those of one instance were replaced. -/
def set (t : Records) (node key : String) (i : Instance) : Records := fun node' key' =>
  if node' = node ∧ key' = key then i else t node' key'

/-- The records after a change. -/
def change (t : Records) (c : RecordChange) : Records :=
  t.set c.node c.path.toString (c.news.apply (t c.node c.path.toString))

/-- The records after an event. -/
def tell (t : Records) (e : Event) : Records :=
  match e.change? with
  | some c => t.change c
  | none => t

/-- The records after publications, the earliest first. -/
def replay (t : Records) (news : List Publication) : Records :=
  news.foldl (fun t p => t.tell p.event) t

/-- Whether every publication that tells of a record changes it when its turn comes. -/
def Genuine (t : Records) : List Publication → Prop
  | [] => True
  | p :: news =>
    (∀ c, p.event.change? = some c → c.news.IsReal (t c.node c.path.toString)) ∧
      (t.tell p.event).Genuine news

/-- Publications tell how one state of the records became another. -/
structure Tells (t : Records) (news : List Publication) (u : Records) : Prop where
  replay : t.replay news = u
  genuine : t.Genuine news
  labelled : ∀ p ∈ news, ∀ c, p.event.change? = some c → p.labels = [.path c.path, .node c.node]

variable {t u v : Records} {news later : List Publication} {node key : String} {i j : Instance}

/-! ## One instance replaced -/

/-- The records that were put are there. -/
@[simp] theorem set_self : t.set node key i node key = i := by
  simp [set]

/-- Of two records that are put in one place the second one is there. -/
@[simp] theorem set_set : (t.set node key i).set node key j = t.set node key j := by
  funext node' key'
  simp only [set]
  split <;> rfl

/-- Records that are put where they are change nothing. -/
theorem set_of_eq (same : t node key = i) : t.set node key i = t := by
  funext node' key'
  simp only [set]
  split
  · rename_i here
    rw [here.1, here.2, same]
  · rfl

/-- Records that are put leave every other place. -/
theorem set_of_ne {node' key' : String} (off : node' ≠ node ∨ key' ≠ key) :
    t.set node key i node' key' = t node' key' :=
  if_neg (Classical.not_and_iff_not_or_not.2 off)

/-- The records after those of one node were replaced. -/
def setNode (t : Records) (node : String) (f : String → Instance) : Records := fun node' =>
  if node' = node then f else t node'

/-! ## Telling -/

/-- Where nothing changes nothing is to be told. -/
theorem tells_nil : t.Tells [] t where
  replay := rfl
  genuine := trivial
  labelled _ new := by cases new

/-- Publications are genuine if the first ones are, and the later ones after them. -/
theorem genuine_append : t.Genuine (news ++ later) ↔ t.Genuine news ∧ (t.replay news).Genuine later := by
  induction news generalizing t with
  | nil => simp [Genuine, Records.replay]
  | cons p news ih =>
    simp only [List.cons_append, Genuine, ih, and_assoc]
    rfl

/-- One operation after the other. -/
theorem Tells.append (first : t.Tells news u) (second : u.Tells later v) :
    t.Tells (news ++ later) v where
  replay := by
    rw [Records.replay, List.foldl_append, ← second.replay, ← first.replay]
    rfl
  genuine := genuine_append.2 ⟨first.genuine, by rw [first.replay]; exact second.genuine⟩
  labelled p new := by
    rcases List.mem_append.1 new with old | new
    · exact first.labelled p old
    · exact second.labelled p new

/-- Publications that tell of no record change none. -/
theorem tells_of_silent (silent : ∀ p ∈ news, p.event.change? = none) : t.Tells news t := by
  induction news with
  | nil => exact tells_nil
  | cons p news ih =>
    have first := silent p (List.mem_cons_self ..)
    obtain ⟨replay, genuine, labelled⟩ := ih fun q new => silent q (List.mem_cons_of_mem _ new)
    have same : t.tell p.event = t := by simp [tell, first]
    refine ⟨?_, ⟨by simp [first], by rwa [same]⟩, ?_⟩
    · rw [Records.replay, List.foldl_cons, same]
      exact replay
    · intro q new
      rcases List.mem_cons.1 new with rfl | new
      · simp [first]
      · exact labelled q new

/-- One publication about an instance. -/
theorem tells_instance {e : Event} {p : ObjectPath} {n : RecordNews}
    (told : e.change? = some ⟨p, node, n⟩) (real : n.IsReal i) :
    (t.set node p.toString i).Tells [.ofInstance e p node] (t.set node p.toString (n.apply i)) where
  replay := by simp [Records.replay, tell, Publication.ofInstance, told, change]
  genuine := by
    refine ⟨fun c same => ?_, trivial⟩
    cases told.symm.trans same
    simpa using real
  labelled q new c same := by
    cases List.mem_singleton.1 new
    cases told.symm.trans same
    rfl

end Records

open Records

/-! ## Mutations -/

namespace Instance

variable (t : Records) (i : Instance) (node name : String) (p : ObjectPath)

/-- A publication that is made only if it tells of a change. -/
private theorem tells_if (e : Event) (n : RecordNews) {real : Prop} [Decidable real]
    (told : e.change? = some ⟨p, node, n⟩) (changes : real ↔ n.IsReal i) :
    (t.set node p.toString i).Tells (if real then [.ofInstance e p node] else [])
      (t.set node p.toString (n.apply i)) := by
  by_cases holds : real
  · rw [if_pos holds]
    exact tells_instance told (changes.1 holds)
  · rw [if_neg holds, RecordNews.apply_of_not_isReal (mt changes.2 holds)]
    exact tells_nil

/-- A configuration is deleted, and what goes with it. -/
theorem delConfig_tells :
    (t.set node p.toString i).Tells (i.delConfig node p).2
      (t.set node p.toString (i.delConfig node p).1) := by
  have status := tells_if t i node p (.instanceStatusDeleted p node) (.status none) rfl
    Option.isSome_iff_ne_none
  have monitor := tells_if t { i with status := none } node p (.instanceMonitorDeleted p node)
    (.monitor none) rfl Option.isSome_iff_ne_none
  have config := tells_if t { i with status := none, monitor := none } node p
    (.configDeleted p node) (.config none) rfl Option.isSome_iff_ne_none
  exact (status.append monitor).append config

/-- A configuration is set; what is told of the membership is about no record. -/
theorem setConfig_tells (value : InstanceConfig) :
    (t.set node p.toString i).Tells (i.setConfig name node p value).2
      (t.set node p.toString (i.setConfig name node p value).1) := by
  simp only [setConfig]
  split
  · exact tells_nil
  · rename_i different
    rw [← List.singleton_append]
    refine (tells_instance (n := .config _) rfl different).append (tells_of_silent ?_)
    intro q new
    split at new
    · cases List.mem_singleton.1 new
      rfl
    · cases new

/-- The events of a mutation tell of what it does to the records of its object. -/
theorem mutate_tells (m : Mutation) :
    (t.set node m.path.toString i).Tells (i.mutate name node m).2
      (t.set node m.path.toString (i.mutate name node m).1) := by
  cases m with
  | setConfig p value =>
    simp only [mutate]
    split
    · exact delConfig_tells ..
    · exact setConfig_tells ..
  | delConfig p => exact delConfig_tells ..
  | setStatus p value =>
    simp only [mutate]
    split
    · exact tells_nil
    · rename_i different
      exact tells_instance (n := .status _) rfl different
  | delStatus p =>
    simp only [mutate]
    split
    · rename_i there
      exact tells_instance (n := .status none) rfl (Option.isSome_iff_ne_none.1 there)
    · exact tells_nil
  | setMonitor p value =>
    simp only [mutate]
    split
    · exact tells_nil
    · rename_i different
      exact tells_instance (n := .monitor _) rfl different
  | delMonitor p =>
    simp only [mutate]
    split
    · rename_i there
      exact tells_instance (n := .monitor none) rfl (Option.isSome_iff_ne_none.1 there)
    · exact tells_nil

/-! ## Differences -/

/-- The difference of one kind of record tells how it became what it is. -/
private theorem recordDifference_tells {α : Type} [DecidableEq α] (updated : α → Event)
    (deleted : Event) (now : Option α → RecordNews) (before after : Option α)
    (toldUpdated : ∀ v, (updated v).change? = some ⟨p, node, now (some v)⟩)
    (toldDeleted : deleted.change? = some ⟨p, node, now none⟩)
    (real : (now after).IsReal i ↔ before ≠ after) :
    (t.set node p.toString i).Tells
      ((recordDifference updated deleted before after).map fun e => .ofInstance e p node)
      (t.set node p.toString ((now after).apply i)) := by
  by_cases same : before = after
  · have nothing : recordDifference updated deleted before after = [] := by
      subst same
      cases before <;> simp [recordDifference]
    rw [nothing, RecordNews.apply_of_not_isReal (mt real.1 (Classical.not_not.2 same))]
    exact tells_nil
  · cases after with
    | some v =>
      rw [recordDifference, if_neg same]
      exact tells_instance (toldUpdated v) (real.2 same)
    | none =>
      obtain ⟨v, rfl⟩ := Option.ne_none_iff_exists'.1 same
      exact tells_instance toldDeleted (real.2 same)

/-- The difference of two instances tells how one became the other. -/
theorem difference_tells (before after : Instance) :
    (t.set node p.toString before).Tells (before.difference node p after)
      (t.set node p.toString after) := by
  have config := recordDifference_tells t before node p (.configUpdated p node)
    (.configDeleted p node) .config before.config after.config (fun _ => rfl) rfl Iff.rfl
  have status := recordDifference_tells t { before with config := after.config } node p
    (.instanceStatusUpdated p node) (.instanceStatusDeleted p node) .status before.status
    after.status (fun _ => rfl) rfl Iff.rfl
  have monitor := recordDifference_tells t
    { before with config := after.config, status := after.status } node p
    (.instanceMonitorUpdated p node) (.instanceMonitorDeleted p node) .monitor before.monitor
    after.monitor (fun _ => rfl) rfl Iff.rfl
  rw [difference, List.map_append, List.map_append]
  exact (config.append status).append monitor

end Instance

/-- Every key of a subtree is an object path in its written form. -/
def NodeData.Keyed (d : NodeData) : Prop :=
  ∀ key i, d.instances.get? key = some i → ObjectPath.IsWritten key

instance (d : NodeData) : Decidable d.Keyed :=
  inferInstanceAs (Decidable (∀ _ _, _ → _))

namespace NodeData

variable {d before after : NodeData} {node key : String}

/-- What is said of the objects that have no records. -/
theorem instanceD_of_not_mem (absent : key ∉ d.instances.keys) : d.instanceD key = default := by
  rw [SortedMap.mem_keys_iff_contains, SortedMap.contains, Bool.not_eq_true,
    Option.isSome_eq_false_iff, Option.isNone_iff_eq_none] at absent
  simp [instanceD, absent]

/-- The records after those of one object were replaced. -/
theorem instanceD_putInstance (other : String) (i : Instance) :
    (d.putInstance key i).instanceD other = if other = key then i else d.instanceD other := by
  unfold instanceD
  rw [get?_putInstance]
  split
  · split
    · rename_i empty
      obtain ⟨config, status, monitor⟩ := i
      simp only [Instance.isEmpty, Bool.and_eq_true, Option.isNone_iff_eq_none] at empty
      obtain ⟨⟨rfl, rfl⟩, rfl⟩ := empty
      rfl
    · rfl
  · rfl

/-- A mutation of a path that its written form names keeps the keys written. -/
theorem Keyed.mutate {m : Mutation} (keyed : d.Keyed) (back : m.path.PrintsBack) :
    (d.mutate node m).Keyed := by
  intro key i found
  rw [NodeData.mutate, get?_putInstance] at found
  split at found
  · rename_i same
    rw [same]
    exact back.isWritten
  · exact keyed key i found

/-- Mutations about paths that print back keep the keys of a subtree written. -/
theorem Keyed.mutateAll {ms : List Mutation} (keyed : d.Keyed)
    (back : ∀ m ∈ ms, m.path.PrintsBack) : (d.mutateAll node ms).Keyed := by
  induction ms generalizing d with
  | nil => exact keyed
  | cons m ms ih =>
    exact ih (keyed.mutate (back m (List.mem_cons_self ..)))
      fun m later => back m (List.mem_cons_of_mem _ later)

/-- Who publishes the configurations makes no difference to the keys. -/
theorem Keyed.publishedBy (keyed : d.Keyed) (node : String) : (d.publishedBy node).Keyed := by
  intro key i found
  change (d.instances.mapValues _).get? key = some i at found
  rw [SortedMap.get?_mapValues] at found
  obtain ⟨j, before, _⟩ := Option.map_eq_some_iff.1 found
  exact keyed key j before

/-- The keys of two subtrees are those of the one and of the other. -/
theorem mem_allKeys :
    key ∈ allKeys before after ↔ key ∈ before.instances.keys ∨ key ∈ after.instances.keys := by
  simp only [allKeys, SortedMap.mem_keys_iff_contains]
  rw [SortedMap.contains, SortedMap.get?_foldl_keys, SortedMap.get?_mapValues]
  split <;> simp_all [SortedMap.contains]

/-- The differences of some objects tell how their records became what they are. -/
private theorem flatMap_difference_tells (after : NodeData) {t : Records} {keys : List String}
    (once : keys.Nodup) (written : ∀ key ∈ keys, ObjectPath.IsWritten key)
    (held : ∀ key ∈ keys, t node key = before.instanceD key) :
    t.Tells
      (keys.flatMap fun key =>
        match ObjectPath.parse key with
        | .ok p => (before.instanceD key).difference node p (after.instanceD key)
        | .error _ => [])
      (fun node' key => if node' = node ∧ key ∈ keys then after.instanceD key else t node' key) := by
  induction keys generalizing t with
  | nil =>
    simp only [List.flatMap_nil, List.not_mem_nil, and_false, if_false]
    exact tells_nil
  | cons key keys ih =>
    have other := (List.nodup_cons.1 once).1
    obtain ⟨p, parsed, rfl⟩ := written key (List.mem_cons_self ..)
    have first := Instance.difference_tells t node p (before.instanceD p.toString)
      (after.instanceD p.toString)
    rw [set_of_eq (held _ (List.mem_cons_self ..))] at first
    have later := ih (t := t.set node p.toString (after.instanceD p.toString))
      (List.nodup_cons.1 once).2
      (fun key more => written key (List.mem_cons_of_mem _ more))
      (fun key more => by
        have different : key ≠ p.toString := fun same => other (same ▸ more)
        rw [set_of_ne (.inr different)]
        exact held key (List.mem_cons_of_mem _ more))
    rw [List.flatMap_cons, parsed]
    have same : (fun node' key => if node' = node ∧ key ∈ p.toString :: keys then
          after.instanceD key else t node' key) =
        fun node' key => if node' = node ∧ key ∈ keys then after.instanceD key
          else t.set node p.toString (after.instanceD p.toString) node' key := by
      funext node' key
      by_cases here : node' = node ∧ key = p.toString
      · obtain ⟨rfl, rfl⟩ := here
        simp
      · have off : node' ≠ node ∨ key ≠ p.toString := Classical.not_and_iff_not_or_not.1 here
        rw [set_of_ne off]
        have cons : (node' = node ∧ key ∈ p.toString :: keys) ↔ node' = node ∧ key ∈ keys := by
          simp only [List.mem_cons]
          grind
        simp only [cons]
    rw [same]
    exact first.append later

/-- The difference of two states of a node tells how the records of the node became what
they are. -/
theorem difference_tells {t : Records} (held : t node = before.instanceD)
    (keyed : before.Keyed) (keyed' : after.Keyed) :
    t.Tells (difference node before after) (t.setNode node after.instanceD) := by
  have told := flatMap_difference_tells after
    (show (allKeys before after).Nodup from SortedMap.nodup_keys _)
    (fun key listed => by
      rcases mem_allKeys.1 listed with listed | listed
      · obtain ⟨i, found⟩ := SortedMap.mem_keys_iff.1 listed
        exact keyed key i found
      · obtain ⟨i, found⟩ := SortedMap.mem_keys_iff.1 listed
        exact keyed' key i found)
    (fun key _ => congrFun held key)
  have same : t.setNode node after.instanceD = fun node' key =>
      if node' = node ∧ key ∈ allKeys before after then after.instanceD key else t node' key := by
    funext node' key
    by_cases mine : node' = node
    · subst mine
      by_cases listed : key ∈ allKeys before after
      · simp [setNode, listed]
      · -- Where neither state has records they are the same.
        rw [if_neg (fun both => listed both.2), held]
        obtain ⟨absent, absent'⟩ := not_or.1 (mt mem_allKeys.2 listed)
        simp [setNode, instanceD_of_not_mem absent, instanceD_of_not_mem absent']
    · simp [setNode, mine]
  rw [same]
  exact told

end NodeData

/-! ## The records of a tree -/

namespace ClusterStatus

variable (s : ClusterStatus) (node : String) (m : Mutation) (ms : List Mutation)

/-- The records of all instances in the tree. -/
def records : Records := fun node key => (s.nodeD node).instanceD key

/-- A subtree that is put changes the records of its node. -/
theorem records_of_nodes {s s' : ClusterStatus} {node : String} {d : NodeData}
    (nodes : s'.nodes = s.nodes.insert node d) :
    s'.records = s.records.setNode node d.instanceD := by
  funext node' key
  simp only [records, setNode, nodeD, nodes, SortedMap.get?_insert]
  split <;> rfl

/-- A mutation replaces the records of its object. -/
theorem records_mutate :
    (s.mutate node m).1.records = s.records.set node m.path.toString
      ((s.records node m.path.toString).mutate s.cluster.config.name node m).1 := by
  rw [records_of_nodes (mutate_nodes s node m)]
  funext node' key
  simp only [setNode, Records.set, NodeData.mutate]
  by_cases mine : node' = node
  · subst mine
    rw [if_pos rfl, NodeData.instanceD_putInstance, Instance.mutate_records _ "" s.cluster.config.name]
    simp only [true_and]
    rfl
  · simp [mine]

/-- The events of a mutation tell of what it does to the records. -/
theorem mutate_tells : s.records.Tells (s.mutate node m).2 (s.mutate node m).1.records := by
  have told := Instance.mutate_tells s.records (s.records node m.path.toString) node
    s.cluster.config.name m
  rw [set_of_eq rfl] at told
  rw [records_mutate, mutate_events]
  exact told

/-- The events of mutations tell of what they do to the records. -/
theorem mutateAll_tells :
    s.records.Tells (s.mutateAll node ms).2 (s.mutateAll node ms).1.records := by
  induction ms generalizing s with
  | nil => exact tells_nil
  | cons m ms ih => exact (mutate_tells s node m).append (ih _)

end ClusterStatus

end ClusterNode
