import ClusterNode.Cluster.Filter
import ClusterNode.Proofs.SortedMap
import ClusterNode.Proofs.Text.Selector

/-!
# What is left of a filtered tree

Both filters keep the records of some keys and leave everything else as it is (`Restricts`). A tree
that restricts another one by a condition is the only one that does, so that filters by conditions
that come to the same make the same tree, in whatever order and however often they are applied.

The selector of the running node matches globs itself; one that goes by regular expressions selects
the same, whatever engine compiles them, if it compiles those of the selector.
-/

namespace ClusterNode.ClusterStatus

/-- One tree is another one with those instances and objects only whose keys are to be kept. -/
structure Restricts (s' s : ClusterStatus) (keep : String → Prop) : Prop where
  cluster : s'.cluster = s.cluster
  daemon : s'.daemon = s.daemon
  /-- The same nodes are there, as of the same generations. -/
  generations : ∀ node,
    (s'.nodes.get? node).map (·.generation) = (s.nodes.get? node).map (·.generation)
  instances : ∀ node path i, s'.instance? node path = some i ↔
    keep path ∧ s.instance? node path = some i
  objects : ∀ path o, s'.objects.get? path = some o ↔ keep path ∧ s.objects.get? path = some o

variable {s s' s'' : ClusterStatus} {keep keep' : String → Prop}

namespace Restricts

/-- Conditions that agree on every key restrict alike. -/
theorem congr (restricts : Restricts s' s keep) (same : ∀ key, keep key ↔ keep' key) :
    Restricts s' s keep' := by
  obtain rfl : keep = keep' := funext fun key => propext (same key)
  exact restricts

/-- Every tree is itself, with all keys kept. -/
theorem refl (s : ClusterStatus) : Restricts s s fun _ => True where
  cluster := rfl
  daemon := rfl
  generations _ := rfl
  instances _ _ _ := (and_iff_right trivial).symm
  objects _ _ := (and_iff_right trivial).symm

/-- A restriction of a restriction keeps the keys that both keep. -/
theorem trans (second : Restricts s'' s' keep') (first : Restricts s' s keep) :
    Restricts s'' s fun key => keep' key ∧ keep key where
  cluster := second.cluster.trans first.cluster
  daemon := second.daemon.trans first.daemon
  generations node := (second.generations node).trans (first.generations node)
  instances node path i := by rw [second.instances, first.instances, and_assoc]
  objects path o := by rw [second.objects, first.objects, and_assoc]

/-- A tree restricts another one by a condition in one way only. -/
theorem unique (one : Restricts s' s keep) (other : Restricts s'' s keep) : s' = s'' := by
  have nodes : s'.nodes = s''.nodes := by
    refine SortedMap.ext_get? fun node => ?_
    have generations := (one.generations node).trans (other.generations node).symm
    have instances : ∀ path, s'.instance? node path = s''.instance? node path := fun path =>
      Option.ext fun i => (one.instances node path i).trans (other.instances node path i).symm
    unfold instance? at instances
    cases here : s'.nodes.get? node with
    | none =>
      rw [here, Option.map_none] at generations
      exact (Option.map_eq_none_iff.1 generations.symm).symm
    | some d =>
      rw [here, Option.map_some] at generations
      obtain ⟨d', there, generation⟩ := Option.map_eq_some_iff.1 generations.symm
      rw [here, there] at instances
      have records : d.instances = d'.instances := SortedMap.ext_get? instances
      rw [there]
      cases d
      cases d'
      cases generation
      cases records
      rfl
  have objects : s'.objects = s''.objects := by
    refine SortedMap.ext_get? fun path => Option.ext fun o => ?_
    rw [one.objects, other.objects]
  have cluster := one.cluster.trans other.cluster.symm
  have daemon := one.daemon.trans other.daemon.symm
  cases s'
  cases s''
  cases nodes
  cases objects
  cases cluster
  cases daemon
  rfl

end Restricts

/-- A tree of which some keys are retained is restricted by these. -/
theorem restricts_retain (s : ClusterStatus) (keep : String → Bool) :
    Restricts (s.retain keep) s fun key => keep key = true where
  cluster := rfl
  daemon := rfl
  generations node := by
    rw [retain, SortedMap.get?_mapValues, Option.map_map]
    rfl
  instances node path i := by
    rw [instance?, retain, SortedMap.get?_mapValues]
    unfold instance?
    cases s.nodes.get? node with
    | none => simp
    | some d =>
      rw [Option.map_some, Option.bind_some, SortedMap.get?_filter, Option.filter_eq_some_iff,
        Option.bind_some]
      exact and_comm
  objects path o := by
    rw [retain, SortedMap.get?_filter, Option.filter_eq_some_iff]
    exact and_comm

/-! ## The filters -/

/-- A selector keeps the object of a key. -/
def KeepsSelected (selector key : String) : Prop :=
  Text.Blank selector.toList ∨ Text.Selects selector.toList key.toList

/-- A namespace keeps the object of a key. -/
def KeepsInSpace (space key : String) : Prop :=
  space = "" ∨ ∃ p, ObjectPath.parse key = .ok p ∧ p.space = space

/-- A selector that keeps all, or those objects of which a test says so. -/
theorem restricts_ite {selector : String} {keep : String → Bool}
    (selects : ∀ key, keep key = true ↔ Text.Selects selector.toList key.toList) :
    Restricts (if (Text.trim selector.toList).isEmpty then s else s.retain keep) s
      (KeepsSelected selector) := by
  by_cases blank : Text.Blank selector.toList
  · rw [if_pos (List.isEmpty_iff.2 (Text.trim_eq_nil_iff.2 blank))]
    exact (Restricts.refl s).congr fun _ => ⟨fun _ => .inl blank, fun _ => trivial⟩
  · rw [if_neg (mt (Text.trim_eq_nil_iff.1 ∘ List.isEmpty_iff.1) blank)]
    refine (restricts_retain s keep).congr fun key => ?_
    rw [selects, KeepsSelected, or_iff_right blank]

/-- A selector restricts the tree to the keys that it keeps. -/
theorem restricts_withSelector (s : ClusterStatus) (selector : String) :
    Restricts (s.withSelector selector) s (KeepsSelected selector) :=
  restricts_ite fun key => Text.selects_iff selector key

/-- Regular expressions select as globs do, if the engine compiles those of the selector. -/
theorem restricts_withSelectorBy {engine : Text.Engine} (documented : engine.Documented)
    (s : ClusterStatus) {selector : String}
    (compiles : ∀ pattern, Text.HasPattern selector.toList pattern →
      (engine.compile (Text.Expression.ofGlob pattern)).isSome = true) :
    Restricts (s.withSelectorBy engine selector) s (KeepsSelected selector) :=
  restricts_ite fun key => Text.Engine.any_tests_iff documented compiles key.toList

/-- A key is in a namespace if it is the path of an object there. -/
theorem inSpace_iff {space key : String} :
    inSpace space key = true ↔ ∃ p, ObjectPath.parse key = .ok p ∧ p.space = space := by
  unfold inSpace
  cases ObjectPath.parse key with
  | ok p => simp
  | error e => simp

/-- A namespace restricts the tree to its own keys. -/
theorem restricts_withNamespace (s : ClusterStatus) (space : String) :
    Restricts (s.withNamespace space) s (KeepsInSpace space) := by
  unfold withNamespace
  by_cases every : space = ""
  · rw [if_pos every]
    exact (Restricts.refl s).congr fun _ => ⟨fun _ => .inl every, fun _ => trivial⟩
  · rw [if_neg every]
    refine (restricts_retain s (inSpace space)).congr fun key => ?_
    rw [inSpace_iff, KeepsInSpace, or_iff_right every]

/-- Filters that keep keys by conditions commute. -/
theorem Restricts.comm {f g : ClusterStatus → ClusterStatus}
    (first : ∀ s, Restricts (f s) s keep) (second : ∀ s, Restricts (g s) s keep')
    (s : ClusterStatus) : g (f s) = f (g s) :=
  ((second (f s)).trans (first s)).unique
    (((first (g s)).trans (second s)).congr fun _ => and_comm)

/-- A filter that keeps keys by a condition does nothing the second time. -/
theorem Restricts.idem {f : ClusterStatus → ClusterStatus}
    (filter : ∀ s, Restricts (f s) s keep) (s : ClusterStatus) : f (f s) = f s :=
  (((filter (f s)).trans (filter s)).congr fun _ => and_self_iff).unique (filter s)

/-- A selector keeps exactly the keys that it selects and a namespace exactly its own, in the
instances of every node and the objects alike; all else stays as it is, and the two filters may be
applied in any order and any number of times. -/
theorem filtered_by_keys {engine : Text.Engine} (documented : engine.Documented)
    (selector space : String)
    (compiles : ∀ pattern, Text.HasPattern selector.toList pattern →
      (engine.compile (Text.Expression.ofGlob pattern)).isSome = true) (s : ClusterStatus) :
    (s.withSelectorBy engine selector).Restricts s (KeepsSelected selector) ∧
    (s.withNamespace space).Restricts s (KeepsInSpace space) ∧
    (s.withSelectorBy engine selector).withNamespace space =
      (s.withNamespace space).withSelectorBy engine selector ∧
    (s.withSelectorBy engine selector).withSelectorBy engine selector =
      s.withSelectorBy engine selector ∧
    (s.withNamespace space).withNamespace space = s.withNamespace space ∧
    s.withSelectorBy engine selector = s.withSelector selector := by
  have selected := fun s => restricts_withSelectorBy documented s compiles
  have named := fun s => restricts_withNamespace s space
  exact ⟨selected s, named s, Restricts.comm selected named s, Restricts.idem selected s,
    Restricts.idem named s, (selected s).unique (restricts_withSelector s selector)⟩

/-- A point stands for itself, blanks around a pattern for nothing, and a comma at the end adds no
pattern. -/
theorem filtered_by_keys_of_dotted :
    let selector := " w*, a.b ,"
    let records : SortedMap String Instance :=
      .ofList [("a.b", default), ("axb", default), ("web", default)]
    let s : ClusterStatus :=
      { cluster := default
        daemon := default
        nodes := .ofList [("n1", ⟨7, records⟩), ("n2", ⟨3, ∅⟩)]
        objects := .ofList [("a.b", default), ("ns/svc/web", default), ("web", default)] }
    let selected := s.withSelectorBy .reading selector
    Text.Engine.reading.Documented ∧
    (∀ pattern, Text.HasPattern selector.toList pattern →
      (Text.Engine.reading.compile (Text.Expression.ofGlob pattern)).isSome = true) ∧
    selected.Restricts s (KeepsSelected selector) ∧
    selected.withNamespace "ns" = (s.withNamespace "ns").withSelectorBy .reading selector ∧
    (selected.nodes.keys = ["n1", "n2"] ∧
      selected.nodes.values.map (·.instances.keys) = [["a.b", "web"], []] ∧
      selected.objects.keys = ["a.b", "web"] ∧ (selected.withNamespace "ns").objects.keys = [] ∧
      (s.withNamespace "ns").objects.keys = ["ns/svc/web"]) := by
  intro selector records s selected
  have documented := Text.Engine.documented_reading
  have compiles := fun pattern (_ : Text.HasPattern selector.toList pattern) =>
    Text.Engine.isSome_reading_ofGlob pattern
  obtain ⟨restricts, _, commute, _⟩ := filtered_by_keys documented selector "ns" compiles s
  exact ⟨documented, compiles, restricts, commute, by decide +kernel⟩

end ClusterNode.ClusterStatus
