import ClusterNode.Heartbeat.Manager
import ClusterNode.Proofs.Object.Instance
import ClusterNode.Proofs.Object.Path

/-!
# Messages that survive the wire

A message that is written as JSON is read back by its receiver as it was, but for the nodes that
configurations were published by: `Message.reads_back_unnamed`. The paths in it have to be named by
their written form, and the years of its times to have four digits.

A mutation and a message are found by their tag first and then taken whole, so what is beside the
tag is read in the other of the two ways; `Json.ReadsAs` covers both.
-/

namespace ClusterNode

open Json

/-- A path that prints back reads back as itself. -/
theorem ObjectPath.readsAs (h : Nat) {p : ObjectPath} (back : p.PrintsBack) : ReadsAs h p p :=
  ⟨.str _, nofun, fun _ => congrArg Except.toOption back⟩

/-! ## What a node says -/

namespace NodeData

variable {d : NodeData}

/-- What a node says as it is written. -/
def unnamed (d : NodeData) : NodeData := { d with instances := d.instances.mapValues (·.unnamed) }

/-- The times in what a node says. -/
def times (d : NodeData) : List Timestamp := d.instances.values.flatMap (·.times)

/-- What a node says reads back without the node that published it. -/
theorem readsAs (h : Nat) (digits : ∀ t ∈ d.times, t.FourDigits) :
    ReadsAs (h + 7) d d.unnamed := by
  have generation := readsAs_uInt64 (h + 6) d.generation
  have each : ∀ e ∈ d.instances.entries, ReadsAs (h + 5) e.2 e.2.unnamed := fun e member =>
    Instance.readsAs h fun t of => digits t <|
      List.mem_flatMap.2 ⟨e.2, List.mem_map_of_mem member, of⟩
  have instances := readsAs_map each
  refine readsAs_record ["gen", "instances"] [some (toJson d.generation), some (toJson d.instances)]
    rfl (by decide) rfl ?_ fun r read => ?_
  · simp only [List.forall_mem_cons]
    exact ⟨generation.field, instances.field, nofun⟩
  · change (Json.record? _ (toJson d)).bind _ = _
    rw [read]
    simp only [Option.bind_some, generation.required r, instances.required r, Option.bind_eq_bind]
    rfl

end NodeData

/-! ## Changes -/

namespace Mutation

variable {h : Nat} {m : Mutation} {op : String}

/-- A change as it is written. -/
def unnamed : Mutation → Mutation
  | .setConfig p v => .setConfig p v.unnamed
  | m => m

/-- The times in a change. -/
def times : Mutation → List Timestamp
  | .setConfig _ v => v.times
  | .setStatus _ v => v.times
  | .setMonitor _ v => v.times
  | .delConfig _ | .delStatus _ | .delMonitor _ => []

/-- The change of an object to a value, from what stands beside the tag. -/
def setting? {α : Type} [Wire α] (set : ObjectPath → α → Mutation) (v : Json) :
    Option Mutation := do
  let [path, value] ← v.record? ["path", "value"] | none
  some (set (← Json.required .whole path) (← Json.required .whole value))

/-- The change of an object that takes no value. -/
def deleting? (delete : ObjectPath → Mutation) (v : Json) : Option Mutation := do
  let [path] ← v.record? ["path"] | none
  some (delete (← Json.required .whole path))

/-- The tag of a change chooses how the rest of it is read. -/
theorem ofJson?_of_tagged {r : Reading} {v rest : Json}
    (tagged : tagged? "op" operations id r v = some (op, rest)) :
    ofJson? r v =
      match op with
      | "set_instance_config" => setting? setConfig rest
      | "del_instance_config" => deleting? delConfig rest
      | "set_instance_status" => setting? setStatus rest
      | "del_instance_status" => deleting? delStatus rest
      | "set_instance_monitor" => setting? setMonitor rest
      | _ => deleting? delMonitor rest := by
  change (tagged? "op" operations id r v).bind _ = _
  rw [tagged]
  rfl

/-- A change to a value reads back with the value that is read. -/
theorem readsAs_setting {α : Type} [Wire α] {p : ObjectPath} {v w : α}
    {set : ObjectPath → α → Mutation}
    (form : toJson m =
      fields ["op", "path", "value"] [some (.str op), some (toJson p), some (toJson v)])
    (known : operations.find? (id · == op) = some op)
    (path : ReadsAs h p p) (value : ReadsAs h v w)
    (chosen : ∀ r rest, tagged? "op" operations id r (toJson m) = some (op, rest) →
      ofJson? r (toJson m) = setting? set rest) :
    ReadsAs (h + 1) m (set p w) := by
  refine readsAs_tagged operations op ["path", "value"] [some (toJson p), some (toJson v)]
    form known (by decide) rfl ?_ fun r tagged read => ?_
  · simp only [List.forall_mem_cons]
    exact ⟨path.field, value.field, nofun⟩
  · rw [chosen r _ tagged, setting?, read]
    simp only [Option.bind_some, path.required, value.required, Option.bind_eq_bind]

/-- A change without a value reads back as itself. -/
theorem readsAs_deleting {p : ObjectPath} {delete : ObjectPath → Mutation}
    (form : toJson m = fields ["op", "path"] [some (.str op), some (toJson p)])
    (known : operations.find? (id · == op) = some op) (path : ReadsAs h p p)
    (chosen : ∀ r rest, tagged? "op" operations id r (toJson m) = some (op, rest) →
      ofJson? r (toJson m) = deleting? delete rest) :
    ReadsAs (h + 1) m (delete p) := by
  refine readsAs_tagged operations op ["path"] [some (toJson p)]
    form known (by decide) rfl ?_ fun r tagged read => ?_
  · simp only [List.forall_mem_cons]
    exact ⟨path.field, nofun⟩
  · rw [chosen r _ tagged, deleting?, read]
    simp only [Option.bind_some, path.required, Option.bind_eq_bind]

/-- A change reads back without the node that published it. -/
theorem readsAs (h : Nat) (back : m.path.PrintsBack) (digits : ∀ t ∈ m.times, t.FourDigits) :
    ReadsAs (h + 5) m m.unnamed := by
  have path := ObjectPath.readsAs (h + 4) back
  cases m with
  | setConfig p c =>
    exact readsAs_setting rfl rfl path (InstanceConfig.readsAs (h + 2) digits)
      fun _ _ => ofJson?_of_tagged
  | delConfig p => exact readsAs_deleting rfl rfl path fun _ _ => ofJson?_of_tagged
  | setStatus p s =>
    exact readsAs_setting rfl rfl path (InstanceStatus.readsAs h digits)
      fun _ _ => ofJson?_of_tagged
  | delStatus p => exact readsAs_deleting rfl rfl path fun _ _ => ofJson?_of_tagged
  | setMonitor p s =>
    exact readsAs_setting rfl rfl path (InstanceMonitor.readsAs (h + 1) digits)
      fun _ _ => ofJson?_of_tagged
  | delMonitor p => exact readsAs_deleting rfl rfl path fun _ _ => ofJson?_of_tagged

end Mutation

namespace Delta

variable {d : Delta}

/-- The changes of a generation as they are written. -/
def unnamed (d : Delta) : Delta := { d with mutations := d.mutations.map (·.unnamed) }

/-- The times in the changes of a generation. -/
def times (d : Delta) : List Timestamp := d.mutations.flatMap (·.times)

/-- The objects that a generation changes. -/
def paths (d : Delta) : List ObjectPath := d.mutations.map (·.path)

/-- The changes of a generation read back without the node that published them. -/
theorem readsAs (h : Nat) (back : ∀ p ∈ d.paths, p.PrintsBack)
    (digits : ∀ t ∈ d.times, t.FourDigits) : ReadsAs (h + 7) d d.unnamed := by
  have generation := readsAs_uInt64 (h + 6) d.generation
  have each : ∀ m ∈ d.mutations, ReadsAs (h + 5) m m.unnamed := fun m member =>
    Mutation.readsAs h (back m.path (List.mem_map_of_mem member))
      fun t of => digits t (List.mem_flatMap.2 ⟨m, member, of⟩)
  have mutations := readsAs_list each
  refine readsAs_record ["gen", "mutations"] [some (toJson d.generation), some (toJson d.mutations)]
    rfl (by decide) rfl ?_ fun r read => ?_
  · simp only [List.forall_mem_cons]
    exact ⟨generation.field, mutations.field, nofun⟩
  · change (Json.record? _ (toJson d)).bind _ = _
    rw [read]
    simp only [Option.bind_some, generation.required r, mutations.required r, Option.bind_eq_bind]
    rfl

end Delta

/-! ## Messages -/

namespace Message

variable {m : Message}

/-- What a message brings as it is written. -/
def Body.unnamed : Body → Body
  | .full data => .full data.unnamed
  | .patch deltas => .patch (deltas.map (·.unnamed))
  | .ping => .ping

/-- The times in what a message brings. -/
def Body.times : Body → List Timestamp
  | .full data => data.times
  | .patch deltas => deltas.flatMap (·.times)
  | .ping => []

/-- The objects that a message changes. -/
def Body.paths : Body → List ObjectPath
  | .full _ | .ping => []
  | .patch deltas => deltas.flatMap (·.paths)

/-- A message as it is written. -/
def unnamed (m : Message) : Message := { m with body := m.body.unnamed }

/-- The kinds of messages. -/
def kinds : List String := ["full", "patch", "ping"]

/-- A message that brings something under a name, from what stands beside the tag. -/
def bringing? {α : Type} [Wire α] (name : String) (body : α → Body) (v : Json) :
    Option Message := do
  let [nodename, generation, gens, brought] ← v.record? ["nodename", "gen", "gens", name] | none
  some {
    nodename := ← Json.required .whole nodename
    generation := ← Json.required .whole generation
    gens := ← Json.required .whole gens
    body := body (← Json.required .whole brought) }

/-- A message that brings nothing. -/
def bare? (v : Json) : Option Message := do
  let [nodename, generation, gens] ← v.record? ["nodename", "gen", "gens"] | none
  some {
    nodename := ← Json.required .whole nodename
    generation := ← Json.required .whole generation
    gens := ← Json.required .whole gens
    body := .ping }

/-- The kind of a message chooses how the rest of it is read. -/
theorem ofJson?_of_tagged {kind : String} {r : Reading} {v rest : Json}
    (tagged : tagged? "kind" kinds id r v = some (kind, rest)) :
    ofJson? r v =
      match kind with
      | "full" => bringing? "data" Body.full rest
      | "patch" => bringing? "deltas" Body.patch rest
      | _ => bare? rest := by
  change (tagged? "kind" kinds id r v).bind _ = _
  rw [tagged]
  rfl

/-- A table of generations reads back as itself. -/
theorem readsAs_gens (h : Nat) (gens : GenerationTable) : ReadsAs (h + 1) gens gens := by
  have each := readsAs_map (f := id) fun e (_ : e ∈ gens.entries) => readsAs_uInt64 h e.2
  rwa [SortedMap.mapValues_id] at each

/-- A message that brings something reads back with what is read of it. -/
theorem readsAs_bringing {α : Type} [Wire α] {h : Nat} (kind name : String) (body : α → Body)
    {v w : α}
    (form : toJson m = fields ["kind", "nodename", "gen", "gens", name]
      [some (.str kind), some (toJson m.nodename), some (toJson m.generation),
        some (toJson m.gens), some (toJson v)])
    (known : kinds.find? (id · == kind) = some kind)
    (distinct : ["kind", "nodename", "gen", "gens", name].Nodup) (value : ReadsAs (h + 1) v w)
    (chosen : ∀ r rest, tagged? "kind" kinds id r (toJson m) = some (kind, rest) →
      ofJson? r (toJson m) = bringing? name body rest) :
    ReadsAs (h + 2) m { m with body := body w } := by
  have node := readsAs_string (h + 1) m.nodename
  have generation := readsAs_uInt64 (h + 1) m.generation
  have gens := readsAs_gens h m.gens
  refine readsAs_tagged kinds kind ["nodename", "gen", "gens", name]
    [some (toJson m.nodename), some (toJson m.generation), some (toJson m.gens), some (toJson v)]
    form known distinct rfl ?_ fun r tagged read => ?_
  · simp only [List.forall_mem_cons]
    exact ⟨node.field, generation.field, gens.field, value.field, nofun⟩
  · rw [chosen r _ tagged, bringing?, read]
    simp only [Option.bind_some, node.required, generation.required, gens.required,
      value.required, Option.bind_eq_bind]

/-- A ping reads back as itself. -/
theorem readsAs_bare (h : Nat) (nodename : String) (generation : Generation)
    (gens : GenerationTable) :
    ReadsAs (h + 2) (⟨nodename, generation, gens, .ping⟩ : Message)
      ⟨nodename, generation, gens, .ping⟩ := by
  have node := readsAs_string (h + 1) nodename
  have number := readsAs_uInt64 (h + 1) generation
  have table := readsAs_gens h gens
  refine readsAs_tagged kinds "ping" ["nodename", "gen", "gens"]
    [some (toJson nodename), some (toJson generation), some (toJson gens)]
    rfl rfl (by decide) rfl ?_ fun r tagged read => ?_
  · simp only [List.forall_mem_cons]
    exact ⟨node.field, number.field, table.field, nofun⟩
  · refine (ofJson?_of_tagged tagged).trans ?_
    show bare? _ = _
    rw [bare?, read]
    simp only [Option.bind_some, node.required, number.required, table.required,
      Option.bind_eq_bind]

/-- A message reads back without the node that published what it brings. -/
theorem readsAs (h : Nat) (back : ∀ p ∈ m.body.paths, p.PrintsBack)
    (digits : ∀ t ∈ m.body.times, t.FourDigits) : ReadsAs (h + 9) m m.unnamed := by
  obtain ⟨nodename, generation, gens, body⟩ := m
  cases body with
  | full data =>
    exact readsAs_bringing "full" "data" .full rfl rfl (by decide)
      (NodeData.readsAs (h + 1) digits) fun _ _ => ofJson?_of_tagged
  | patch deltas =>
    have each : ∀ d ∈ deltas, ReadsAs (h + 7) d d.unnamed := fun d member =>
      Delta.readsAs h (fun p of => back p (List.mem_flatMap.2 ⟨d, member, of⟩))
        fun t of => digits t (List.mem_flatMap.2 ⟨d, member, of⟩)
    exact readsAs_bringing "patch" "deltas" .patch rfl rfl (by decide) (readsAs_list each)
      fun _ _ => ofJson?_of_tagged
  | ping => exact readsAs_bare (h + 7) nodename generation gens

/-- A message of any kind is read back from its text as it was written. -/
theorem reads_back_unnamed (back : ∀ p ∈ m.body.paths, p.PrintsBack)
    (digits : ∀ t ∈ m.body.times, t.FourDigits) :
    (parseUtf8 (renderUtf8 (toJson m))).bind (ofJson? .direct) = some m.unnamed :=
  (readsAs 0 back digits).parse (by decide) .direct

/-- A message of two generations: an object is configured, started and frozen, and another one
leaves. -/
def rollout : Message where
  nodename := "n1"
  generation := 18446744073709551615
  gens := .ofList [("n1", 18446744073709551615), ("n2", 0)]
  body := .patch [
    ⟨18446744073709551614, [
      .setConfig ⟨"root", .svc, "web"⟩ ⟨"d41d8cd9", .epoch, ["n1", "n2"], "n1"⟩,
      .setMonitor ⟨"root", .svc, "web"⟩
        { globalExpect := .started
          globalExpectUpdated := some ⟨⟨2024, 2, 29, 23, 59, 60, 1000⟩, by decide⟩
          state := .startFailed
          stateUpdated := none
          isLeader := true
          restart := .ofList [("fs#1", ⟨3, none⟩)] }]⟩,
    ⟨18446744073709551615, [
      .setStatus ⟨"prod", .vol, "data"⟩
        ⟨.standbyUp, .warn, .mixed, some ⟨⟨0, 1, 1, 0, 0, 0, 1⟩, by decide⟩,
          [⟨"disk#1", "\"lv\"", "disk", .up, .yes, []⟩], none⟩,
      .delMonitor ⟨"prod", .vol, "data"⟩,
      .delStatus ⟨"prod", .vol, "data"⟩,
      .delConfig ⟨"root", .ccfg, "cluster"⟩]⟩]

/-- The node that published the configuration is all that is lost. -/
theorem reads_back_unnamed_rollout :
    ((∀ p ∈ rollout.body.paths, p.PrintsBack) ∧ ∀ t ∈ rollout.body.times, t.FourDigits) ∧
      (parseUtf8 (renderUtf8 (toJson rollout))).bind (ofJson? .direct) = some rollout.unnamed ∧
      rollout.unnamed ≠ rollout := by
  have back : ∀ p ∈ rollout.body.paths, p.PrintsBack := by decide +kernel
  have digits : ∀ t ∈ rollout.body.times, t.FourDigits := by decide +kernel
  exact ⟨⟨back, digits⟩, reads_back_unnamed back digits, by decide +kernel⟩

end Message

end ClusterNode
