import ClusterNode.Object.Instance
import ClusterNode.Proofs.Json.Record
import ClusterNode.Proofs.Time.Rfc3339

/-!
# Instance records that survive the wire

Each record of an instance reads back as it was written, as long as the years of its times have
four digits. One field is not written: an instance comes back `unnamed`, without the node that
published its configuration.
-/

namespace ClusterNode

open Json

/-! ## Values with a name -/

/-- A status word reads back as itself. -/
theorem Status.readsAs (h : Nat) (s : Status) : ReadsAs h s s :=
  ⟨.str s.name, nofun, fun r => by cases s <;> rfl⟩

/-- A provisioned state reads back as itself. -/
theorem Provisioned.readsAs (h : Nat) (s : Provisioned) : ReadsAs h s s :=
  ⟨.str s.name, nofun, fun r => by cases s <;> rfl⟩

/-- A global expectation reads back as itself. -/
theorem GlobalExpect.readsAs (h : Nat) (e : GlobalExpect) : ReadsAs h e e :=
  ⟨.str e.name, nofun, fun r => by cases e <;> rfl⟩

/-- The state of a monitor reads back as itself. -/
theorem MonitorState.readsAs (h : Nat) (s : MonitorState) : ReadsAs h s s :=
  ⟨.str s.name, nofun, fun r => by cases s <;> rfl⟩

namespace Timestamp

/-- A time with a year of four digits reads back as itself. -/
theorem readsAs (h : Nat) {t : Timestamp} (digits : t.FourDigits) : ReadsAs h t t :=
  ⟨.str _, nofun, fun _ => Rfc3339.parse_format digits⟩

/-- A time that need not be known. -/
theorem readsAs_of_mem (h : Nat) {times : List Timestamp} (digits : ∀ t ∈ times, t.FourDigits)
    (since : Option Timestamp) (among : ∀ t ∈ since.toList, t ∈ times) :
    ∀ t ∈ since, ReadsAs h t (id t) :=
  fun t known => readsAs h (digits t (among t (Option.mem_toList.2 known)))

end Timestamp

/-! ## Configurations -/

namespace InstanceConfig

variable {c : InstanceConfig}

/-- The configuration as it is written: without the node that published it. -/
def unnamed (c : InstanceConfig) : InstanceConfig := { c with nodename := "" }

/-- The times of a configuration. -/
def times (c : InstanceConfig) : List Timestamp := [c.updated]

/-- A configuration reads back without the node that published it. -/
theorem readsAs (h : Nat) (digits : ∀ t ∈ c.times, t.FourDigits) :
    ReadsAs (h + 2) c c.unnamed := by
  have checksum := readsAs_string (h + 1) c.checksum
  have updated := Timestamp.readsAs (h + 1) (digits c.updated (List.mem_singleton.2 rfl))
  have scope := readsAs_strings h c.scope
  refine readsAs_record ["csum", "updated", "scope"]
    [some (toJson c.checksum), some (toJson c.updated), some (toJson c.scope)]
    rfl (by decide) rfl ?_ fun r read => ?_
  · simp only [List.forall_mem_cons]
    exact ⟨checksum.field, updated.field, scope.field, nofun⟩
  · change (Json.record? _ (toJson c)).bind _ = _
    rw [read]
    simp only [Option.bind_some, checksum.required r, updated.required r, scope.required r,
      Option.bind_eq_bind]
    rfl

end InstanceConfig

/-! ## Statuses -/

/-- The status of a resource reads back as itself. -/
theorem ResourceStatus.readsAs (h : Nat) (s : ResourceStatus) : ReadsAs (h + 2) s s := by
  have rid := readsAs_string (h + 1) s.rid
  have label := readsAs_string (h + 1) s.label
  have kind := readsAs_string (h + 1) s.kind
  have status := Status.readsAs (h + 1) s.status
  have provisioned := Provisioned.readsAs (h + 1) s.provisioned
  have log := readsAs_strings h s.log
  refine readsAs_record ["rid", "label", "type", "status", "provisioned", "log"]
    [some (toJson s.rid), some (toJson s.label), some (toJson s.kind),
      some (toJson s.status), some (toJson s.provisioned),
      if s.log.isEmpty then none else some (toJson s.log)]
    ?_ (by decide) rfl ?_ fun r read => ?_
  · change members [_, _, _, _, _, if _ then none else member _ _] = _
    rw [memberUnless_eq, fields_eq_members]
    rfl
  · simp only [List.forall_mem_cons]
    exact ⟨rid.field, label.field, kind.field, status.field, provisioned.field,
      log.fieldUnless _, nofun⟩
  · change (Json.record? _ (toJson s)).bind _ = _
    rw [read]
    simp only [Option.bind_some, rid.required r, label.defaulted r, kind.defaulted r,
      status.required r, provisioned.defaulted r, log.defaultedUnless List.isEmpty_iff.1 r,
      Option.bind_eq_bind]

namespace InstanceStatus

variable {s : InstanceStatus}

/-- The times of a status. -/
def times (s : InstanceStatus) : List Timestamp := s.frozen.toList ++ s.updated.toList

/-- A status reads back as itself. -/
theorem readsAs (h : Nat) (digits : ∀ t ∈ s.times, t.FourDigits) : ReadsAs (h + 4) s s := by
  have avail := Status.readsAs (h + 3) s.avail
  have overall := Status.readsAs (h + 3) s.overall
  have provisioned := Provisioned.readsAs (h + 3) s.provisioned
  have frozen := Timestamp.readsAs_of_mem (h + 3) digits s.frozen
    fun _ => List.mem_append_left _
  have updated := Timestamp.readsAs_of_mem (h + 3) digits s.updated
    fun _ => List.mem_append_right _
  have resources := readsAs_list (f := id) fun x (_ : x ∈ s.resources) =>
    ResourceStatus.readsAs h x
  rw [List.map_id] at resources
  refine readsAs_record
    ["avail", "overall", "provisioned", "frozen", "resources", "updated"]
    [some (toJson s.avail), some (toJson s.overall), some (toJson s.provisioned),
      s.frozen.map toJson, if s.resources.isEmpty then none else some (toJson s.resources),
      s.updated.map toJson]
    ?_ (by decide) rfl ?_ fun r read => ?_
  · change members [_, _, _, memberOpt _ _, if _ then none else member _ _, memberOpt _ _] = _
    rw [memberOpt_eq, memberUnless_eq, memberOpt_eq, fields_eq_members]
    rfl
  · simp only [List.forall_mem_cons]
    exact ⟨avail.field, overall.field, provisioned.field, plainField_map frozen,
      resources.fieldUnless _, plainField_map updated, nofun⟩
  · change (Json.record? _ (toJson s)).bind _ = _
    rw [read]
    simp only [Option.bind_some, avail.defaulted r, overall.defaulted r, provisioned.defaulted r,
      optional_map frozen r, resources.defaultedUnless List.isEmpty_iff.1 r,
      optional_map updated r, Option.map_id_fun, id, Option.bind_eq_bind]

end InstanceStatus

/-! ## Monitors -/

namespace MonitorRestart

variable {s : MonitorRestart}

/-- The times of a restart record. -/
def times (s : MonitorRestart) : List Timestamp := s.updated.toList

/-- A restart record reads back as itself. -/
theorem readsAs (h : Nat) (digits : ∀ t ∈ s.times, t.FourDigits) : ReadsAs (h + 1) s s := by
  have retries := readsAs_uInt32 h s.retries
  have updated := Timestamp.readsAs_of_mem h digits s.updated fun _ member => member
  have form : toJson s =
      fields ["retries", "updated"] [some (toJson s.retries), s.updated.map toJson] := by
    change members [_, memberOpt _ _] = _
    rw [memberOpt_eq, fields_eq_members]
    rfl
  have each : ∀ v ∈ [some (toJson s.retries), s.updated.map toJson], PlainField h v := by
    simp only [List.forall_mem_cons]
    exact ⟨retries.field, plainField_map updated, nofun⟩
  refine readsAs_record _ _ form (by decide) rfl each fun r read => ?_
  -- the record is taken whole, so it has to be readable before it is read
  have readable := (form ▸ plain_fields _ each : Plain (h + 1) (toJson s)).readable
  change (if (toJson s).readable then
    ((Json.record? ["retries", "updated"] (toJson s)).bind _ <|> _) else none) = _
  rw [if_pos readable, read]
  simp only [Option.bind_some, retries.required, optional_map updated, Option.map_id_fun, id,
    Option.bind_eq_bind]
  rfl

end MonitorRestart

namespace InstanceMonitor

variable {m : InstanceMonitor}

/-- The times of a monitor. -/
def times (m : InstanceMonitor) : List Timestamp :=
  m.globalExpectUpdated.toList ++ m.stateUpdated.toList ++ m.restart.values.flatMap (·.times)

/-- A monitor reads back as itself. -/
theorem readsAs (h : Nat) (digits : ∀ t ∈ m.times, t.FourDigits) : ReadsAs (h + 3) m m := by
  have globalExpect := GlobalExpect.readsAs (h + 2) m.globalExpect
  have state := MonitorState.readsAs (h + 2) m.state
  have isLeader := readsAs_bool (h + 2) m.isLeader
  have wanted := Timestamp.readsAs_of_mem (h + 2) digits m.globalExpectUpdated
    fun _ member => List.mem_append_left _ (List.mem_append_left _ member)
  have entered := Timestamp.readsAs_of_mem (h + 2) digits m.stateUpdated
    fun _ member => List.mem_append_left _ (List.mem_append_right _ member)
  have restart := readsAs_map (f := id) (m := m.restart) fun e member =>
    MonitorRestart.readsAs h fun t of => digits t <| List.mem_append_right _ <|
      List.mem_flatMap.2 ⟨e.2, List.mem_map_of_mem member, of⟩
  rw [SortedMap.mapValues_id] at restart
  refine readsAs_record
    ["global_expect", "global_expect_updated", "state", "state_updated", "is_leader",
      "restart"]
    [some (toJson m.globalExpect), m.globalExpectUpdated.map toJson,
      some (toJson m.state), m.stateUpdated.map toJson, some (toJson m.isLeader),
      if m.restart.isEmpty then none else some (toJson m.restart)]
    ?_ (by decide) rfl ?_ fun r read => ?_
  · change members [_, memberOpt _ _, _, memberOpt _ _, _, if _ then none else member _ _] = _
    rw [memberOpt_eq, memberOpt_eq, memberUnless_eq, fields_eq_members]
    rfl
  · simp only [List.forall_mem_cons]
    exact ⟨globalExpect.field, plainField_map wanted, state.field, plainField_map entered,
      isLeader.field, restart.fieldUnless _, nofun⟩
  · change (Json.record? _ (toJson m)).bind _ = _
    rw [read]
    simp only [Option.bind_some, globalExpect.defaulted r, optional_map wanted r,
      state.defaulted r, optional_map entered r, isLeader.defaulted r,
      restart.defaultedUnless SortedMap.isEmpty_iff.1 r, Option.map_id_fun, id,
      Option.bind_eq_bind]

end InstanceMonitor

/-! ## Instances -/

namespace Instance

variable {i : Instance}

/-- The records as they are written. -/
def unnamed (i : Instance) : Instance := { i with config := i.config.map (·.unnamed) }

/-- The times of the records. -/
def times (i : Instance) : List Timestamp :=
  i.config.toList.flatMap (·.times) ++ i.status.toList.flatMap (·.times) ++
    i.monitor.toList.flatMap (·.times)

/-- The records of an instance read back without the node that published them. -/
theorem readsAs (h : Nat) (digits : ∀ t ∈ i.times, t.FourDigits) :
    ReadsAs (h + 5) i i.unnamed := by
  have config : ∀ c ∈ i.config, ReadsAs (h + 4) c c.unnamed := fun c kept =>
    InstanceConfig.readsAs (h + 2) fun t of => digits t <| List.mem_append_left _ <|
      List.mem_append_left _ <| List.mem_flatMap.2 ⟨c, Option.mem_toList.2 kept, of⟩
  have status : ∀ s ∈ i.status, ReadsAs (h + 4) s (id s) := fun s kept =>
    InstanceStatus.readsAs h fun t of => digits t <| List.mem_append_left _ <|
      List.mem_append_right _ <| List.mem_flatMap.2 ⟨s, Option.mem_toList.2 kept, of⟩
  have monitor : ∀ m ∈ i.monitor, ReadsAs (h + 4) m (id m) := fun m kept =>
    InstanceMonitor.readsAs (h + 1) fun t of => digits t <| List.mem_append_right _ <|
      List.mem_flatMap.2 ⟨m, Option.mem_toList.2 kept, of⟩
  refine readsAs_record ["config", "status", "monitor"]
    [i.config.map toJson, i.status.map toJson, i.monitor.map toJson]
    ?_ (by decide) rfl ?_ fun r read => ?_
  · change members [memberOpt _ _, memberOpt _ _, memberOpt _ _] = _
    rw [memberOpt_eq, memberOpt_eq, memberOpt_eq, fields_eq_members]
    rfl
  · simp only [List.forall_mem_cons]
    exact ⟨plainField_map config, plainField_map status, plainField_map monitor, nofun⟩
  · change (Json.record? _ (toJson i)).bind _ = _
    rw [read]
    simp only [Option.bind_some, optional_map config r, optional_map status r,
      optional_map monitor r, Option.map_id_fun, id, Option.bind_eq_bind]
    rfl

end Instance

end ClusterNode
