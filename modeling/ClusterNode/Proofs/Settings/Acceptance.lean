import ClusterNode.Proofs.Heartbeat.Fragments
import ClusterNode.Settings.Start

/-!
# What accepted settings guarantee

Settings that are accepted give the store and the coordinator their timers. Nothing is asked of the
period of the peer controller and of the size of the datagrams but that they are counts: the peer
controller gets no timer if the settings file states a period of zero for it, and the drivers have
no room for a chunk if the file states a size of less than 132 bytes. `accepted_starts` says that
nothing else can take either away, neither a default nor the command line, and what becomes of a
node whose datagrams are too small: whatever its drivers are to send, no datagram leaves them, and
no success is told of.
-/

namespace ClusterNode

/-- There is a timer for every period but zero. -/
theorem Timer.exists_every?_iff {periodMs : UInt64} :
    (∃ timer, Timer.every? periodMs = some timer) ↔ 0 < periodMs := by
  unfold Timer.every?
  split
  · rename_i positive
    exact iff_of_true ⟨_, rfl⟩ positive
  · rename_i zero
    exact iff_of_false nofun zero

namespace NodeSettings

/-! ## What a file states -/

/-- The names at the root of a settings file. -/
def rootNames : List String :=
  ["nodename", "listen_addr", "config_dir", "var_dir", "cluster", "hb", "bus", "discover", "worker"]

/-- The names of the heartbeat settings. -/
def heartbeatNames : List String :=
  ["interval_ms", "timeout_secs", "max_datagram_size", "fragment_idle_secs", "max_fragments",
    "check_interval_ms", "max_patch_queue", "drivers"]

/-- The member of a name, in a record with some names. -/
def member? (names : List String) (name : String) (record : Setting) : Option Setting :=
  (record.record? names).bind fun members => (members[names.idxOf name]?).join

/-- The count that a settings file states for a name of the heartbeat settings. -/
def stated? (file : Option (String × Bytes)) (name : String) : Option UInt64 := do
  let (extension, content) ← file
  let tree ← readFile? extension content
  let heartbeat ← member? rootNames "hb" tree
  (← member? heartbeatNames name heartbeat).asCount?

variable {hostname : String} {file : Option (String × Bytes)} {args : Arguments} {s : NodeSettings}

/-- A member with a default is what is read of it, or the default. -/
theorem eq_getD_of_orElse {α : Type} {read : Setting → Option α} {default x : α}
    {member : Option Setting} (decoded : Setting.orElse read default member = some x) :
    x = (member.bind read).getD default := by
  cases member with
  | none => exact (Option.some.inj decoded).symm
  | some v =>
    have found : read v = some x := decoded
    rw [Option.bind_some, found, Option.getD_some]

/-- The heartbeat settings of a tree are those of its member, or the standard ones. -/
theorem heartbeat_of_ofSetting? {tree : Setting} (decoded : ofSetting? hostname tree = some s) :
    Setting.orElse heartbeat? .standard (member? rootNames "hb" tree) = some s.heartbeat := by
  simp only [ofSetting?, Option.bind_eq_bind, Option.bind_eq_some_iff] at decoded
  obtain ⟨members, record, decoded⟩ := decoded
  split at decoded
  · rename_i heartbeat _ _ _
    simp only [Option.bind_eq_some_iff] at decoded
    obtain ⟨_, _, _, _, _, _, _, _, _, _, _, read, _, _, _, _, _, _, made⟩ := decoded
    have member : member? rootNames "hb" tree = heartbeat := by
      rw [member?, rootNames, record]
      rfl
    cases made
    rw [member]
    exact read
  · cases decoded

/-- The counts of heartbeat settings are those of their members, or the standard ones. -/
theorem counts_of_heartbeat? {v : Setting} {h : HeartbeatSettings}
    (decoded : heartbeat? v = some h) :
    h.maxDatagramSize =
        ((member? heartbeatNames "max_datagram_size" v).bind Setting.asCount?).getD 1400 ∧
      h.checkIntervalMs =
        ((member? heartbeatNames "check_interval_ms" v).bind Setting.asCount?).getD 1000 := by
  simp only [heartbeat?, Option.bind_eq_bind, Option.bind_eq_some_iff] at decoded
  obtain ⟨members, record, decoded⟩ := decoded
  split at decoded
  · rename_i datagram _ _ check _ _
    simp only [Option.bind_eq_some_iff] at decoded
    obtain ⟨_, _, _, _, _, size, _, _, _, _, _, period, _, _, _, _, made⟩ := decoded
    have members : member? heartbeatNames "max_datagram_size" v = datagram ∧
        member? heartbeatNames "check_interval_ms" v = check := by
      rw [member?, member?, heartbeatNames, record]
      exact ⟨rfl, rfl⟩
    cases made
    rw [members.1, members.2]
    exact ⟨eq_getD_of_orElse size, eq_getD_of_orElse period⟩
  · cases decoded

/-! ## Loading -/

/-- What passes validation is left as it is, and its interval is not zero. -/
theorem validate_eq_ok {s' : NodeSettings} (valid : s'.validate = .ok s) :
    s = s' ∧ s.heartbeat.intervalMs ≠ 0 := by
  unfold validate at valid
  split at valid
  · cases valid
  · split at valid
    · cases valid
    · split at valid
      · cases valid
      · rename_i positive
        cases valid
        exact ⟨rfl, positive⟩

/-- Accepted settings are those of a file, or the standard ones if there is none, after what the
command line says. -/
theorem load_eq_ok (accepted : load hostname file args = .ok s) :
    ∃ s' : NodeSettings, (s'.override args).validate = .ok s ∧
      ((file = none ∧ s' = standard hostname) ∨
        ∃ extension content tree, file = some (extension, content) ∧
          readFile? extension content = some tree ∧ ofSetting? hostname tree = some s') := by
  unfold load at accepted
  cases file with
  | none => exact ⟨_, accepted, .inl ⟨rfl, rfl⟩⟩
  | some entry =>
    obtain ⟨extension, content⟩ := entry
    dsimp only at accepted
    cases read : readFile? extension content with
    | none =>
      rw [read] at accepted
      cases accepted
    | some tree =>
      rw [read] at accepted
      dsimp only at accepted
      cases decoded : ofSetting? hostname tree with
      | none =>
        rw [decoded] at accepted
        cases accepted
      | some s' =>
        rw [decoded] at accepted
        exact ⟨s', accepted, .inr ⟨extension, content, tree, rfl, read, decoded⟩⟩

/-- The size of the datagrams and the period of the peer controller are what the file states, or the
standard ones. -/
theorem counts_of_load (accepted : load hostname file args = .ok s) :
    s.heartbeat.maxDatagramSize = (stated? file "max_datagram_size").getD 1400 ∧
      s.heartbeat.checkIntervalMs = (stated? file "check_interval_ms").getD 1000 := by
  obtain ⟨s', valid, source⟩ := load_eq_ok accepted
  obtain ⟨rfl, _⟩ := validate_eq_ok valid
  -- the command line leaves the heartbeat settings alone
  change s'.heartbeat.maxDatagramSize = _ ∧ s'.heartbeat.checkIntervalMs = _
  rcases source with ⟨rfl, rfl⟩ | ⟨extension, content, tree, rfl, read, decoded⟩
  · exact ⟨rfl, rfl⟩
  · have heartbeat := heartbeat_of_ofSetting? decoded
    simp only [stated?, Option.bind_eq_bind, Option.bind_some, read]
    cases member : member? rootNames "hb" tree with
    | none =>
      rw [member] at heartbeat
      rw [← Option.some.inj heartbeat]
      exact ⟨rfl, rfl⟩
    | some v =>
      rw [member] at heartbeat
      exact counts_of_heartbeat? heartbeat

end NodeSettings

/-! ## Small datagrams -/

/-- There is a chunk size if a datagram has room for four characters beside the allowance. -/
theorem exists_chunkSize_iff {datagramSize : Nat} :
    (∃ size, chunkSize datagramSize = .ok size) ↔ headerAllowance + 4 ≤ datagramSize := by
  rw [chunkSize_eq]
  split
  · rename_i small
    exact iff_of_false nofun (Nat.not_le.2 small)
  · rename_i large
    exact iff_of_true ⟨_, rfl⟩ (Nat.not_lt.1 large)

section

variable {c : DriverContext} (small : c.maxDatagramSize < headerAllowance + 4)
include small

/-- A transmitter without a chunk size makes no datagrams. -/
theorem Transmitter.datagrams_of_small (messageId : String) (nonce payload : Bytes) :
    datagrams c messageId nonce payload = none := by
  unfold datagrams
  cases c.envelope.sealPayload nonce payload with
  | none => rfl
  | some message =>
    have refused : fragment messageId message c.maxDatagramSize c.maxFragments =
        .error (.datagramTooSmall c.maxDatagramSize) := by
      rw [fragment, chunkSize_eq, if_pos small]
      rfl
    rw [Option.bind_eq_bind, Option.bind_some, refused]
    rfl

/-- A transmitter without a chunk size sends nothing. -/
theorem Transmitter.send_of_small (t : Transmitter) (carries : String → Bool) (messageId : String)
    (nonce payload : Bytes) : t.send c carries messageId nonce payload = ([], []) := by
  rw [send, datagrams_of_small small]

end

/-- Drivers with datagrams that have no room for a chunk send nothing and tell of no success. -/
theorem HeartbeatManager.send_of_small {m : HeartbeatManager}
    (small : m.context.maxDatagramSize < headerAllowance + 4) (carries : String → Bool)
    (messageId : String) (nonce payload : Bytes) :
    m.send carries messageId nonce payload = (m.transmitters.map fun _ => [], []) := by
  unfold send
  split
  · simp [Transmitter.send_of_small small]
  · rfl

namespace NodeSettings

variable {hostname : String} {file : Option (String × Bytes)} {args : Arguments} {s : NodeSettings}

/-- The period of the scans is never zero. -/
theorem positive_scanPeriodMs (s : NodeSettings) : 0 < s.scanPeriodMs := by
  show 0 < if s.scanIntervalMs ≤ 1 then 1 else s.scanIntervalMs
  split
  · decide
  · rename_i more
    rw [UInt64.le_iff_toNat_le] at more
    rw [UInt64.lt_iff_toNat_lt]
    exact Nat.lt_of_lt_of_le Nat.one_pos (Nat.le_of_not_le more)

/-- With settings that are accepted, the store and the coordinator get their timers. The peer
controller gets one unless the file states a period of zero for it, and there is room for a chunk in
the datagrams unless the file states too small a size; if there is none, nothing is ever sent. -/
theorem accepted_starts (accepted : load hostname file args = .ok s) :
    (∃ timer, s.timer? .store = some timer) ∧ (∃ timer, s.timer? .coordinator = some timer) ∧
    ((∃ timer, s.timer? .peerController = some timer) ↔
      stated? file "check_interval_ms" ≠ some 0) ∧
    ((∃ size, chunkSize s.driverContext.maxDatagramSize = .ok size) ↔
      ∀ n, stated? file "max_datagram_size" = some n → headerAllowance + 4 ≤ n.toNat) ∧
    ((¬∃ size, chunkSize s.driverContext.maxDatagramSize = .ok size) →
      ∀ carries messageId nonce payload, s.manager.send carries messageId nonce payload =
        (s.heartbeat.drivers.map fun _ => [], [])) := by
  obtain ⟨s', valid, _⟩ := load_eq_ok accepted
  obtain ⟨_, interval⟩ := validate_eq_ok valid
  obtain ⟨size, period⟩ := counts_of_load accepted
  refine ⟨?_, ?_, ?_, ?_, fun none carries messageId nonce payload => ?_⟩
  · exact Timer.exists_every?_iff.2 (UInt64.pos_iff_ne_zero.2 interval)
  · exact Timer.exists_every?_iff.2 s.positive_scanPeriodMs
  · rw [timer?, Timer.exists_every?_iff, periodMs, period, UInt64.pos_iff_ne_zero]
    cases stated? file "check_interval_ms" with
    | none => simp
    | some n => simp
  · have datagrams : s.driverContext.maxDatagramSize = _ := congrArg UInt64.toNat size
    rw [exists_chunkSize_iff, datagrams]
    cases stated? file "max_datagram_size" with
    | none => exact iff_of_true (by decide) nofun
    | some n => simp
  · rw [exists_chunkSize_iff, Nat.not_le] at none
    rw [HeartbeatManager.send_of_small none, manager, List.map_map]
    rfl

/-- What is read of accepted settings is read of settings. -/
theorem exists_load_eq_ok {α : Type} {read : NodeSettings → α} {x : α}
    (accepted : (load hostname file args).toOption.map read = some x) :
    ∃ s, load hostname file args = .ok s ∧ read s = x := by
  obtain ⟨s, loaded, found⟩ := Option.map_eq_some_iff.1 accepted
  refine ⟨s, ?_, found⟩
  cases result : load hostname file args with
  | error _ =>
    rw [result] at loaded
    cases loaded
  | ok s' =>
    rw [result] at loaded
    exact congrArg Except.ok (Option.some.inj loaded)

/-- A settings file with one driver, for datagrams of some size. -/
def withDriver (datagramSize : String) : Bytes :=
  Bytes.ofText <| "[cluster]\nsecret = \"s\"\n[hb]\nmax_datagram_size = " ++ datagramSize ++
    "\n[[hb.drivers]]\nname = \"hb#1\"\nbind = \"0.0.0.0:10000\"\npeers = [\"127.0.0.1:10000\"]\n"

/-- A command line that says nothing about the settings. -/
def silentArguments : Arguments := ⟨"node.toml", none, none, none, none, "info", false⟩

/-- A driver with the smallest datagrams that have room for a chunk, and timers for all. -/
theorem accepted_starts_of_smallest :
    ∃ s, load "n1" (some ("toml", withDriver "132")) silentArguments = .ok s ∧
      s.heartbeat.drivers.length = 1 ∧ (∀ actor, ∃ timer, s.timer? actor = some timer) ∧
      ∃ size, chunkSize s.driverContext.maxDatagramSize = .ok size := by
  have drivers : (load "n1" (some ("toml", withDriver "132")) silentArguments).toOption.map
      (·.heartbeat.drivers.length) = some 1 := by decide +kernel
  have period : stated? (some ("toml", withDriver "132")) "check_interval_ms" = none := by
    decide +kernel
  have size : stated? (some ("toml", withDriver "132")) "max_datagram_size" = some 132 := by
    decide +kernel
  obtain ⟨s, accepted, drivers⟩ := exists_load_eq_ok drivers
  obtain ⟨store, coordinator, peerController, room, _⟩ := accepted_starts accepted
  refine ⟨s, accepted, drivers, fun actor => ?_, room.2 fun n stated => ?_⟩
  · cases actor with
    | store => exact store
    | peerController => exact peerController.2 (by rw [period]; exact nofun)
    | coordinator => exact coordinator
  · cases size.symm.trans stated
    decide

/-- Settings that are accepted although the peer controller gets no timer, and settings that are
accepted although the datagrams of their driver have no room for a chunk. -/
theorem accepted_without_timer_or_room :
    (∃ s, load "n1" (some ("toml", Bytes.ofText "[hb]\ncheck_interval_ms = 0\n"))
      silentArguments = .ok s ∧ s.timer? .peerController = none) ∧
    ∃ s, load "n1" (some ("toml", withDriver "131")) silentArguments = .ok s ∧
      s.heartbeat.drivers.length = 1 ∧
      chunkSize s.driverContext.maxDatagramSize = .error (.datagramTooSmall 131) := by
  constructor
  · have period : (load "n1" (some ("toml", Bytes.ofText "[hb]\ncheck_interval_ms = 0\n"))
        silentArguments).toOption.map (·.heartbeat.checkIntervalMs) = some 0 := by decide +kernel
    obtain ⟨s, accepted, period⟩ := exists_load_eq_ok period
    refine ⟨s, accepted, ?_⟩
    rw [timer?, periodMs, period]
    rfl
  · have counts : (load "n1" (some ("toml", withDriver "131")) silentArguments).toOption.map
        (fun s => (s.heartbeat.drivers.length, s.heartbeat.maxDatagramSize)) = some (1, 131) := by
      decide +kernel
    obtain ⟨s, accepted, counts⟩ := exists_load_eq_ok counts
    obtain ⟨drivers, size⟩ := Prod.mk.inj counts
    have datagramSize : s.driverContext.maxDatagramSize = 131 := congrArg UInt64.toNat size
    refine ⟨s, accepted, drivers, ?_⟩
    rw [datagramSize, chunkSize_eq, if_pos (by decide)]

end NodeSettings

end ClusterNode
