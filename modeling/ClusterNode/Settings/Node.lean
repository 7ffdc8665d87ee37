import ClusterNode.CommandLine
import ClusterNode.Settings.Ini
import ClusterNode.Settings.Json
import ClusterNode.Settings.Json5
import ClusterNode.Settings.Ron
import ClusterNode.Settings.Toml
import ClusterNode.Settings.Yaml
import ClusterNode.Text.Lossy

/-!
# The settings of a node

The settings come from a file, if there is one, and the command line wins over it.
A file of a format that is not known, or that is not well formed, cannot be loaded;
one whose values have the wrong kinds cannot be decoded; and some values are
refused even if they have the right kinds.
-/

namespace ClusterNode

/-- An address of the Internet protocol, version 4. -/
structure Ipv4 where
  a : UInt8
  b : UInt8
  c : UInt8
  d : UInt8
  deriving DecidableEq, Repr

namespace Ipv4

/-- A decimal number below 256 without a zero in front. -/
def octet? (ds : List Char) : Option UInt8 :=
  let n := Digits.toNat 10 ds
  if ds.isEmpty || !ds.all Char.isDigit || 3 < ds.length || 256 ≤ n then none
  else if ds.head? == some '0' && 1 < ds.length then none
  else some (UInt8.ofNat n)

/-- The address of a text. -/
def parse? (s : String) : Option Ipv4 := do
  let [a, b, c, d] := s.toList.splitOn '.' | none
  some ⟨← octet? a, ← octet? b, ← octet? c, ← octet? d⟩

/-- The text of an address. -/
def text (x : Ipv4) : String :=
  ".".intercalate ([x.a, x.b, x.c, x.d].map fun n => toString n.toNat)

end Ipv4

/-- One heartbeat driver: a receiver and the destinations of its transmitter. -/
structure DriverSettings where
  name : String
  bind : String
  peers : List String
  multicastInterface : Option Ipv4
  deriving DecidableEq, Repr

/-- How the node talks to its peers; times are in milliseconds or, where the name
says so, in seconds. -/
structure HeartbeatSettings where
  intervalMs : UInt64
  timeoutSecs : UInt64
  maxDatagramSize : UInt64
  fragmentIdleSecs : UInt64
  maxFragments : UInt64
  checkIntervalMs : UInt64
  maxPatchQueue : UInt64
  drivers : List DriverSettings
  deriving DecidableEq, Repr

/-- The name, the secret and the first members of the cluster. -/
structure ClusterSettings where
  name : String
  secret : String
  nodes : List String
  deriving DecidableEq, Repr

/-- The settings of a node. -/
structure NodeSettings where
  nodename : String
  listenAddr : String
  configDir : String
  varDir : String
  cluster : ClusterSettings
  heartbeat : HeartbeatSettings
  busQueueSize : UInt64
  scanIntervalMs : UInt64
  dropPendingMs : UInt64
  deriving DecidableEq, Repr

/-- Why a node has no settings. -/
inductive SettingsError where
  | notLoaded
  | notDecoded
  | emptyNodename
  | missingSecret
  | zeroInterval
  deriving DecidableEq, Repr

/-- The wording of a settings error. -/
def SettingsError.message : SettingsError → String
  | .notLoaded => "Failed to load config file"
  | .notDecoded => "Failed to parse config"
  | .emptyNodename => "nodename must not be empty"
  | .missingSecret => "cluster.secret is required when heartbeat drivers are configured"
  | .zeroInterval => "hb.interval_ms must be positive"

/-- The heartbeat settings of a file that says nothing. -/
def HeartbeatSettings.standard : HeartbeatSettings :=
  { intervalMs := 1000
    timeoutSecs := 15
    maxDatagramSize := 1400
    fragmentIdleSecs := 10
    maxFragments := 4096
    checkIntervalMs := 1000
    maxPatchQueue := 1000
    drivers := [] }

/-- The cluster settings of a file that says nothing. -/
def ClusterSettings.standard : ClusterSettings := ⟨"default", "", []⟩

namespace NodeSettings

/-- The settings without a file. -/
def standard (hostname : String) : NodeSettings :=
  { nodename := hostname
    listenAddr := "127.0.0.1:1215"
    configDir := "/etc/warden"
    varDir := "/var/lib/warden"
    cluster := .standard
    heartbeat := .standard
    busQueueSize := 1024
    scanIntervalMs := 1000
    dropPendingMs := 100 }

/-! ## Decoding -/

/-- An address, if there is one. -/
def address? : Option Setting → Option (Option Ipv4)
  | none => some none
  | some .absent => some none
  | some v => do some (some (← Ipv4.parse? (← v.asText?)))

/-- A driver. -/
def driver? (v : Setting) : Option DriverSettings := do
  let [name, bind, peers, interface] ←
    v.record? ["name", "bind", "peers", "multicast_interface"] | none
  some {
    name := ← (← name).asText?
    bind := ← (← bind).asText?
    peers := ← Setting.orElse Setting.asTexts? [] peers
    multicastInterface := ← address? interface }

/-- A list of drivers. -/
def drivers? : Setting → Option (List DriverSettings)
  | .list xs => xs.mapM driver?
  | _ => none

/-- Heartbeat settings. -/
def heartbeat? (v : Setting) : Option HeartbeatSettings := do
  let [interval, timeout, datagram, idle, fragments, check, queue, drivers] ←
    v.record? ["interval_ms", "timeout_secs", "max_datagram_size", "fragment_idle_secs",
      "max_fragments", "check_interval_ms", "max_patch_queue", "drivers"] | none
  let std := HeartbeatSettings.standard
  some {
    intervalMs := ← Setting.orElse Setting.asCount? std.intervalMs interval
    timeoutSecs := ← Setting.orElse Setting.asCount? std.timeoutSecs timeout
    maxDatagramSize := ← Setting.orElse Setting.asCount? std.maxDatagramSize datagram
    fragmentIdleSecs := ← Setting.orElse Setting.asCount? std.fragmentIdleSecs idle
    maxFragments := ← Setting.orElse Setting.asCount? std.maxFragments fragments
    checkIntervalMs := ← Setting.orElse Setting.asCount? std.checkIntervalMs check
    maxPatchQueue := ← Setting.orElse Setting.asCount? std.maxPatchQueue queue
    drivers := ← Setting.orElse drivers? std.drivers drivers }

/-- Cluster settings. -/
def cluster? (v : Setting) : Option ClusterSettings := do
  let [name, secret, nodes] ← v.record? ["name", "secret", "nodes"] | none
  let std := ClusterSettings.standard
  some {
    name := ← Setting.orElse Setting.asText? std.name name
    secret := ← Setting.orElse Setting.asText? std.secret secret
    nodes := ← Setting.orElse Setting.asTexts? std.nodes nodes }

/-- A record with one count. -/
def count? (name : String) (default : UInt64) (v : Setting) : Option UInt64 := do
  let [n] ← v.record? [name] | none
  Setting.orElse Setting.asCount? default n

/-- The settings of a tree. -/
def ofSetting? (hostname : String) (v : Setting) : Option NodeSettings := do
  let [nodename, listen, configDir, varDir, cluster, heartbeat, bus, discover, worker] ←
    v.record? ["nodename", "listen_addr", "config_dir", "var_dir", "cluster", "hb", "bus",
      "discover", "worker"] | none
  let std := standard hostname
  some {
    nodename := ← Setting.orElse Setting.asText? std.nodename nodename
    listenAddr := ← Setting.orElse Setting.asText? std.listenAddr listen
    configDir := ← Setting.orElse Setting.asText? std.configDir configDir
    varDir := ← Setting.orElse Setting.asText? std.varDir varDir
    cluster := ← Setting.orElse cluster? std.cluster cluster
    heartbeat := ← Setting.orElse heartbeat? std.heartbeat heartbeat
    busQueueSize := ←
      Setting.orElse (count? "queue_size" std.busQueueSize) std.busQueueSize bus
    scanIntervalMs := ←
      Setting.orElse (count? "scan_interval_ms" std.scanIntervalMs) std.scanIntervalMs discover
    dropPendingMs := ←
      Setting.orElse (count? "drop_pending_timeout_ms" std.dropPendingMs) std.dropPendingMs
        worker }

/-! ## Loading -/

/-- The tree of a file, by the format that its extension names. -/
def readFile? (extension : String) (content : Bytes) : Option Setting :=
  let text := Text.ofFile content
  if extension = "toml" then Toml.parse text
  else if extension = "json" then Setting.ofJsonText text
  else if extension = "json5" then Json5.parse text
  else if extension = "ron" then Ron.parse text
  else if extension = "yaml" ∨ extension = "yml" then Yaml.parse text
  else if extension = "ini" then Ini.parse text
  else none

/-- The settings after what the command line says. -/
def override (s : NodeSettings) (args : Arguments) : NodeSettings :=
  { s with
    nodename := args.nodename.getD s.nodename
    listenAddr := args.listen.getD s.listenAddr
    configDir := args.configDir.getD s.configDir
    varDir := args.varDir.getD s.varDir }

/-- The settings, if a node can run with them. -/
def validate (s : NodeSettings) : Except SettingsError NodeSettings :=
  if s.nodename = "" then .error .emptyNodename
  else if !s.heartbeat.drivers.isEmpty && s.cluster.secret == "" then .error .missingSecret
  else if s.heartbeat.intervalMs = 0 then .error .zeroInterval
  else .ok s

/-- The settings of a file, as its extension and its content, and of a command line. -/
def load (hostname : String) (file : Option (String × Bytes)) (args : Arguments) :
    Except SettingsError NodeSettings := do
  let s ← match file with
    | none => .ok (standard hostname)
    | some (extension, content) =>
      match readFile? extension content with
      | none => .error .notLoaded
      | some tree =>
        match ofSetting? hostname tree with
        | none => .error .notDecoded
        | some s => .ok s
  (s.override args).validate

/-- The members known at the start: at least the node itself. -/
def initialNodes (s : NodeSettings) : List String :=
  if s.cluster.nodes.isEmpty then [s.nodename] else s.cluster.nodes

/-- The period of the scans of the configuration directory. -/
def scanPeriodMs (s : NodeSettings) : UInt64 := max s.scanIntervalMs 1

end NodeSettings

end ClusterNode
