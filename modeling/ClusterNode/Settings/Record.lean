import ClusterNode.Json.Wire
import ClusterNode.Settings.Node

/-!
# Settings as a JSON record

The form in which the settings in effect are shown: periods in milliseconds, and
what follows from the settings beside what they say.
-/

namespace ClusterNode

/-- The record of a driver. -/
def DriverSettings.toRecord (d : DriverSettings) : Json :=
  .obj [("name", toJson d.name), ("bind", toJson d.bind), ("peers", toJson d.peers),
    ("multicast_interface", (d.multicastInterface.map Ipv4.text).elim .null .str)]

/-- The record of the cluster. -/
def ClusterSettings.toRecord (c : ClusterSettings) : Json :=
  .obj [("name", toJson c.name), ("secret", toJson c.secret), ("nodes", toJson c.nodes)]

/-- A number of seconds in milliseconds; far beyond any age it starts over at zero. -/
def millisOfSeconds (n : UInt64) : Json := toJson (n * 1000)

/-- The record of how the node talks to its peers. -/
def HeartbeatSettings.toRecord (h : HeartbeatSettings) : Json :=
  .obj [("interval_ms", toJson h.intervalMs), ("timeout_ms", millisOfSeconds h.timeoutSecs),
    ("max_datagram_size", toJson h.maxDatagramSize),
    ("fragment_idle_ms", millisOfSeconds h.fragmentIdleSecs),
    ("max_fragments", toJson h.maxFragments), ("check_interval_ms", toJson h.checkIntervalMs),
    ("max_patch_queue", toJson h.maxPatchQueue),
    ("drivers", .arr (h.drivers.map DriverSettings.toRecord))]

/-- The record of the settings, and of what only the command line says. -/
def NodeSettings.toRecord (s : NodeSettings) (args : Arguments) : Json :=
  .obj [("nodename", toJson s.nodename), ("listen_addr", toJson s.listenAddr),
    ("config_dir", toJson s.configDir), ("var_dir", toJson s.varDir),
    ("cluster", s.cluster.toRecord), ("hb", s.heartbeat.toRecord),
    ("bus_queue_size", toJson s.busQueueSize), ("scan_interval_ms", toJson s.scanPeriodMs),
    ("drop_pending_timeout_ms", toJson s.dropPendingMs),
    ("initial_nodes", toJson s.initialNodes), ("log_level", toJson args.logLevel),
    ("json_logs", toJson args.jsonLogs)]

end ClusterNode
