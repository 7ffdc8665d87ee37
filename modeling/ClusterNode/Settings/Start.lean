import ClusterNode.Heartbeat.Manager
import ClusterNode.Settings.Node

/-!
# What a node starts with

The settings of a node become the periods of its timers and what its drivers share. A timer has a
positive period: an actor that asks for one with a period of zero comes to an end instead.
-/

namespace ClusterNode

/-- What fires once in every period. -/
structure Timer where
  periodMs : UInt64
  positive : 0 < periodMs

/-- The timer of a period; there is none for zero. -/
def Timer.every? (periodMs : UInt64) : Option Timer :=
  if positive : 0 < periodMs then some ⟨periodMs, positive⟩ else none

/-- The actors that ask for a timer when they start. -/
inductive TimedActor where
  /-- The store makes a message for the peers. -/
  | store
  /-- The peer controller looks for streams that are silent. -/
  | peerController
  /-- The coordinator scans the configuration directory. -/
  | coordinator
  deriving DecidableEq, Repr

namespace NodeSettings

/-- The period that an actor asks for. -/
def periodMs (s : NodeSettings) : TimedActor → UInt64
  | .store => s.heartbeat.intervalMs
  | .peerController => s.heartbeat.checkIntervalMs
  | .coordinator => s.scanPeriodMs

/-- The timer of an actor, if it gets one. -/
def timer? (s : NodeSettings) (actor : TimedActor) : Option Timer :=
  Timer.every? (s.periodMs actor)

/-- What the halves of the drivers share. -/
def driverContext (s : NodeSettings) : DriverContext where
  localhost := s.nodename
  envelope := .new s.cluster.name s.nodename s.cluster.secret
  maxDatagramSize := s.heartbeat.maxDatagramSize.toNat
  maxFragments := s.heartbeat.maxFragments.toNat

/-- The drivers, if every receiver can be started. -/
def manager (s : NodeSettings) : HeartbeatManager where
  context := s.driverContext
  transmitters := s.heartbeat.drivers.map fun d => .new d.name s.nodename d.peers s.initialNodes
  receivers := s.heartbeat.drivers.map fun d =>
    .new d.name (s.heartbeat.fragmentIdleSecs.toNat * 1000) s.heartbeat.maxFragments.toNat
  running := true

end NodeSettings

end ClusterNode
