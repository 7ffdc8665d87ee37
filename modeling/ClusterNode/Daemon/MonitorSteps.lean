import ClusterNode.Daemon.State

/-!
# The program of a monitor

The passive monitor keeps the monitor record of the local instance in the store:
it takes over what is there, says whether the instance leads, obeys requests, and
deletes the record when it ends. The other kinds do nothing but end.
-/

namespace ClusterNode.Daemon

/-- What a passive monitor waits for. None of it comes first: if several are there, it takes
any of them. -/
inductive MonitorInput where
  /-- The end of the daemon, or of its watcher. -/
  | ending
  | request
  | config
  deriving DecidableEq, Repr

/-- Keep a monitor. -/
def putMonitor (d : Daemon) (id : WorkerId) (m : Monitor) : Daemon :=
  { d with monitors := d.monitors.insert id m }

/-- Whether the local instance leads: its node is the first of the scope. -/
def leads (d : Daemon) (scope : List String) : Bool := scope.head? == some d.localhost

/-- Whether a monitor has to end. -/
def endsMonitor (d : Daemon) (m : Monitor) : Bool := d.cancelled || m.cancelled

/-- What a monitor makes of a request. -/
def requestMonitor (d : Daemon) (m : Monitor) (u : MonitorUpdate) : Monitor :=
  if m.record.changedBy u then
    { m with record := m.record.apply u d.now, point := .publishing }
  else m

/-- What a monitor makes of a new configuration. -/
def reconfigureMonitor (d : Daemon) (m : Monitor) (scope : List String) : Monitor :=
  let isLeader := d.leads scope
  if isLeader = m.record.isLeader then m
  else { m with record := { m.record with isLeader }, point := .publishing }

/-- A step of a passive monitor that waits for what happens next, and takes one thing of
all that is there. -/
def runMonitor (d : Daemon) (id : WorkerId) (m : Monitor) : MonitorInput → Option Daemon
  | .ending =>
    if d.endsMonitor m then
      some ((d.unsubscribe [m.requests, m.configs]).putMonitor id { m with point := .deleting })
    else none
  | .request =>
    match d.receive m.requests with
    | some (.setInstanceMonitor _ _ u, d) => some (d.putMonitor id (d.requestMonitor m u))
    | some (_, d) => some d
    | none => none
  | .config =>
    match d.receive m.configs with
    | some (.configUpdated _ _ c, d) => some (d.putMonitor id (d.reconfigureMonitor m c.scope))
    | some (_, d) => some d
    | none => none

/-- The first step of a monitor. -/
def beginMonitor (d : Daemon) (id : WorkerId) (m : Monitor) : Daemon :=
  match m.kind with
  | .passive =>
    let filter : List Label := [.path m.path, .node d.localhost]
    let (requests, d) := d.subscribe .setInstanceMonitor filter
    let (configs, d) := d.subscribe .configUpdated filter
    d.putMonitor id { m with requests, configs, point := .seeding }
  | .idle => d.putMonitor id { m with point := .running }
  | .timed ms => d.putMonitor id { m with point := .waiting (d.served + ms) }
  | .failing => d.putMonitor id { m with point := .ended }

/-- A step of a monitor, with what a passive one takes if it waits. -/
def stepMonitor (d : Daemon) (input : MonitorInput) (id : WorkerId) (m : Monitor) :
    Option Daemon :=
  match m.point with
  | .starting => some (d.beginMonitor id m)
  | .seeding =>
    let record := ((d.instanceOf m.path d.localhost).monitor).getD default
    let record := { record with isLeader := d.leads m.scope }
    some (d.putMonitor id { m with record, point := .publishing })
  | .publishing =>
    let (d, _) := d.applyLocal (.setMonitor m.path m.record)
    some (d.putMonitor id { m with point := .running })
  | .running =>
    match m.kind with
    | .passive => d.runMonitor id m input
    | _ => if d.endsMonitor m then some (d.putMonitor id { m with point := .ended }) else none
  | .waiting deadline =>
    if deadline ≤ d.served then some (d.putMonitor id { m with point := .ended }) else none
  | .deleting =>
    let (d, _) := d.applyLocal (.delMonitor m.path)
    some (d.putMonitor id { m with point := .ended })
  | .ended => none

end ClusterNode.Daemon
