import ClusterNode.Daemon.State
import ClusterNode.Json.Reader

/-!
# The program of the coordinator

It scans the configuration directory, keeps a watcher for every file and an
aggregator for every object that some node configures, and takes the status files
of the local objects into the store.

A worker that has ended is forgotten when its notice is taken, and only if it is
the one that is known; an object that is still configured then gets a new
aggregator. When the node goes down, the workers are told to end and waited for.
-/

namespace ClusterNode

/-- The time of modification of a status file. -/
def StatusEntry.modified : StatusEntry → Timestamp
  | .file v => v.modified
  | .directory => .epoch

/-- The status in a status file. -/
def StatusEntry.read? : StatusEntry → Option InstanceStatus
  | .file v => (Json.parseUtf8 v.content).bind (ofJson? .direct)
  | .directory => none

/-- Forget the files without a watcher, so that the next scan tries them again. -/
def Coordinator.retry (c : Coordinator) : Coordinator :=
  { c with files := c.files.filter fun p _ => c.watchers.contains p }

namespace Daemon

/-- How long the end of the workers is waited for. -/
def shutdownGrace : Nat := 5000

/-- Keep the coordinator. -/
def putCoordinator (d : Daemon) (c : Coordinator) : Daemon := { d with coordinator := some c }

/-- Whether the watcher of an object is known and has not ended. -/
def watches (d : Daemon) (c : Coordinator) (p : ObjectPath) : Bool :=
  ((c.watchers.get? p).bind d.watcher?).isSome

/-- Whether the aggregator of an object is known and has not ended. -/
def aggregates (d : Daemon) (c : Coordinator) (p : ObjectPath) : Bool :=
  ((c.aggregators.get? p).bind d.aggregator?).isSome

/-- Start the aggregator of an object. -/
def beginAggregator (d : Daemon) (c : Coordinator) (p : ObjectPath) (scope : List String) :
    Daemon :=
  let (id, d) := d.startAggregator p scope
  d.putCoordinator { c with aggregators := c.aggregators.insert p id, point := .idle }

/-! ## Notices and events -/

/-- Forget a worker that has ended, unless it was replaced. -/
def takeNotice (d : Daemon) (c : Coordinator) (restarts : Bool) : Notice → Daemon
  | .watcherDone p _ id =>
    if c.watchers.get? p = some id then
      d.putCoordinator { c with
        watchers := c.watchers.erase p, statusTimes := c.statusTimes.erase p }
    else d
  | .aggregatorDone p id =>
    if c.aggregators.get? p = some id then
      d.putCoordinator { c with
        aggregators := c.aggregators.erase p
        point := if restarts then .restarting p else c.point }
    else d

/-- Start an aggregator for an object that a node configures, unless one runs. -/
def heedConfig (d : Daemon) (c : Coordinator) : Event → Daemon
  | .configUpdated p node value =>
    if d.aggregates c p then d
    else
      let scope := if value.scope.contains node then value.scope else value.scope ++ [node]
      d.beginAggregator c p scope
  | _ => d

/-! ## Scans -/

/-- Tell of a file that is gone. -/
def tellGone (d : Daemon) (p : ObjectPath) (f : ConfigFile) : Daemon :=
  d.publish (.ofPath (.configFileRemoved p f.filename) p)

/-- Take a file that is new or changed: its watcher is told, or one is started. -/
def takeFile (d : Daemon) (c : Coordinator) (p : ObjectPath) (f : ConfigFile) :
    Daemon × Coordinator :=
  let c := { c with files := c.files.insert p f }
  if d.watches c p then (d.publish (.ofPath (.configFileUpdated p f.filename) p), c)
  else
    let (id, d) := d.startWatcher p f.filename
    (d, { c with watchers := c.watchers.insert p id })

/-- Compare the files that a scan found with those of the last one. -/
def applyScan (d : Daemon) (c : Coordinator) (found : SortedMap ObjectPath ConfigFile) :
    Daemon :=
  let gone := c.files.entries.filter fun e => !found.contains e.1
  let d := gone.foldl (fun d e => d.tellGone e.1 e.2) d
  let c := { c with files := c.files.filter fun p _ => found.contains p }
  let changed := found.entries.filter fun e =>
    (c.files.get? e.1).all fun known => known.modified != e.2.modified
  let (d, c) := changed.foldl (fun (d, c) e => takeFile d c e.1 e.2) (d, c)
  d.putCoordinator { c with
    point := .looking (c.watchers.keys.filter fun p => !p.isCluster) }

/-- Look at the status file of an object. -/
def lookAtStatus (d : Daemon) (c : Coordinator) (p : ObjectPath) (rest : List ObjectPath) :
    Daemon :=
  let next := { c with point := .looking rest }
  match d.statusFiles.get? p.toString with
  | none => d.putCoordinator next
  | some entry =>
    let modified := StatusEntry.modified entry
    if c.statusTimes.get? p = some modified then d.putCoordinator next
    else
      d.putCoordinator { c with
        statusTimes := c.statusTimes.insert p modified, point := .reading p rest }

/-- Read the status file of an object. -/
def readStatus (d : Daemon) (c : Coordinator) (p : ObjectPath) (rest : List ObjectPath) :
    Daemon :=
  match (d.statusFiles.get? p.toString).bind StatusEntry.read? with
  | some value => d.putCoordinator { c with point := .storing p value rest }
  | none => d.putCoordinator { c with point := .looking rest }

/-! ## Steps -/

/-- The time of the next scan after one: those that were missed are left out. -/
def nextScanAfter (served next period : Nat) : Nat := next + ((served - next) / period + 1) * period

/-- A step of a coordinator that waits for what happens next. -/
def runCoordinator (d : Daemon) (c : Coordinator) : Option Daemon :=
  if d.cancelled then some (d.putCoordinator { c with point := .leaving })
  else
    match d.notices with
    | n :: rest => some ({ d with notices := rest }.takeNotice c true n)
    | [] =>
      match d.receive c.configs with
      | some (e, d) => some (d.heedConfig c e)
      | none =>
        match d.receive c.members with
        | some (_, d) => some (d.putCoordinator c.retry)
        | none =>
          if c.nextScan ≤ d.served then
            some (d.putCoordinator { c with
              nextScan := nextScanAfter d.served c.nextScan d.settings.scanPeriod
              point := .scanning })
          else none

/-- Tell all workers to end. -/
def dismiss (d : Daemon) (c : Coordinator) : Daemon :=
  let d := c.watchers.values.foldl (fun d id => (d.commandWatcher id .exit).getD d) d
  c.aggregators.values.foldl (fun d id => (d.commandAggregator id .exit).getD d) d

/-- A step of a coordinator that waits for its workers to end. -/
def awaitWorkers (d : Daemon) (c : Coordinator) (deadline : Nat) : Option Daemon :=
  let finish (d : Daemon) : Daemon :=
    { d with takesNotices := false, notices := [] }.putCoordinator { c with point := .done }
  if c.watchers.isEmpty && c.aggregators.isEmpty then some (finish d)
  else
    match d.notices with
    | n :: rest => some ({ d with notices := rest }.takeNotice c false n)
    | [] => if deadline ≤ d.served then some (finish d) else none

/-- A step of the coordinator. -/
def stepCoordinator (d : Daemon) (c : Coordinator) : Option Daemon :=
  match c.point with
  | .starting =>
    let (configs, d) := d.subscribe .configUpdated []
    let (members, d) := d.subscribe .clusterConfigUpdated [.node d.localhost]
    some (d.putCoordinator { c with configs, members, point := .idle })
  | .idle => d.runCoordinator c
  | .scanning =>
    match d.configDirectory.scan with
    | none => some (d.putCoordinator { c with point := .idle })
    | some found => some (d.putCoordinator { c with point := .applying found })
  | .applying found => some (d.applyScan c found)
  | .looking [] => some (d.putCoordinator { c with point := .idle })
  | .looking (p :: rest) => some (d.lookAtStatus c p rest)
  | .reading p rest => some (d.readStatus c p rest)
  | .storing p value rest =>
    let (d, _) := d.applyLocal (.setStatus p value)
    some (d.putCoordinator { c with point := .looking rest })
  | .restarting p =>
    let nodes := if d.storeOpen then d.replica.configNodes p else []
    if nodes.isEmpty then some (d.putCoordinator { c with point := .idle })
    else some (d.beginAggregator c p nodes)
  | .leaving =>
    let d := d.unsubscribe [c.configs, c.members]
    some ((d.dismiss c).putCoordinator { c with point := .waiting (d.served + shutdownGrace) })
  | .waiting deadline => d.awaitWorkers c deadline
  | .done => none

end Daemon

end ClusterNode
