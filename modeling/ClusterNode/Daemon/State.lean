import ClusterNode.Bus
import ClusterNode.Daemon.Files
import ClusterNode.Replication.Replica

/-!
# The state of a running node

A node runs a store, a coordinator that discovers objects, and workers: a watcher
with a monitor for every local configuration file, and an aggregator for every
object. Each is an actor: its state says at which point of its program it stands,
and what it can do next is one step of one actor (`Daemon.stepTaking`).

A call of the store is one step, because its caller waits for nothing else. What
the actors tell each other goes through the bus, through the mailboxes of the
workers and through the notices to the coordinator.
-/

namespace ClusterNode

/-- The number of a worker; it is never given again. -/
abbrev WorkerId := Nat

/-- What a worker can be told. -/
inductive WorkerCommand where
  /-- End. -/
  | exit
  /-- Look at everything anew. -/
  | refresh
  deriving DecidableEq, Repr

/-- How many commands a mailbox holds. -/
def mailboxSize : Nat := 8

/-- What a worker tells the coordinator when it has ended. -/
inductive Notice where
  | watcherDone (path : ObjectPath) (filename : String) (worker : WorkerId)
  | aggregatorDone (path : ObjectPath) (worker : WorkerId)
  deriving DecidableEq

/-! ## Aggregators -/

/-- The subscriptions of an aggregator. -/
structure AggregatorSubscriptions where
  status : Nat
  monitor : Nat
  config : Nat
  configDeleted : Nat
  deriving DecidableEq

/-- The points of the program of an aggregator. -/
inductive AggregatorPoint where
  | starting
  /-- The records of the nodes of the scope are read, one after the other. -/
  | tracking (rest : List String)
  /-- The aggregate goes to the store, because of the event described. -/
  | publishing (source : Option String)
  | running
  /-- The records of a node that joined are read. -/
  | joining (node source : String)
  | leaving
  /-- Commands that still come in are dropped until none came for a while. -/
  | draining (deadline : Nat)
  | done
  deriving DecidableEq

/-- The worker that keeps the aggregate of one object. -/
structure Aggregator where
  path : ObjectPath
  scope : List String
  point : AggregatorPoint
  /-- The statuses of the nodes that are tracked. -/
  status : SortedMap String InstanceStatus
  monitors : SortedMap String InstanceMonitor
  mailbox : List WorkerCommand
  subscriptions : AggregatorSubscriptions
  deriving DecidableEq

/-! ## Watchers and monitors -/

/-- The points of the evaluation of a configuration file. -/
inductive CheckPoint where
  /-- The time of modification is read. -/
  | start
  | reading (modified : Timestamp)
  | evaluating (modified : Timestamp) (checksum : String)
  /-- The time of modification is read again. -/
  | confirming (modified : Timestamp) (checksum : String) (scope : List String)
  | publishing (modified : Timestamp) (config : InstanceConfig)
  deriving DecidableEq

/-- The points of the program of a watcher. -/
inductive WatcherPoint where
  /-- The members of the cluster are read. -/
  | starting
  /-- The file is evaluated, for the first time or again. -/
  | checking (isFirst : Bool) (point : CheckPoint)
  /-- The monitor is started. -/
  | launching
  | running
  /-- The monitor was told to end, and is waited for. -/
  | stopping
  | deletingConfig
  | deletingStatus
  | finishing
  | draining (deadline : Nat)
  | done
  deriving DecidableEq

/-- The subscriptions of a watcher. -/
structure WatcherSubscriptions where
  updated : Nat
  removed : Nat
  /-- The changes of the membership; the watcher of a cluster object has none. -/
  cluster : Option Nat
  deriving DecidableEq

/-- The worker that watches one configuration file. -/
structure Watcher where
  path : ObjectPath
  filename : String
  point : WatcherPoint
  /-- The members that the scope is evaluated against. -/
  clusterNodes : List String
  /-- The configuration published last. -/
  config : InstanceConfig
  lastModified : Option Timestamp
  /-- Whether the next check evaluates the file even if it is unchanged. -/
  force : Bool
  published : Bool
  mailbox : List WorkerCommand
  subscriptions : WatcherSubscriptions
  deriving DecidableEq

/-- The monitors that a node can run. -/
inductive MonitorKind where
  /-- It keeps the monitor record and obeys requests. -/
  | passive
  /-- It does nothing until it is told to end. -/
  | idle
  /-- It ends by itself after a time in milliseconds. -/
  | timed (ms : Nat)
  /-- It fails at once. -/
  | failing
  deriving DecidableEq, Repr

/-- The points of the program of a monitor. -/
inductive MonitorPoint where
  | starting
  /-- The record of the store is read. -/
  | seeding
  | publishing
  | running
  | waiting (deadline : Nat)
  | deleting
  | ended
  deriving DecidableEq

/-- The monitor that a watcher runs. -/
structure Monitor where
  kind : MonitorKind
  path : ObjectPath
  scope : List String
  point : MonitorPoint
  record : InstanceMonitor
  /-- Whether its watcher told it to end. -/
  cancelled : Bool
  requests : Nat
  configs : Nat
  deriving DecidableEq

/-! ## The coordinator -/

/-- The points of the program of the coordinator. -/
inductive CoordinatorPoint where
  | starting
  | idle
  /-- The configuration directory is read. -/
  | scanning
  | applying (found : SortedMap ObjectPath ConfigFile)
  /-- The status files of these objects are looked at. -/
  | looking (rest : List ObjectPath)
  | reading (path : ObjectPath) (rest : List ObjectPath)
  | storing (path : ObjectPath) (value : InstanceStatus) (rest : List ObjectPath)
  /-- The nodes that configure the object of an ended aggregator are read. -/
  | restarting (path : ObjectPath)
  | leaving
  | waiting (deadline : Nat)
  | done
  deriving DecidableEq

/-- The actor that starts the workers. -/
structure Coordinator where
  point : CoordinatorPoint
  /-- The files that the last scan saw. -/
  files : SortedMap ObjectPath ConfigFile
  watchers : SortedMap ObjectPath WorkerId
  aggregators : SortedMap ObjectPath WorkerId
  /-- The times of modification of the status files read. -/
  statusTimes : SortedMap ObjectPath Timestamp
  nextScan : Nat
  configs : Nat
  members : Nat
  deriving DecidableEq

/-! ## The node -/

/-- What the actors of a node are set up with; times are in milliseconds. -/
structure DaemonSettings where
  localhost : String
  cluster : ClusterConfig
  maxPatchQueue : Nat
  peerTimeout : Nat
  busQueueSize : Nat
  /-- The period of the messages to peers. -/
  interval : Nat
  scanPeriod : Nat
  dropPending : Nat
  monitor : MonitorKind
  deriving DecidableEq

/-- A running node. -/
structure Daemon where
  settings : DaemonSettings
  startedAt : Timestamp
  /-- The time since the start that the clock shows. -/
  clock : Nat
  /-- The time since the start up to which timers were served. -/
  served : Nat
  cancelled : Bool
  bus : Bus
  /-- What was published, newest first. -/
  published : List Publication
  replica : Replica
  storeOpen : Bool
  streamEvents : Nat
  modeEvents : Nat
  nextMessage : Nat
  /-- Whether anything transmits messages to peers. -/
  transmits : Bool
  /-- The message to peers made last. -/
  outbox : Option Message
  configDirectory : ConfigDirectory
  statusFiles : SortedMap String StatusEntry
  coordinator : Option Coordinator
  /-- The notices that are not taken, oldest first. -/
  notices : List Notice
  /-- Whether anything takes notices. -/
  takesNotices : Bool
  watchers : SortedMap WorkerId Watcher
  monitors : SortedMap WorkerId Monitor
  aggregators : SortedMap WorkerId Aggregator
  nextWorker : WorkerId
  deriving DecidableEq

namespace Daemon

/-- The time that the clock shows. -/
def now (d : Daemon) : Timestamp := d.startedAt.addMillis d.clock

/-- The name of the node. -/
def localhost (d : Daemon) : String := d.settings.localhost

/-- A node with nothing but its store. -/
def new (s : DaemonSettings) (startedAt : Timestamp) : Daemon :=
  let (streamEvents, bus) := (Bus.new s.busQueueSize).subscribe .streamUpdated []
  let (modeEvents, bus) := bus.subscribe .modeUpdated []
  { settings := s
    startedAt
    clock := 0
    served := 0
    cancelled := false
    bus
    published := []
    replica := .new s.localhost s.cluster s.maxPatchQueue s.peerTimeout
    storeOpen := true
    streamEvents
    modeEvents
    nextMessage := 0
    transmits := false
    outbox := none
    configDirectory := .missing
    statusFiles := ∅
    coordinator := none
    notices := []
    takesNotices := true
    watchers := ∅
    monitors := ∅
    aggregators := ∅
    nextWorker := 1 }

/-! ## The bus -/

/-- Publish an event. -/
def publish (d : Daemon) (p : Publication) : Daemon :=
  { d with bus := d.bus.publish p, published := p :: d.published }

/-- Publish events in order. -/
def publishAll (d : Daemon) (ps : List Publication) : Daemon := ps.foldl publish d

/-- Subscribe to a kind of events. -/
def subscribe (d : Daemon) (kind : EventKind) (filter : List Label) : Nat × Daemon :=
  let (id, bus) := d.bus.subscribe kind filter
  (id, { d with bus })

/-- End subscriptions. -/
def unsubscribe (d : Daemon) (ids : List Nat) : Daemon :=
  { d with bus := ids.foldl Bus.stop d.bus }

/-- Take the next event of a subscription, if there is one. -/
def receive (d : Daemon) (id : Nat) : Option (Event × Daemon) :=
  (d.bus.next? id).map fun e => (e, { d with bus := d.bus.take id })

/-! ## The store -/

/-- Keep a state of the store, and publish the events that led to it. -/
def commit (d : Daemon) (result : Replica × List Publication) : Daemon :=
  { d with replica := result.1 }.publishAll result.2

/-- Make an own mutation; the own generation after it, unless the store is closed. -/
def applyLocal (d : Daemon) (m : Mutation) : Daemon × Option Generation :=
  if d.storeOpen then
    let d := d.commit (d.replica.applyLocal m)
    (d, some d.replica.generation)
  else (d, none)

/-- Make the mutations of a peer. -/
def applyRemote (d : Daemon) (node : String) (g : Generation) (ms : List Mutation) :
    Daemon × Option (Except RemoteError Unit) :=
  if d.storeOpen then
    let (replica, result) := d.replica.applyRemote node g ms
    let events := match result with
      | .ok events => events
      | .error _ => []
    let d := d.commit (replica, events)
    (d.commit d.replica.takePending, some (result.map fun _ => ()))
  else (d, none)

/-- Take a message of a peer; whether the store was open for it. -/
def applyMessage (d : Daemon) (m : Message) : Daemon × Bool :=
  if d.storeOpen then (d.commit (d.replica.applyMessage m d.clock), true) else (d, false)

/-- Keep the aggregate of an object. -/
def setAggregate (d : Daemon) (p : ObjectPath) (value : ObjectStatus)
    (source : Option String) : Daemon :=
  if d.storeOpen then d.commit (d.replica.setAggregate p value source) else d

/-- Drop the aggregate of an object. -/
def delAggregate (d : Daemon) (p : ObjectPath) : Daemon :=
  if d.storeOpen then d.commit (d.replica.delAggregate p) else d

/-- The records of an object on a node; empty if the store is closed. -/
def instanceOf (d : Daemon) (p : ObjectPath) (node : String) : Instance :=
  if d.storeOpen then (d.replica.instance? p node).getD default else default

/-- The store ends: it takes no more calls and no more events. -/
def closeStore (d : Daemon) : Daemon :=
  { d with storeOpen := false }.unsubscribe [d.streamEvents, d.modeEvents]

/-! ## Workers -/

/-- Tell the coordinator. -/
def notify (d : Daemon) (n : Notice) : Daemon :=
  if d.takesNotices then { d with notices := d.notices ++ [n] } else d

/-- The watcher of a number, while it has not ended. -/
def watcher? (d : Daemon) (id : WorkerId) : Option Watcher :=
  (d.watchers.get? id).filter fun w => w.point != .done

/-- The aggregator of a number, while it has not ended. -/
def aggregator? (d : Daemon) (id : WorkerId) : Option Aggregator :=
  (d.aggregators.get? id).filter fun a => a.point != .done

/-- Put a command into a mailbox, unless it is full. -/
def post (mailbox : List WorkerCommand) (c : WorkerCommand) : Option (List WorkerCommand) :=
  if mailbox.length < mailboxSize then some (mailbox ++ [c]) else none

/-- Command a watcher; none if it has ended or its mailbox is full. -/
def commandWatcher (d : Daemon) (id : WorkerId) (c : WorkerCommand) : Option Daemon := do
  let w ← d.watcher? id
  let mailbox ← post w.mailbox c
  some { d with watchers := d.watchers.insert id { w with mailbox } }

/-- Command an aggregator; none if it has ended or its mailbox is full. -/
def commandAggregator (d : Daemon) (id : WorkerId) (c : WorkerCommand) : Option Daemon := do
  let a ← d.aggregator? id
  let mailbox ← post a.mailbox c
  some { d with aggregators := d.aggregators.insert id { a with mailbox } }

/-- Start an aggregator; it subscribes when it first runs. -/
def startAggregator (d : Daemon) (path : ObjectPath) (scope : List String) :
    WorkerId × Daemon :=
  let a : Aggregator :=
    { path, scope, point := .starting, status := ∅, monitors := ∅, mailbox := [],
      subscriptions := ⟨0, 0, 0, 0⟩ }
  (d.nextWorker, { d with
    aggregators := d.aggregators.insert d.nextWorker a
    nextWorker := d.nextWorker + 1 })

/-- Start a watcher; it is subscribed before it first runs, so that it misses no
event about its file. -/
def startWatcher (d : Daemon) (path : ObjectPath) (filename : String) : WorkerId × Daemon :=
  let (updated, d) := d.subscribe .configFileUpdated [.path path]
  let (removed, d) := d.subscribe .configFileRemoved [.path path]
  let (cluster, d) :=
    if path.isCluster then (none, d)
    else
      let (id, d) := d.subscribe .clusterConfigUpdated [.node d.localhost]
      (some id, d)
  let w : Watcher :=
    { path, filename, point := .starting, clusterNodes := [], config := default,
      lastModified := none, force := false, published := false, mailbox := [],
      subscriptions := ⟨updated, removed, cluster⟩ }
  (d.nextWorker, { d with
    watchers := d.watchers.insert d.nextWorker w
    nextWorker := d.nextWorker + 1 })

/-- Start the coordinator. -/
def startCoordinator (d : Daemon) : Daemon :=
  { d with coordinator := some {
      point := .starting, files := ∅, watchers := ∅, aggregators := ∅, statusTimes := ∅,
      nextScan := d.served, configs := 0, members := 0 } }

end Daemon

end ClusterNode
