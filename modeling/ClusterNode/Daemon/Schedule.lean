import ClusterNode.Daemon.AggregatorSteps
import ClusterNode.Daemon.CoordinatorSteps
import ClusterNode.Daemon.MonitorSteps
import ClusterNode.Daemon.WatcherSteps

/-!
# Runs of a node

`Daemon.stepTaking` is the only way in which an actor changes a node, and `Daemon.Step` is
authoritative about what can happen: any actor may step at any time, a monitor may take
any of its inputs, and the world outside acts in between. The schedule below picks one such
run: all actors in turn, until none can step, and then the next timer.
-/

namespace ClusterNode

/-- The actors of a node. -/
inductive Actor where
  | store
  | coordinator
  | watcher (id : WorkerId)
  | monitor (id : WorkerId)
  | aggregator (id : WorkerId)
  deriving DecidableEq, Repr

/-- Whether a check of a configuration file is at a step that waits for a file. -/
def CheckPoint.waitsForFile : CheckPoint → Bool
  | .start | .reading _ | .confirming .. => true
  | .evaluating .. | .publishing .. => false

/-- Whether the next step of a watcher waits for a file. -/
def WatcherPoint.waitsForFile : WatcherPoint → Bool
  | .checking _ point => point.waitsForFile
  | _ => false

/-- Whether the next step of the coordinator waits for a file. -/
def CoordinatorPoint.waitsForFile : CoordinatorPoint → Bool
  | .scanning | .looking (_ :: _) | .reading .. => true
  | _ => false

namespace Daemon

/-! ## Steps -/

/-- What the store makes of an event of the heartbeat. -/
def heedHeartbeat (d : Daemon) : Event → Daemon
  | .streamUpdated node stream _ after =>
    { d with replica := d.replica.setStream node stream after d.now }
  | .modeUpdated node _ after _ => { d with replica := d.replica.setMode node after }
  | _ => d

/-- The message to the peers, if anything transmits it. -/
def tickStore (d : Daemon) : Daemon :=
  let d := { d with nextMessage := d.served + d.settings.interval }
  if d.transmits then
    let (replica, message) := d.replica.buildMessage d.clock
    { d with replica, outbox := some message }
  else d

/-- A step of the store. -/
def stepStore (d : Daemon) : Option Daemon :=
  if !d.storeOpen then none
  else
    match d.receive d.streamEvents <|> d.receive d.modeEvents with
    | some (e, d) => some (d.heedHeartbeat e)
    | none => if d.nextMessage ≤ d.served then some d.tickStore else none

/-- A step of an actor, in which a monitor that waits takes an input; none if the actor
waits, or does not exist. -/
def stepTaking (d : Daemon) (input : MonitorInput) : Actor → Option Daemon
  | .store => d.stepStore
  | .coordinator => d.coordinator.bind d.stepCoordinator
  | .watcher id => (d.watchers.get? id).bind (d.stepWatcher id)
  | .monitor id => (d.monitors.get? id).bind (d.stepMonitor input id)
  | .aggregator id => (d.aggregators.get? id).bind (d.stepAggregator id)

/-- The first input of a monitor that is there. -/
def firstInput (d : Daemon) : Actor → MonitorInput
  | .monitor id =>
    match d.monitors.get? id with
    | some m =>
      if d.endsMonitor m then .ending
      else if (d.bus.next? m.requests).isSome then .request
      else .config
    | none => .ending
  | _ => .ending

/-- A step of an actor, in which a monitor takes its first input. -/
def step (d : Daemon) (a : Actor) : Option Daemon := d.stepTaking (d.firstInput a) a

/-- Whether every actor waits. -/
def Quiet (d : Daemon) : Prop := ∀ a : Actor, d.step a = none

/-- The clock moves. -/
def moveClock (d : Daemon) (ms : Nat) : Daemon := { d with clock := d.clock + ms }

/-- The timers up to a time are due, but none before those that are due already. -/
def serveTo (d : Daemon) (time : Nat) : Daemon := { d with served := max d.served time }

/-- The daemon is asked to go down. -/
def cancel (d : Daemon) : Daemon := { d with cancelled := true }

/-- What can happen to a node. -/
inductive Step (d : Daemon) : Daemon → Prop where
  /-- An actor steps; what a monitor takes is left open. -/
  | act {a : Actor} {input : MonitorInput} {e : Daemon} : d.stepTaking input a = some e → Step d e
  | moveClock (ms : Nat) : Step d (d.moveClock ms)
  /-- A timer is due only when the clock shows its time. -/
  | serve {time : Nat} : time ≤ d.clock → Step d (d.serveTo time)
  | configDirectory (c : ConfigDirectory) : Step d { d with configDirectory := c }
  | statusFiles (files : SortedMap String StatusEntry) : Step d { d with statusFiles := files }
  | applyLocal (m : Mutation) : Step d (d.applyLocal m).1
  | applyRemote (node : String) (g : Generation) (ms : List Mutation) :
      Step d (d.applyRemote node g ms).1
  | applyMessage (m : Message) : Step d (d.applyMessage m).1
  | publish (p : Publication) : Step d (d.publish p)
  | cancel : Step d d.cancel
  | closeStore : Step d d.closeStore

/-- Any number of things that happen one after the other. -/
inductive Steps : Daemon → Daemon → Prop where
  | refl {d : Daemon} : Steps d d
  | step {d e f : Daemon} : Steps d e → Step e f → Steps d f

/-! ## The schedule -/

/-- The actors in the order in which they take turns. -/
def actors (d : Daemon) : List Actor :=
  [.store, .coordinator] ++ d.watchers.keys.map .watcher ++ d.monitors.keys.map .monitor ++
    d.aggregators.keys.map .aggregator

/-- Whether the next step of an actor waits for a file. -/
def waitsForFile (d : Daemon) : Actor → Bool
  | .coordinator => d.coordinator.any (·.point.waitsForFile)
  | .watcher id => (d.watchers.get? id).any (·.point.waitsForFile)
  | _ => false

/-- A turn of every actor that passes a test, and whether any could step. -/
def turns (d : Daemon) (passes : Daemon → Actor → Bool) : Daemon × Bool :=
  d.actors.foldl
    (fun (d, moved) a =>
      match if passes d a then d.step a else none with
      | some e => (e, true)
      | none => (d, moved))
    (d, false)

/-- Turns until every actor that passes a test waits, but not more than a number of
them. -/
def settleWithin (passes : Daemon → Actor → Bool) : Nat → Daemon → Daemon
  | 0, d => d
  | n + 1, d =>
    let (e, moved) := d.turns passes
    if moved then settleWithin passes n e else d

/-- The number of turns that a node is given to become quiet. -/
def maxTurns : Nat := 100000

/-- Turns until every actor waits. -/
def settle (d : Daemon) : Daemon := settleWithin (fun _ _ => true) maxTurns d

/-- Turns until every actor waits, be it for a file: no file is as fast as a turn. -/
def yield (d : Daemon) : Daemon := settleWithin (fun d a => !d.waitsForFile a) maxTurns d

/-- The times for which the actors wait. -/
def timers (d : Daemon) : List Nat :=
  let store := if d.storeOpen then [d.nextMessage] else []
  let coordinator := match d.coordinator with
    | some c =>
      match c.point with
      | .idle => [c.nextScan]
      | .waiting deadline => [deadline]
      | _ => []
    | none => []
  let watchers := d.watchers.values.filterMap fun w =>
    match w.point with
    | .draining deadline => some deadline
    | _ => none
  let monitors := d.monitors.values.filterMap fun m =>
    match m.point with
    | .waiting deadline => some deadline
    | _ => none
  let aggregators := d.aggregators.values.filterMap fun a =>
    match a.point with
    | .draining deadline => some deadline
    | _ => none
  store ++ coordinator ++ watchers ++ monitors ++ aggregators

/-- The next time after those served, up to a limit, for which an actor waits. -/
def nextTimer? (d : Daemon) (limit : Nat) : Option Nat :=
  (d.timers.filter fun t => d.served < t && t ≤ limit).min?

/-- Serve the timers up to a limit one after the other; each is later than the one
before, so that the distance to the limit is fuel enough. -/
def serveTimers (limit : Nat) : Nat → Daemon → Daemon
  | 0, d => (d.serveTo limit).settle
  | n + 1, d =>
    match d.nextTimer? limit with
    | some time => serveTimers limit n (d.serveTo time).settle
    | none => (d.serveTo limit).settle

/-- Let time pass. The clock shows the end of it at once; the timers in it are served
in their order. -/
def advance (d : Daemon) (ms : Nat) : Daemon :=
  let d := (d.moveClock ms).settle
  serveTimers d.clock (d.clock - d.served) d

end Daemon

end ClusterNode
