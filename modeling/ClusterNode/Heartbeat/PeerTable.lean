import ClusterNode.Cluster.StreamKey
import ClusterNode.Event

/-!
# The liveness of peers

A stream of a peer is unknown until an exchange succeeds on it, alive until it was
silent for the timeout, and then stale until an exchange succeeds again. A peer is
in patch mode while some stream that receives from it is alive; that a transmitting
stream is alive says only that datagrams left.
-/

namespace ClusterNode

/-- The half of a driver that a stream belongs to. -/
inductive Direction where
  | transmit
  | receive
  deriving DecidableEq, Repr

/-- What is known of one stream; its deadline is in milliseconds. -/
structure StreamWatch where
  direction : Direction
  state : PeerState
  deadline : Option Nat
  deriving DecidableEq

/-- The streams and the modes of the peers of a node. -/
structure PeerTable where
  localhost : String
  timeout : Nat
  streams : SortedMap StreamKey StreamWatch
  modes : SortedMap String PeerMode
  deriving DecidableEq

namespace PeerTable

/-- A table without streams. -/
def new (localhost : String) (timeout : Nat) : PeerTable := ⟨localhost, timeout, ∅, ∅⟩

/-- The mode of each peer, as its streams say. -/
def currentModes (t : PeerTable) : SortedMap String PeerMode :=
  t.streams.entries.foldl
    (fun modes (key, w) =>
      let mode :=
        if w.direction = .receive ∧ w.state = .alive then .patch
        else (modes.get? key.node).getD .full
      modes.insert key.node mode) ∅

/-- The peers in patch mode. -/
def joined (modes : SortedMap String PeerMode) : List String :=
  (modes.entries.filter (·.2 == .patch)).map (·.1)

/-- The event of one peer whose mode changed. -/
def modeEvent (before after : SortedMap String PeerMode) (node : String) :
    Option Publication :=
  let old := (before.get? node).getD .full
  let new := (after.get? node).getD .full
  if old = new then none
  else some (.ofNode (.modeUpdated node old new (joined after)) node)

/-- Note the modes that the streams now say, and tell of the changes by peer. -/
def refresh (t : PeerTable) : PeerTable × List Publication :=
  let after := t.currentModes
  let nodes := after.keys.foldl (fun m node => m.insert node ()) (t.modes.mapValues fun _ => ())
  ({ t with modes := after }, nodes.keys.filterMap (modeEvent t.modes after))

/-- The event of a stream that changed its state. -/
def streamEvent (key : StreamKey) (before after : PeerState) : Publication :=
  .ofNode (.streamUpdated key.node key.id before after) key.node

/-- The watch of a stream, a new one if it has none. -/
def watch (t : PeerTable) (key : StreamKey) (direction : Direction) : StreamWatch :=
  (t.streams.get? key).getD ⟨direction, .unknown, none⟩

/-- Watch a stream from now on. -/
def register (t : PeerTable) (key : StreamKey) (direction : Direction) :
    PeerTable × List Publication :=
  if key.node = t.localhost then (t, [])
  else refresh { t with streams := t.streams.insert key (t.watch key direction) }

/-- Forget the streams of a half of a driver. -/
def unregister (t : PeerTable) (id : String) : PeerTable × List Publication :=
  refresh { t with streams := t.streams.filter fun key _ => key.id != id }

/-- An exchange succeeded on a stream. -/
def success (t : PeerTable) (key : StreamKey) (direction : Direction) (now : Nat) :
    PeerTable × List Publication :=
  if key.node = t.localhost then (t, [])
  else
    let w := t.watch key direction
    let heard : StreamWatch := ⟨w.direction, .alive, some (now + t.timeout)⟩
    let t := { t with streams := t.streams.insert key heard }
    if w.state = .alive then (t, [])
    else
      let (t, events) := t.refresh
      (t, streamEvent key w.state .alive :: events)

/-- Whether an alive stream was silent for the timeout. -/
def isOverdue (now : Nat) (w : StreamWatch) : Bool :=
  w.state == .alive && w.deadline.any (· ≤ now)

/-- A stream after the check of its deadline. -/
def expire (now : Nat) (w : StreamWatch) : StreamWatch :=
  if isOverdue now w then { w with state := .stale } else w

/-- Mark the streams that were silent for the timeout. -/
def check (t : PeerTable) (now : Nat) : PeerTable × List Publication :=
  let overdue := t.streams.filter fun _ w => isOverdue now w
  if overdue.isEmpty then (t, [])
  else
    let t := { t with streams := t.streams.mapValues (expire now) }
    let (t, events) := t.refresh
    (t, overdue.keys.map (streamEvent · .alive .stale) ++ events)

end PeerTable

/-- What the drivers tell the controller of the peers. -/
inductive PeerCommand where
  | register (key : StreamKey) (direction : Direction)
  | unregister (id : String)
  | success (key : StreamKey) (direction : Direction)
  deriving DecidableEq, Repr

/-- Make a command at a time. -/
def PeerTable.obey (t : PeerTable) (now : Nat) : PeerCommand → PeerTable × List Publication
  | .register key direction => t.register key direction
  | .unregister id => t.unregister id
  | .success key direction => t.success key direction now

/-- The controller of the peers: the table while it runs. -/
structure PeerController where
  table : PeerTable
  running : Bool
  deriving DecidableEq

namespace PeerController

/-- What a controller reacts to. -/
inductive Input where
  | command (c : PeerCommand)
  /-- The time of a check has come. -/
  | tick
  /-- It is told to end, or nobody is left to command it. -/
  | finish

/-- A controller with a table without streams. -/
def new (localhost : String) (timeout : Nat) : PeerController := ⟨.new localhost timeout, true⟩

/-- React at a time; one that ended does nothing. -/
def react (c : PeerController) (now : Nat) (i : Input) : PeerController × List Publication :=
  if c.running then
    match i with
    | .command cmd =>
      let (table, events) := c.table.obey now cmd
      ({ c with table }, events)
    | .tick =>
      let (table, events) := c.table.check now
      ({ c with table }, events)
    | .finish => ({ c with running := false }, [])
  else (c, [])

end PeerController

end ClusterNode
