import ClusterNode.Heartbeat.Envelope
import ClusterNode.Heartbeat.PeerTable
import ClusterNode.Heartbeat.Reassembler
import ClusterNode.Replication.Replica

/-!
# The heartbeat manager

A driver has two halves. The transmitter seals a message, cuts it and sends every
datagram to every destination; it tells of success for all other nodes if nothing
failed. The receiver puts datagrams together, opens them and hands on what other
nodes say. A payload becomes a message for the store only if it claims to be from
the node that sealed it.

Nothing is sent twice: a lost message shows as the silence of a peer.
-/

namespace ClusterNode

/-- What the halves of all drivers share. -/
structure DriverContext where
  localhost : String
  envelope : Envelope
  maxDatagramSize : Nat
  maxFragments : Nat

/-- The half of a driver that sends. -/
structure Transmitter where
  id : String
  destinations : List String
  /-- The nodes that success is told for. -/
  nodes : List String

/-- The half of a driver that receives. -/
structure Receiver where
  id : String
  reassembler : Reassembler

/-- A payload and the node that sealed it. -/
structure Inbound where
  node : String
  payload : Bytes
  deriving DecidableEq

namespace Transmitter

/-- The transmitter of a driver. -/
def new (driver localhost : String) (destinations nodes : List String) : Transmitter :=
  ⟨driver ++ ".tx", destinations, nodes.filter (· != localhost)⟩

/-- What a transmitter tells at its start. -/
def start (t : Transmitter) : List PeerCommand :=
  t.nodes.map fun node => .register ⟨node, t.id⟩ .transmit

/-- The datagrams of a payload; none if it cannot be sealed or needs too many. -/
def datagrams (c : DriverContext) (messageId : String) (nonce payload : Bytes) :
    Option (List Bytes) := do
  let message ← c.envelope.sealPayload nonce payload
  let fragments ← (fragment messageId message c.maxDatagramSize c.maxFragments).toOption
  some (fragments.map Fragment.encode)

/-- Send a payload over a link that carries datagrams to some destinations: what
was carried, and what is told of it. -/
def send (t : Transmitter) (c : DriverContext) (carries : String → Bool)
    (messageId : String) (nonce payload : Bytes) :
    List (String × Bytes) × List PeerCommand :=
  match datagrams c messageId nonce payload with
  | none => ([], [])
  | some ds =>
    let sent := ds.flatMap fun d => (t.destinations.filter carries).map (·, d)
    if t.destinations.all carries then
      (sent, t.nodes.map fun node => .success ⟨node, t.id⟩ .transmit)
    else (sent, [])

end Transmitter

namespace Receiver

/-- The receiver of a driver. -/
def new (driver : String) (idle maxFragments : Nat) : Receiver :=
  ⟨driver ++ ".rx", .new idle maxFragments Reassembler.standardPending⟩

/-- Take a datagram at a time. -/
def take (r : Receiver) (c : DriverContext) (datagram : Bytes) (now : Nat) :
    Receiver × Option Inbound × List PeerCommand :=
  match Fragment.decode datagram with
  | .error _ => (r, none, [])
  | .ok f =>
    let (reassembler, message) := r.reassembler.push f now
    let r := { r with reassembler }
    match message.map c.envelope.open? with
    | some (.ok (node, payload)) =>
      if node = c.localhost then (r, none, [])
      else (r, some ⟨node, payload⟩, [.success ⟨node, r.id⟩ .receive])
    | _ => (r, none, [])

end Receiver

/-- The message of a payload, if it is from the node that sealed it. -/
def Inbound.message? (i : Inbound) : Option Message := do
  let m : Message ← (Json.parseUtf8 i.payload).bind (ofJson? .direct)
  if m.nodename = i.node then some m else none

/-- Hand an inbound payload to the store at a time; nothing is handed on but a message of the node
that sealed it. -/
def Inbound.deliver (i : Inbound) (r : Replica) (now : Nat) : Replica × List Publication :=
  match i.message? with
  | some m => r.applyMessage m now
  | none => (r, [])

/-- The drivers of a node. -/
structure HeartbeatManager where
  context : DriverContext
  transmitters : List Transmitter
  /-- The receivers that could be started. -/
  receivers : List Receiver
  running : Bool

namespace HeartbeatManager

/-- What the drivers tell at their start. -/
def start (m : HeartbeatManager) : List PeerCommand := m.transmitters.flatMap Transmitter.start

/-- Send a payload on every driver. -/
def send (m : HeartbeatManager) (carries : String → Bool) (messageId : String)
    (nonce payload : Bytes) : List (List (String × Bytes)) × List PeerCommand :=
  if m.running then
    let sent := m.transmitters.map fun t => t.send m.context carries messageId nonce payload
    (sent.map (·.1), sent.flatMap (·.2))
  else (m.transmitters.map fun _ => [], [])

/-- End every driver. -/
def stop (m : HeartbeatManager) : HeartbeatManager × List PeerCommand :=
  if m.running then
    ({ m with running := false },
      m.transmitters.map (fun t => .unregister t.id) ++
        m.receivers.map fun r => .unregister r.id)
  else (m, [])

end HeartbeatManager

end ClusterNode
