import ClusterNode.Cluster.Filter
import ClusterNode.Cluster.StreamKey
import ClusterNode.Replication.Difference
import ClusterNode.Replication.Message

/-!
# The replica of a node

A `Replica` is what one node holds of the cluster tree, and the books it keeps to
hold it: which generation of every peer it has applied, which peers it wants
everything from, which of its own generations its peers have applied, and the own
changes that some peer may lack.

The changes of a peer are applied in generation order without holes. Whatever
does not follow makes the peer wanted in full (`Replica.resync`), and until that
arrives nothing else of it is applied.
-/

namespace ClusterNode

/-- The generation of a node that has changed nothing yet. -/
def initialGeneration : Generation := 1

/-- Why changes of a node are refused. -/
inductive RemoteError where
  /-- The generation does not follow the one applied last. -/
  | generationGap (node : String) (expected received : Generation)
  /-- Nothing of the node is applied, or all of it is wanted anew. -/
  | notSynced (node : String)
  deriving DecidableEq, Repr

/-- The wording of a refusal. -/
def RemoteError.message : RemoteError → String
  | .generationGap node expected received =>
    s!"generation gap from {node}: expected {expected.toNat}, received {received.toNat}"
  | .notSynced node => s!"not synced with {node}"

/-- The cluster tree as one node holds it, with the books of replication. -/
structure Replica where
  localhost : String
  status : ClusterStatus
  /-- The last generation applied of each node. -/
  applied : GenerationTable
  /-- The nodes that everything is wanted of. -/
  resync : SortedMap String Unit
  /-- The generations that each peer last said to have applied. -/
  remoteGens : SortedMap String GenerationTable
  /-- When each peer was last heard. -/
  heard : SortedMap String Nat
  /-- How long a silent peer still holds the own changes back. -/
  peerTimeout : Nat
  /-- The own changes that some peer may lack, by generation. -/
  patchQueue : SortedMap Generation (List Mutation)
  maxPatchQueue : Nat
  streams : SortedMap StreamKey HeartbeatStream
  modes : SortedMap String PeerMode
  /-- The wishes for everything that are not announced yet. -/
  pending : List Publication
  deriving DecidableEq

namespace Replica

/-- The own generation. -/
def generation (r : Replica) : Generation :=
  ((r.status.nodes.get? r.localhost).map (·.generation)).getD initialGeneration

/-- The generations that the node says to have applied: zero of a node that it
wants everything of. -/
def advertisedGens (r : Replica) : GenerationTable :=
  let own := (∅ : GenerationTable).insert r.localhost r.generation
  let all := r.applied.entries.foldl
    (fun t e => t.insert e.1 (if r.resync.contains e.1 then 0 else e.2)) own
  r.resync.keys.foldl (fun t node => t.insert node 0) all

/-- Write the advertised generations into the tree. -/
def refreshGens (r : Replica) : Replica :=
  { r with status.daemon.gens := r.advertisedGens }

/-- The replica of a node that has just started. -/
def new (localhost : String) (cluster : ClusterConfig) (maxPatchQueue peerTimeout : Nat) :
    Replica :=
  refreshGens {
    localhost
    status := {
      cluster := ⟨cluster⟩
      daemon := { (default : DaemonSection) with nodename := localhost }
      nodes := (∅ : SortedMap String NodeData).insert localhost ⟨initialGeneration, ∅⟩
      objects := ∅ }
    applied := ∅
    resync := ∅
    remoteGens := ∅
    heard := ∅
    peerTimeout
    patchQueue := ∅
    maxPatchQueue := max maxPatchQueue 1
    streams := ∅
    modes := ∅
    pending := [] }

/-! ## Reading -/

/-- The members of the cluster, none if they are not known. -/
def members (r : Replica) : List String := r.status.cluster.config.nodes

/-- The last generation applied of a node, if the node is in step with it. -/
def lastApplied? (r : Replica) (node : String) : Option Generation :=
  if node = r.localhost then some r.generation
  else if r.resync.contains node then none
  else r.applied.get? node

/-- The tree, as far as a selector and a namespace keep it. -/
def snapshot (r : Replica) (selector space : String) : ClusterStatus :=
  (r.status.withSelector selector).withNamespace space

/-- The records of an object on a node. -/
def instance? (r : Replica) (p : ObjectPath) (node : String) : Option Instance :=
  r.status.instance? node p.toString

/-- The nodes that hold a configuration of an object. -/
def configNodes (r : Replica) (p : ObjectPath) : List String :=
  (r.status.nodes.entries.filter fun e =>
    ((e.2.instances.get? p.toString).bind (·.config)).isSome).map (·.1)

/-! ## Own changes -/

/-- Drop the oldest changes beyond the limit. -/
def trimQueue (limit : Nat) (q : SortedMap Generation (List Mutation)) :
    SortedMap Generation (List Mutation) :=
  ⟨q.entries.drop (q.size - limit), q.sorted.sublist (List.drop_sublist _ _)⟩

/-- Make an own mutation. A change gets the next generation and is kept for the
peers; a mutation that changes no record gets none. -/
def applyLocal (r : Replica) (m : Mutation) : Replica × List Publication :=
  let (status, events) := r.status.mutate r.localhost m
  let r := { r with status }
  if events.isEmpty then (r, [])
  else
    let data := r.status.nodeD r.localhost
    let generation := data.generation + 1
    let r := { r with
      status.nodes := r.status.nodes.insert r.localhost { data with generation }
      patchQueue := trimQueue r.maxPatchQueue (r.patchQueue.insert generation [m]) }
    (r.refreshGens, events)

/-- Keep the aggregate of an object. -/
def setAggregate (r : Replica) (p : ObjectPath) (value : ObjectStatus) (source : Option String) :
    Replica × List Publication :=
  ({ r with status.objects := r.status.objects.insert p.toString value },
    [.ofPath (.aggregateUpdated p value source) p])

/-- Drop the aggregate of an object. -/
def delAggregate (r : Replica) (p : ObjectPath) : Replica × List Publication :=
  if r.status.objects.contains p.toString then
    ({ r with status.objects := r.status.objects.erase p.toString },
      [.ofPath (.aggregateDeleted p) p])
  else (r, [])

/-! ## Changes of peers -/

/-- Want everything of a node. It is announced once, until it arrives. -/
def requestFull (r : Replica) (node : String) (lastApplied received : Generation) : Replica :=
  if r.resync.contains node then r
  else
    let r := refreshGens { r with resync := r.resync.insert node () }
    { r with pending := r.pending ++ [.ofNode (.resyncRequested node lastApplied received) node] }

/-- Make the mutations of one generation of a node. An older generation is a
repetition; one that does not follow makes the node wanted in full. -/
def applyRemote (r : Replica) (node : String) (generation : Generation) (ms : List Mutation) :
    Replica × Except RemoteError (List Publication) :=
  match r.lastApplied? node with
  | none => (r.requestFull node 0 generation, .error (.notSynced node))
  | some last =>
    if generation ≤ last then (r, .ok [])
    else if generation ≠ last + 1 then
      (r.requestFull node last generation, .error (.generationGap node (last + 1) generation))
    else
      let (status, events) := r.status.mutateAll node ms
      let data := { status.nodeD node with generation }
      let r := { r with
        status := { status with nodes := status.nodes.insert node data }
        applied := r.applied.insert node generation }
      (r.refreshGens, .ok events)

/-- Replace all that a node says. -/
def applyFull (r : Replica) (node : String) (generation : Generation) (data : NodeData) :
    Replica × List Publication :=
  let data := { data.publishedBy node with generation }
  let events := NodeData.difference node (r.status.nodeD node) data
  let r := { r with
    status.nodes := r.status.nodes.insert node data
    applied := r.applied.insert node generation
    resync := r.resync.erase node }
  (r.refreshGens, events)

/-- Make changes of a node in order, up to the first that is refused. -/
def applyDeltas (r : Replica) (node : String) : List Delta → Replica × List Publication
  | [] => (r, [])
  | d :: ds =>
    match r.applyRemote node d.generation d.mutations with
    | (r, .error _) => (r, [])
    | (r, .ok events) =>
      let (r, more) := r.applyDeltas node ds
      (r, events ++ more)

/-- Take what a message of a peer brings. -/
def applyBody (r : Replica) (node : String) (generation : Generation) :
    Message.Body → Replica × List Publication
  | .full data => r.applyFull node generation data
  | .patch deltas =>
    match r.lastApplied? node with
    | none => (r.requestFull node 0 generation, [])
    | some last =>
      if generation < last then (r.requestFull node last generation, [])
      else
        let (r, events) := r.applyDeltas node deltas
        match r.lastApplied? node with
        | some last =>
          if last < generation then (r.requestFull node last generation, events) else (r, events)
        | none => (r, events)
  | .ping =>
    match r.lastApplied? node with
    | none => (r.requestFull node 0 generation, [])
    | some last =>
      if last ≠ generation then (r.requestFull node last generation, []) else (r, [])

/-- Hand out the announcements that wait. -/
def takePending (r : Replica) : Replica × List Publication :=
  ({ r with pending := [] }, r.pending)

/-- Whether messages of a node are taken: another node, and a member if the
members are known. -/
def listensTo (r : Replica) (node : String) : Bool :=
  node != r.localhost && (r.members.isEmpty || r.members.contains node)

/-- Take a message at a time. -/
def applyMessage (r : Replica) (m : Message) (now : Nat) : Replica × List Publication :=
  if r.listensTo m.nodename then
    let r := { r with
      remoteGens := r.remoteGens.insert m.nodename m.gens
      heard := r.heard.insert m.nodename now }
    let (r, events) := r.applyBody m.nodename m.generation m.body
    let (r, announced) := r.takePending
    (r, events ++ announced)
  else (r, [])

/-! ## Messages to peers -/

/-- The peers: the other members, or those heard if the members are not known. -/
def peers (r : Replica) : List String :=
  if r.members.isEmpty then r.remoteGens.keys else r.members.filter (· != r.localhost)

/-- Forget what the peers that are silent too long have applied. -/
def expireSilent (r : Replica) (now : Nat) : Replica :=
  let silent := (r.heard.entries.filter fun e => r.peerTimeout < now - e.2).map (·.1)
  { r with
    heard := silent.foldl (fun m node => m.erase node) r.heard
    remoteGens := silent.foldl (fun m node => m.erase node) r.remoteGens }

/-- The own generation that each heard peer has applied, zero if none. -/
def acks (r : Replica) : List Generation :=
  r.peers.filterMap fun peer =>
    (r.remoteGens.get? peer).map fun gens => (gens.get? r.localhost).getD 0

/-- Whether a peer that applied a generation cannot be brought up by changes. -/
def lags (r : Replica) (acked : Generation) : Bool :=
  acked == 0 || (acked < r.generation && !r.patchQueue.contains (acked + 1))

/-- The next message, at a time. Changes that every heard peer has applied are
dropped. Everything is sent if some peer needs it; else the changes that the
slowest peer lacks; else nothing but the generations. -/
def buildMessage (r : Replica) (now : Nat) : Replica × Message :=
  let r := r.expireSilent now
  let acks := r.acks
  let lagging := acks.any r.lags
  let slowest := acks.min?
  let r := match slowest with
    | some least => { r with patchQueue := r.patchQueue.filter fun g _ => least < g }
    | none => r
  let body : Message.Body :=
    if lagging then .full (r.status.nodeD r.localhost)
    else
      match slowest with
      | some least =>
        if least < r.generation then
          .patch ((r.patchQueue.entries.filter fun e => least + 1 ≤ e.1).map fun e => ⟨e.1, e.2⟩)
        else .ping
      | none => .ping
  (r, ⟨r.localhost, r.generation, r.advertisedGens, body⟩)

/-! ## Heartbeat books -/

/-- Whether a node is listed in the heartbeat section. -/
def isListed (r : Replica) (node : String) : Bool :=
  r.members.isEmpty || r.members.contains node

/-- Write the heartbeat section; modes of nodes that are not listed are dropped. -/
def refreshHeartbeat (r : Replica) : Replica :=
  let modes := r.modes.filter fun node _ => r.isListed node
  { r with
    modes
    status.daemon.heartbeat := {
      streams := r.streams.values.filter fun s => r.isListed s.node
      modes := modes.entries.map fun e => ⟨e.1, e.2⟩ } }

/-- Note the state of a stream; an alive one succeeded at this time. -/
def setStream (r : Replica) (node id : String) (state : PeerState) (now : Timestamp) : Replica :=
  let key : StreamKey := ⟨node, id⟩
  let last := (r.streams.get? key).bind (·.lastSuccess)
  let lastSuccess := if state = .alive then some now else last
  refreshHeartbeat { r with streams := r.streams.insert key ⟨id, node, state, lastSuccess⟩ }

/-- Note the mode of a node. A peer that falls back to full mode is forgotten:
both sides exchange everything when it is back. -/
def setMode (r : Replica) (node : String) (mode : PeerMode) : Replica :=
  let r := { r with modes := r.modes.insert node mode }
  let r := if mode = .full ∧ node ≠ r.localhost then
      { r with
        remoteGens := r.remoteGens.erase node
        heard := r.heard.erase node
        resync := if r.applied.contains node then r.resync.insert node () else r.resync }
    else r
  r.refreshHeartbeat.refreshGens

end Replica

end ClusterNode
