import ClusterNode.Replication.Replica

/-!
# Groups of nodes

Nodes that replicate each other: their replicas, one clock, and every message that
was ever made. A message is never taken away, so that it can arrive late, more than
once, out of order or never. `Group.Step` is authoritative about what can happen in a
group; the functions beside it are the single steps.
-/

namespace ClusterNode

/-- The replicas of nodes by their names, and the messages between them. -/
structure Group where
  replicas : SortedMap String Replica
  /-- The messages that were made, newest first. -/
  sent : List Message
  /-- The time in milliseconds. -/
  clock : Nat
  deriving DecidableEq

namespace Group

/-- A group in which nothing was sent. -/
def new (replicas : SortedMap String Replica) : Group := ⟨replicas, [], 0⟩

/-- The replica of a node. -/
def get? (g : Group) (node : String) : Option Replica := g.replicas.get? node

/-- Keep the replica of a node. -/
def put (g : Group) (node : String) (r : Replica) : Group :=
  { g with replicas := g.replicas.insert node r }

/-- Time passes. -/
def pass (g : Group) (ms : Nat) : Group := { g with clock := g.clock + ms }

/-- A node makes its next message. -/
def send (g : Group) (node : String) (r : Replica) : Group × Message :=
  let (r, m) := r.buildMessage g.clock
  ({ g.put node r with sent := m :: g.sent }, m)

/-- A message arrives at a node. -/
def deliver (g : Group) (node : String) (r : Replica) (m : Message) :
    Group × List Publication :=
  let (r, events) := r.applyMessage m g.clock
  (g.put node r, events)

/-- What can happen in a group whose nodes are never started anew. -/
inductive Step (g : Group) : Group → Prop where
  | applyLocal {node : String} {r : Replica} (m : Mutation) :
      g.get? node = some r → Step g (g.put node (r.applyLocal m).1)
  | setMode {node : String} {r : Replica} (peer : String) (mode : PeerMode) :
      g.get? node = some r → Step g (g.put node (r.setMode peer mode))
  | send {node : String} {r : Replica} : g.get? node = some r → Step g (g.send node r).1
  | deliver {node : String} {r : Replica} {m : Message} :
      g.get? node = some r → m ∈ g.sent → Step g (g.deliver node r m).1
  | pass (ms : Nat) : Step g (g.pass ms)

/-- Any number of things that happen one after the other. -/
inductive Steps : Group → Group → Prop where
  | refl {g : Group} : Steps g g
  | step {g h k : Group} : Steps g h → Step h k → Steps g k

end Group

end ClusterNode
