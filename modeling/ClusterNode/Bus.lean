import ClusterNode.Event

/-!
# The event bus

Publishing copies an event into the queue of every matching subscriber and never
waits: a subscriber whose queue is full misses the event, and no other one does.
A subscriber matches one kind of event that carries every label of its filter.
-/

namespace ClusterNode

/-- A subscription and what it has not taken yet, oldest first. -/
structure Subscriber where
  id : Nat
  kind : EventKind
  filter : List Label
  queue : List Event
  /-- How many events it missed because its queue was full. -/
  dropped : Nat
  deriving DecidableEq

/-- Whether an event of a kind and with labels is for a subscriber. -/
def Subscriber.accepts (s : Subscriber) (kind : EventKind) (labels : List Label) : Bool :=
  s.kind == kind && s.filter.all labels.contains

/-- The subscribers of a node. -/
structure Bus where
  /-- How many events a subscriber can leave untaken. -/
  queueSize : Nat
  nextId : Nat
  subscribers : List Subscriber
  deriving DecidableEq

namespace Bus

/-- A bus without subscribers; every queue holds at least one event. -/
def new (queueSize : Nat) : Bus := ⟨max queueSize 1, 1, []⟩

/-- Register a subscriber; its id is never given again. -/
def subscribe (b : Bus) (kind : EventKind) (filter : List Label) : Nat × Bus :=
  (b.nextId, { b with
    nextId := b.nextId + 1
    subscribers := b.subscribers ++ [⟨b.nextId, kind, filter, [], 0⟩] })

/-- One subscriber after a publication. -/
def offer (size : Nat) (p : Publication) (s : Subscriber) : Subscriber :=
  if s.accepts p.event.kind p.labels then
    if s.queue.length < size then { s with queue := s.queue ++ [p.event] }
    else { s with dropped := s.dropped + 1 }
  else s

/-- Copy an event to every subscriber that accepts it and has room. -/
def publish (b : Bus) (p : Publication) : Bus :=
  { b with subscribers := b.subscribers.map (offer b.queueSize p) }

/-- Publish in order. -/
def publishAll (b : Bus) (ps : List Publication) : Bus := ps.foldl publish b

/-- The subscriber of an id, while it is registered. -/
def find? (b : Bus) (id : Nat) : Option Subscriber := b.subscribers.find? (·.id == id)

/-- The events that a subscriber has not taken. -/
def queue (b : Bus) (id : Nat) : List Event := ((b.find? id).map (·.queue)).getD []

/-- The oldest event that a subscriber has not taken. -/
def next? (b : Bus) (id : Nat) : Option Event := (b.queue id).head?

/-- Take the oldest event from the queue of a subscriber. -/
def take (b : Bus) (id : Nat) : Bus :=
  { b with subscribers := b.subscribers.map fun s =>
      if s.id == id then { s with queue := s.queue.tail } else s }

/-- End a subscription and forget what it has not taken. -/
def stop (b : Bus) (id : Nat) : Bus :=
  { b with subscribers := b.subscribers.filter (·.id != id) }

/-- The number of subscriptions. -/
def count (b : Bus) : Nat := b.subscribers.length

end Bus

end ClusterNode
