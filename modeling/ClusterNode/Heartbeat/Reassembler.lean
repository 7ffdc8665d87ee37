import ClusterNode.Heartbeat.Fragment
import ClusterNode.SortedMap

/-!
# Reassembly

Fragments come in any order, more than once or not at all. A message is given out
when its last missing fragment comes in, and its id is remembered for a while so
that it is not given out again. Incomplete messages are bounded in number: a new
one pushes out the one that was silent longest.
-/

namespace ClusterNode

/-- The chunks of an incomplete message. -/
structure Partial where
  total : UInt64
  /-- A slot for each place, in order; it is empty as long as the chunk is missing. -/
  slots : List (Option Bytes)
  /-- How many slots were filled. -/
  received : Nat
  lastSeen : Nat
  deriving DecidableEq

namespace Partial

/-- A message of which no chunk came in yet. -/
def begin (total : UInt64) (now : Nat) : Partial :=
  ⟨total, List.replicate total.toNat none, 0, now⟩

/-- Put a chunk into a slot. -/
def add (p : Partial) (slot : Nat) (chunk : Bytes) (now : Nat) : Partial :=
  { p with
    slots := p.slots.set slot (some chunk)
    received := p.received + 1
    lastSeen := now }

/-- The chunks that came in, one after the other. -/
def content (p : Partial) : Bytes := (p.slots.filterMap id).flatten

end Partial

/-- The incomplete messages of a receiver; times are in milliseconds. -/
structure Reassembler where
  partials : SortedMap String Partial
  /-- When messages were given out, by their ids. -/
  completed : SortedMap String Nat
  idle : Nat
  maxFragments : Nat
  maxPending : Nat
  deriving DecidableEq

namespace Reassembler

/-- The number of incomplete messages kept at once. -/
def standardPending : Nat := 256

/-- A reassembler that knows of no message. -/
def new (idle maxFragments maxPending : Nat) : Reassembler :=
  ⟨∅, ∅, idle, maxFragments, max maxPending 1⟩

/-- The number of incomplete messages. -/
def pending (r : Reassembler) : Nat := r.partials.size

/-- The one of two messages that was silent longer, with the time it was last seen; the
first of them if neither was. -/
def staler : Option (String × Nat) → String × Partial → Option (String × Nat)
  | some best, e => if e.2.lastSeen < best.2 then some (e.1, e.2.lastSeen) else some best
  | none, e => some (e.1, e.2.lastSeen)

/-- The incomplete message that was silent longest. -/
def stalest? (r : Reassembler) : Option String :=
  (r.partials.entries.foldl staler none).map (·.1)

/-- Drop the message that was silent longest, some times. -/
def evict (r : Reassembler) : Nat → Reassembler
  | 0 => r
  | n + 1 =>
    match r.stalest? with
    | some id => evict { r with partials := r.partials.erase id } n
    | none => r

/-- Make room for one more incomplete message. -/
def makeRoom (r : Reassembler) : Reassembler := r.evict (r.pending + 1 - r.maxPending)

/-- Whether a fragment is in order and not of too many. -/
def admits (r : Reassembler) (f : Fragment) : Bool :=
  f.isPlaced && f.total.toNat ≤ r.maxFragments

/-- Add a fragment to its incomplete message; a slot that is filled stays as it is. -/
def fill (r : Reassembler) (f : Fragment) (p : Partial) (now : Nat) :
    Reassembler × Option Bytes :=
  match p.slots[f.slot]? with
  | some none =>
    let p := p.add f.slot f.chunk now
    if p.received < p.total.toNat then
      ({ r with partials := r.partials.insert f.messageId p }, none)
    else
      ({ r with
        partials := r.partials.erase f.messageId
        completed := r.completed.insert f.messageId now }, some p.content)
  | _ => ({ r with partials := r.partials.insert f.messageId { p with lastSeen := now } }, none)

/-- Take a fragment at a time; the message is given out if it is complete. -/
def push (r : Reassembler) (f : Fragment) (now : Nat) : Reassembler × Option Bytes :=
  if !r.admits f || r.completed.contains f.messageId then (r, none)
  else if f.total = 1 then
    ({ r with completed := r.completed.insert f.messageId now }, some f.chunk)
  else
    match r.partials.get? f.messageId with
    | some p => if p.total = f.total then r.fill f p now else (r, none)
    | none => r.makeRoom.fill f (.begin f.total now) now

/-- Forget what was silent for the idle time; the number of incomplete messages
forgotten is told. -/
def purge (r : Reassembler) (now : Nat) : Reassembler × Nat :=
  let partials := r.partials.filter fun _ p => now - p.lastSeen < r.idle
  ({ r with partials, completed := r.completed.filter fun _ seen => now - seen < r.idle },
    r.partials.size - partials.size)

end Reassembler

end ClusterNode
