import ClusterNode.Codec.Base64
import ClusterNode.Json.Reader
import ClusterNode.Json.Wire
import ClusterNode.Json.Writer

/-!
# Fragments

A sealed message is cut into chunks, each of which is one datagram: a JSON record
of the message's id, the place of the chunk counted from one, the number of chunks
and the chunk itself. `fragment` is the authority on how a message is cut.
-/

namespace ClusterNode

/-- Bytes as a base64 text. -/
structure EncodedBytes where
  bytes : Bytes
  deriving DecidableEq

instance : Wire EncodedBytes where
  toJson b := .str (Base64.encode b.bytes)
  ofJson? _
    | .str s => (Base64.decode s).map EncodedBytes.mk
    | _ => none

/-- One chunk of a message. -/
structure Fragment where
  messageId : String
  /-- The place of the chunk, counted from one. -/
  index : UInt64
  total : UInt64
  chunk : Bytes
  deriving DecidableEq

/-- Why a message is not cut, or a datagram is no fragment. -/
inductive FragmentError where
  | datagramTooSmall (size : Nat)
  | tooManyFragments (needed limit : Nat)
  | invalidFragment (index total : UInt64)
  | notJson
  deriving DecidableEq, Repr

/-- The wording of a fragment error; that of a bad record is not told. -/
def FragmentError.message? : FragmentError → Option String
  | .datagramTooSmall size => some s!"max datagram size {size} too small"
  | .tooManyFragments needed limit =>
    some s!"payload needs {needed} fragments, limit is {limit}"
  | .invalidFragment index total => some s!"invalid fragment {index.toNat}/{total.toNat}"
  | .notJson => none

namespace Fragment

instance : Wire Fragment where
  toJson f := Json.members [
    Json.member "msg_id" f.messageId, Json.member "index" f.index, Json.member "total" f.total,
    Json.member "chunk" (EncodedBytes.mk f.chunk)]
  ofJson? r v := do
    let [messageId, index, total, chunk] ←
      v.record? ["msg_id", "index", "total", "chunk"] | none
    let chunk : EncodedBytes ← Json.required r chunk
    some {
      messageId := ← Json.required r messageId
      index := ← Json.required r index
      total := ← Json.required r total
      chunk := chunk.bytes }

/-- Whether the place of a chunk is one of its message. -/
def isPlaced (f : Fragment) : Bool := f.total != 0 && f.index != 0 && f.index ≤ f.total

/-- The place of a chunk, counted from zero. -/
def slot (f : Fragment) : Nat := f.index.toNat - 1

/-- The datagram of a fragment. -/
def encode (f : Fragment) : Bytes := Json.renderUtf8 (toJson f)

/-- The fragment of a datagram. -/
def decode (datagram : Bytes) : Except FragmentError Fragment :=
  match (Json.parseUtf8 datagram).bind (ofJson? .direct) with
  | none => .error .notJson
  | some f => if Fragment.isPlaced f then .ok f else .error (.invalidFragment f.index f.total)

end Fragment

/-- The part of a datagram that is kept for the record around the chunk. -/
def headerAllowance : Nat := 128

/-- The size of the chunks that fit into datagrams of a size: four characters stand
for three bytes. -/
def chunkSize (datagramSize : Nat) : Except FragmentError Nat :=
  let size := (datagramSize - headerAllowance) / 4 * 3
  if size = 0 then .error (.datagramTooSmall datagramSize) else .ok size

/-- Number chunks from a place on. -/
def numberChunks (messageId : String) (total : Nat) (place : Nat) : List Bytes → List Fragment
  | [] => []
  | chunk :: rest =>
    ⟨messageId, .ofNat place, .ofNat total, chunk⟩ ::
      numberChunks messageId total (place + 1) rest

/-- Cut a message into fragments; an empty one makes one fragment. -/
def fragment (messageId : String) (payload : Bytes) (datagramSize limit : Nat) :
    Except FragmentError (List Fragment) := do
  let size ← chunkSize datagramSize
  let total := max ((payload.length + size - 1) / size) 1
  if limit < total then .error (.tooManyFragments total limit)
  else if payload.isEmpty then .ok (numberChunks messageId 1 1 [[]])
  else .ok (numberChunks messageId total 1 (payload.chunks size))

end ClusterNode
