import ClusterNode.Crypto.Gcm
import ClusterNode.Crypto.Sha256
import ClusterNode.Heartbeat.Fragment
import ClusterNode.Number.Digits

/-!
# Envelopes

A message travels enciphered under a key made of the secret of the cluster. The
names of the cluster and of the sender stand beside the enciphered part, where a
receiver can tell early that a message is not for it, and again inside, where they
cannot be forged. `Envelope.open` gives a name only if both agree.

Everything but the cipher itself is independent of which cipher is used.
-/

namespace ClusterNode

/-- A cipher that authenticates: what was changed is not deciphered. -/
structure Cipher where
  nonceLength : Nat
  /-- The length of the longest message that is enciphered. -/
  longest : Nat
  encrypt : (key nonce message : Bytes) → Bytes
  decrypt : (key nonce enciphered : Bytes) → Option Bytes

/-- The cipher of heartbeats. -/
def Cipher.gcm : Cipher := ⟨12, twoTo 36, Gcm.encrypt, Gcm.decrypt⟩

/-- What a node needs to seal and open messages. -/
structure Envelope where
  cipher : Cipher
  key : Bytes
  cluster : String
  node : String

/-- Why a message is not opened. -/
inductive EnvelopeError where
  | decrypt
  | invalidNonce (length : Nat)
  | clusterMismatch (cluster : String)
  | nodeMismatch (header sealed : String)
  | notJson
  deriving DecidableEq, Repr

/-- The wording of an envelope error; that of a bad record is not told. -/
def EnvelopeError.message? : EnvelopeError → Option String
  | .decrypt => some "decryption failed"
  | .invalidNonce length => some s!"invalid nonce length {length}"
  | .clusterMismatch cluster => some ("cluster name mismatch: " ++ cluster)
  | .nodeMismatch header inside =>
    some ("node name mismatch: header " ++ header ++ ", sealed " ++ inside)
  | .notJson => none

/-- What travels. -/
structure SealedMessage where
  cluster : String
  node : String
  nonce : Bytes
  data : Bytes
  deriving DecidableEq

instance : Wire SealedMessage where
  toJson m := Json.members [
    Json.member "clustername" m.cluster, Json.member "nodename" m.node,
    Json.member "nonce" (EncodedBytes.mk m.nonce), Json.member "data" (EncodedBytes.mk m.data)]
  ofJson? r v := do
    let [cluster, node, nonce, data] ←
      v.record? ["clustername", "nodename", "nonce", "data"] | none
    let nonce : EncodedBytes ← Json.required r nonce
    let data : EncodedBytes ← Json.required r data
    some {
      cluster := ← Json.required r cluster
      node := ← Json.required r node
      nonce := nonce.bytes
      data := data.bytes }

/-- What is enciphered. -/
structure PlainMessage where
  cluster : String
  node : String
  payload : Bytes
  deriving DecidableEq

instance : Wire PlainMessage where
  toJson m := Json.members [
    Json.member "clustername" m.cluster, Json.member "nodename" m.node,
    Json.member "payload" (EncodedBytes.mk m.payload)]
  ofJson? r v := do
    let [cluster, node, payload] ← v.record? ["clustername", "nodename", "payload"] | none
    let payload : EncodedBytes ← Json.required r payload
    some {
      cluster := ← Json.required r cluster
      node := ← Json.required r node
      payload := payload.bytes }

namespace Envelope

/-- The envelope of a node, with a key made of the secret. -/
def new (cluster node secret : String) : Envelope :=
  ⟨.gcm, Sha256.digest (Bytes.ofText secret), cluster, node⟩

/-- A payload with the names of the sender. -/
def plainText (e : Envelope) (payload : Bytes) : Bytes :=
  Json.renderUtf8 (toJson (PlainMessage.mk e.cluster e.node payload))

/-- Encipher a payload with the names of the sender. -/
def sealMessage (e : Envelope) (nonce payload : Bytes) : SealedMessage :=
  { cluster := e.cluster
    node := e.node
    nonce
    data := e.cipher.encrypt e.key nonce (e.plainText payload) }

/-- The bytes of a sealed payload, none if it is too long for the cipher; the nonce is never
used again. -/
def sealPayload (e : Envelope) (nonce payload : Bytes) : Option Bytes :=
  if (e.plainText payload).length ≤ e.cipher.longest then
    some (Json.renderUtf8 (toJson (e.sealMessage nonce payload)))
  else none

/-- Decipher a sealed message and check the names in it. -/
def openMessage (e : Envelope) (m : SealedMessage) : Except EnvelopeError (String × Bytes) :=
  if m.cluster ≠ e.cluster then .error (.clusterMismatch m.cluster)
  else if m.nonce.length ≠ e.cipher.nonceLength then .error (.invalidNonce m.nonce.length)
  else
    match e.cipher.decrypt e.key m.nonce m.data with
    | none => .error .decrypt
    | some plain =>
      match (Json.parseUtf8 plain).bind (ofJson? (α := PlainMessage) .direct) with
      | none => .error .notJson
      | some inside =>
        if inside.cluster ≠ e.cluster then .error (.clusterMismatch inside.cluster)
        else if inside.node ≠ m.node then .error (.nodeMismatch m.node inside.node)
        else .ok (inside.node, inside.payload)

/-- The sender and the payload of sealed bytes. -/
def open? (e : Envelope) (bytes : Bytes) : Except EnvelopeError (String × Bytes) :=
  match (Json.parseUtf8 bytes).bind (ofJson? .direct) with
  | none => .error .notJson
  | some m => e.openMessage m

end Envelope

end ClusterNode
