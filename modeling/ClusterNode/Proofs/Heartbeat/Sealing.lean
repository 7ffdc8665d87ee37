import ClusterNode.Heartbeat.Envelope
import ClusterNode.Proofs.Codec.Base64
import ClusterNode.Proofs.Crypto.Gcm
import ClusterNode.Proofs.Json.Record

/-!
# Envelopes open as they were sealed

What a node seals is opened by every node of its cluster that knows the secret, as the payload
of that sender. A name in the clear header that is not the one inside is noticed, and so what
is opened always bears the name that was sealed: `Envelope.opens_as_sealed`.

All that is asked of the cipher is that deciphering undoes enciphering, `Cipher.Undoes`. It
does for the cipher of heartbeats; that nobody else can make a message that deciphers is not
said here.
-/

namespace ClusterNode

open Json

/-! ## Records -/

/-- Bytes in base64 read back as themselves. -/
theorem EncodedBytes.readsAs (h : Nat) (b : EncodedBytes) : ReadsAs h b b where
  plain := .str _
  some := nofun
  reads _ := by
    show (Base64.decode (Base64.encode b.bytes)).map EncodedBytes.mk = some b
    rw [Base64.decode_encode]
    rfl

/-- A sealed message reads back as itself. -/
theorem SealedMessage.readsAs (h : Nat) (m : SealedMessage) : ReadsAs (h + 1) m m := by
  have cluster := readsAs_string h m.cluster
  have node := readsAs_string h m.node
  have nonce := EncodedBytes.readsAs h ⟨m.nonce⟩
  have data := EncodedBytes.readsAs h ⟨m.data⟩
  refine readsAs_record ["clustername", "nodename", "nonce", "data"]
    [some (toJson m.cluster), some (toJson m.node), some (toJson (EncodedBytes.mk m.nonce)),
      some (toJson (EncodedBytes.mk m.data))]
    rfl (by decide) rfl ?_ fun r read => ?_
  · simp only [List.forall_mem_cons]
    exact ⟨cluster.field, node.field, nonce.field, data.field, nofun⟩
  · change (Json.record? _ (toJson m)).bind _ = _
    rw [read]
    simp only [Option.bind_some, cluster.required r, node.required r, nonce.required r,
      data.required r, Option.bind_eq_bind]

/-- The inside of a message reads back as itself. -/
theorem PlainMessage.readsAs (h : Nat) (m : PlainMessage) : ReadsAs (h + 1) m m := by
  have cluster := readsAs_string h m.cluster
  have node := readsAs_string h m.node
  have payload := EncodedBytes.readsAs h ⟨m.payload⟩
  refine readsAs_record ["clustername", "nodename", "payload"]
    [some (toJson m.cluster), some (toJson m.node), some (toJson (EncodedBytes.mk m.payload))]
    rfl (by decide) rfl ?_ fun r read => ?_
  · simp only [List.forall_mem_cons]
    exact ⟨cluster.field, node.field, payload.field, nofun⟩
  · change (Json.record? _ (toJson m)).bind _ = _
    rw [read]
    simp only [Option.bind_some, cluster.required r, node.required r, payload.required r,
      Option.bind_eq_bind]

/-! ## Ciphers -/

namespace Cipher

/-- Deciphering with the same key and nonce undoes enciphering. -/
def Undoes (c : Cipher) (key : Bytes) : Prop :=
  ∀ nonce message, nonce.length = c.nonceLength → message.length ≤ c.longest →
    c.decrypt key nonce (c.encrypt key nonce message) = some message

/-- Deciphering undoes enciphering in Galois counter mode. -/
theorem gcm_undoes (key : Bytes) : gcm.Undoes key :=
  fun nonce message _ _ => Gcm.decrypt_encrypt key nonce message

end Cipher

namespace Envelope

variable {e : Envelope} {m : SealedMessage} {inside : PlainMessage} {bytes : Bytes}

/-! ## Opening -/

/-- The bytes are a sealed message. -/
def Carries (bytes : Bytes) (m : SealedMessage) : Prop :=
  (parseUtf8 bytes).bind (ofJson? .direct) = some m

/-- What was enciphered in a message. -/
def Deciphers (e : Envelope) (m : SealedMessage) (inside : PlainMessage) : Prop :=
  ∃ plain, e.cipher.decrypt e.key m.nonce m.data = some plain ∧
    (parseUtf8 plain).bind (ofJson? .direct) = some inside

/-- The bytes that a sealed message is written as carry it. -/
theorem carries_render (m : SealedMessage) : Carries (renderUtf8 (toJson m)) m :=
  (m.readsAs 0).parse (by decide) .direct

/-- Bytes that carry a message are opened as the message is. -/
theorem open?_of_carries (carries : Carries bytes m) : e.open? bytes = e.openMessage m := by
  rw [open?, carries]

/-- A message of another cluster is not opened. -/
theorem openMessage_of_cluster_ne (other : m.cluster ≠ e.cluster) :
    e.openMessage m = .error (.clusterMismatch m.cluster) :=
  if_pos other

/-- A message whose nonce has the wrong length is not opened. -/
theorem openMessage_of_length_ne (ours : m.cluster = e.cluster)
    (wrong : m.nonce.length ≠ e.cipher.nonceLength) :
    e.openMessage m = .error (.invalidNonce m.nonce.length) := by
  rw [openMessage, if_neg (not_not_intro ours), if_pos wrong]

/-- A message of the cluster that deciphers is opened if its header has the name inside. -/
theorem openMessage_of_deciphers {node : String} {payload : Bytes}
    (deciphers : e.Deciphers m ⟨e.cluster, node, payload⟩) (ours : m.cluster = e.cluster)
    (drawn : m.nonce.length = e.cipher.nonceLength) :
    e.openMessage m =
      if node ≠ m.node then .error (.nodeMismatch m.node node) else .ok (node, payload) := by
  obtain ⟨plain, decrypted, read⟩ := deciphers
  rw [openMessage, if_neg (not_not_intro ours), if_neg (not_not_intro drawn), decrypted]
  dsimp only
  rw [read]
  exact if_neg (not_not_intro rfl)

/-- What is opened bears the name that was sealed, which is also in the header. -/
theorem of_open?_eq_ok {name : String} {payload : Bytes}
    (opened : e.open? bytes = .ok (name, payload)) :
    ∃ m, Carries bytes m ∧ m.cluster = e.cluster ∧ m.node = name ∧
      e.Deciphers m ⟨e.cluster, name, payload⟩ := by
  unfold open? at opened
  split at opened
  · cases opened
  rename_i m carries
  unfold openMessage at opened
  split at opened
  · cases opened
  rename_i ofCluster
  split at opened
  · cases opened
  split at opened
  · cases opened
  rename_i plain decrypted
  split at opened
  · cases opened
  rename_i inside read
  split at opened
  · cases opened
  rename_i insideCluster
  split at opened
  · cases opened
  rename_i insideNode
  cases opened
  obtain ⟨cluster, node, payload⟩ := inside
  obtain rfl : cluster = e.cluster := Decidable.not_not.1 insideCluster
  obtain rfl : node = m.node := Decidable.not_not.1 insideNode
  exact ⟨m, carries, Decidable.not_not.1 ofCluster, rfl, plain, decrypted, read⟩

/-! ## Sealing -/

/-- What is sealed carries the message, and is short enough for the cipher. -/
theorem of_sealPayload_eq_some {nonce payload : Bytes}
    (done : e.sealPayload nonce payload = some bytes) :
    Carries bytes (e.sealMessage nonce payload) ∧
      (e.plainText payload).length ≤ e.cipher.longest := by
  unfold sealPayload at done
  split at done
  · rename_i short
    cases done
    exact ⟨carries_render _, short⟩
  · cases done

/-- Another node deciphers what was sealed under its key. -/
theorem deciphers_sealMessage {sender : Envelope} {nonce payload : Bytes}
    (undoes : e.cipher.Undoes e.key) (cipher : sender.cipher = e.cipher)
    (key : sender.key = e.key) (drawn : nonce.length = e.cipher.nonceLength)
    (short : (sender.plainText payload).length ≤ e.cipher.longest) :
    e.Deciphers (sender.sealMessage nonce payload) ⟨sender.cluster, sender.node, payload⟩ := by
  refine ⟨sender.plainText payload, ?_, (PlainMessage.readsAs 0 _).parse (by decide) .direct⟩
  have undone := undoes nonce (sender.plainText payload) drawn short
  rw [sealMessage, cipher, key]
  exact undone

/-- The envelope of a node under another cipher. -/
def under (e : Envelope) (c : Cipher) : Envelope := ⟨c, e.key, e.cluster, e.node⟩

/-- If deciphering undoes enciphering, every node of the cluster opens what was sealed as the
payload of its sender. With another node in the header it notices the mismatch, as it does
another cluster and a nonce of another length. Whatever it opens bears the name that was
sealed. -/
theorem opens_as_sealed {c : Cipher} {cluster sender secret : String} (receiver : String)
    {nonce payload bytes : Bytes}
    (undoes : c.Undoes (Sha256.digest (Bytes.ofText secret)))
    (drawn : nonce.length = c.nonceLength)
    (done : ((new cluster sender secret).under c).sealPayload nonce payload = some bytes) :
    let e := (new cluster receiver secret).under c
    let m := ((new cluster sender secret).under c).sealMessage nonce payload
    (Carries bytes m ∧ e.open? bytes = .ok (sender, payload)) ∧
    (∀ name altered, name ≠ sender → Carries altered { m with node := name } →
      e.open? altered = .error (.nodeMismatch name sender)) ∧
    (∀ name altered, name ≠ cluster → Carries altered { m with cluster := name } →
      e.open? altered = .error (.clusterMismatch name)) ∧
    (∀ other altered, other.length ≠ c.nonceLength → Carries altered { m with nonce := other } →
      e.open? altered = .error (.invalidNonce other.length)) ∧
    (∀ name altered payload', e.open? altered = .ok (name, payload') →
      ∃ m, Carries altered m ∧ m.cluster = cluster ∧ m.node = name ∧
        e.Deciphers m ⟨cluster, name, payload'⟩) := by
  intro e m
  obtain ⟨carries, short⟩ := of_sealPayload_eq_some done
  have deciphers : e.Deciphers m ⟨cluster, sender, payload⟩ :=
    deciphers_sealMessage undoes rfl rfl drawn short
  refine ⟨⟨carries, ?_⟩, fun name altered other carried => ?_,
    fun name altered other carried => ?_, fun nonce' altered other carried => ?_,
    fun name altered payload' opened => of_open?_eq_ok opened⟩
  · have opened := openMessage_of_deciphers deciphers rfl drawn
    rw [open?_of_carries carries, opened]
    exact if_neg (not_not_intro rfl)
  · -- the header is not enciphered: the same is deciphered under any name
    have opened := openMessage_of_deciphers (m := { m with node := name }) deciphers rfl drawn
    rw [open?_of_carries carried, opened, if_pos other.symm]
  · rw [open?_of_carries carried]
    exact openMessage_of_cluster_ne other
  · rw [open?_of_carries carried]
    exact openMessage_of_length_ne rfl other

/-- A node opens what another one sealed, and not under the name of a third one. -/
theorem opens_as_sealed_by_gcm :
    let sender := (new "c1" "n1" "hush").under .gcm
    let receiver := (new "c1" "n2" "hush").under .gcm
    let nonce := List.replicate 12 (7 : UInt8)
    let m := sender.sealMessage nonce [1, 2, 3]
    (nonce.length = Cipher.gcm.nonceLength ∧
      sender.sealPayload nonce [1, 2, 3] = some (renderUtf8 (toJson m))) ∧
    receiver.open? (renderUtf8 (toJson m)) = .ok ("n1", [1, 2, 3]) ∧
    receiver.open? (renderUtf8 (toJson { m with node := "n3" })) =
      .error (.nodeMismatch "n3" "n1") := by
  intro sender receiver nonce m
  have drawn : nonce.length = Cipher.gcm.nonceLength := by decide
  have done : sender.sealPayload nonce [1, 2, 3] = some (renderUtf8 (toJson m)) :=
    if_pos (by decide +kernel)
  obtain ⟨⟨_, opened⟩, forged, _⟩ := opens_as_sealed "n2" (Cipher.gcm_undoes _) drawn done
  exact ⟨⟨drawn, done⟩, opened, forged "n3" _ (by decide) (carries_render _)⟩

end Envelope

end ClusterNode
