import ClusterNode.Crypto.Gcm

/-!
# Galois/counter mode undoes itself

Masking twice under the same counters gives a message back, and the tag that is written is the
tag that is looked for, whatever is enciphered: `Gcm.decrypt_encrypt`. Nothing is said of what
else has the same tag.
-/

namespace ClusterNode.Gcm

variable (keys : Array UInt32) (nonce : Bytes)

/-- A block of the mask has sixteen bytes. -/
theorem length_maskBlock (counter : UInt32) : (maskBlock keys nonce counter).length = 16 := rfl

/-- A mask that is as long as a text takes itself off again. -/
theorem zipWith_xor_xor {text mask : Bytes} (covers : text.length ≤ mask.length) :
    List.zipWith (· ^^^ ·) (List.zipWith (· ^^^ ·) text mask) mask = text := by
  induction text generalizing mask with
  | nil => rfl
  | cons a text ih =>
    cases mask with
    | nil => simp at covers
    | cons m mask =>
      have less : text.length ≤ mask.length := by simpa using covers
      have rest := ih less
      simp only [List.zipWith_cons_cons, rest, UInt8.xor_assoc, UInt8.xor_self, UInt8.xor_zero]

/-- A message masked with counters from one on. -/
def maskFrom (counter : UInt32) (message : Bytes) : Bytes :=
  (maskPieces keys nonce counter (Bytes.chunks 16 message)).flatten

/-- No bytes are masked to none. -/
theorem maskFrom_nil (counter : UInt32) : maskFrom keys nonce counter [] = [] := by
  rw [maskFrom, Bytes.chunks, dif_pos (.inr rfl)]
  rfl

/-- The first block of a message is masked with the first counter. -/
theorem maskFrom_of_ne_nil (counter : UInt32) {message : Bytes} (some : message ≠ []) :
    maskFrom keys nonce counter message =
      List.zipWith (· ^^^ ·) (message.take 16) (maskBlock keys nonce counter) ++
        maskFrom keys nonce (counter + 1) (message.drop 16) := by
  rw [maskFrom, Bytes.chunks, dif_neg (by simp [some])]
  rfl

/-- A first block is told from the others, if it is full or there is no other one. -/
theorem take_drop_block (block rest : Bytes) (short : block.length ≤ 16)
    (full : block.length < 16 → rest = []) :
    (block ++ rest).take 16 = block ∧ (block ++ rest).drop 16 = rest := by
  by_cases less : block.length < 16
  · rw [full less, List.append_nil]
    exact ⟨List.take_of_length_le short, List.drop_of_length_le short⟩
  · have length : block.length = 16 := by omega
    exact ⟨List.take_left' length, List.drop_left' length⟩

/-- Masking twice takes the mask off; the induction is over blocks. -/
theorem maskFrom_maskFrom (counter : UInt32) (message : Bytes) :
    maskFrom keys nonce counter (maskFrom keys nonce counter message) = message := by
  induction size : message.length using Nat.strongRecOn generalizing counter message with
  | _ n ih =>
    by_cases none : message = []
    · rw [none, maskFrom_nil, maskFrom_nil]
    have some : 0 < message.length := List.length_pos_iff.2 none
    have others := ih (message.drop 16).length (by rw [List.length_drop]; omega) (counter + 1)
      (message.drop 16) rfl
    rw [maskFrom_of_ne_nil keys nonce counter none]
    have covers : (message.take 16).length ≤ (maskBlock keys nonce counter).length := by
      rw [List.length_take, length_maskBlock]
      omega
    have unmasked := zipWith_xor_xor covers
    have length : (List.zipWith (· ^^^ ·) (message.take 16)
        (maskBlock keys nonce counter)).length = min 16 message.length := by
      rw [List.length_zipWith, Nat.min_eq_left covers, List.length_take]
    generalize List.zipWith (· ^^^ ·) (message.take 16) (maskBlock keys nonce counter) = block
      at unmasked length
    obtain ⟨first, behind⟩ := take_drop_block block
      (maskFrom keys nonce (counter + 1) (message.drop 16)) (by omega) fun short => by
        rw [List.drop_of_length_le (by omega), maskFrom_nil]
    rw [maskFrom_of_ne_nil, first, behind, others, unmasked, List.take_append_drop]
    rintro empty
    rw [(List.append_eq_nil_iff.1 empty).1, List.length_nil] at length
    omega

/-- A tag has sixteen bytes. -/
theorem length_tag (masked : Bytes) : (tag keys nonce masked).length = 16 := rfl

/-- What is sealed is opened. -/
theorem decrypt_encrypt (key nonce message : Bytes) :
    decrypt key nonce (encrypt key nonce message) = some message := by
  have unmasked := maskFrom_maskFrom (Aes256.expandKey key) nonce 2 message
  rw [encrypt, decrypt]
  dsimp only
  generalize masked : mask (Aes256.expandKey key) nonce message = text
  have tagged := length_tag (Aes256.expandKey key) nonce text
  have length : (text ++ tag (Aes256.expandKey key) nonce text).length - 16 = text.length := by
    rw [List.length_append, tagged, Nat.add_sub_cancel]
  rw [if_neg (by rw [List.length_append, tagged]; omega), length, List.take_left, List.drop_left,
    if_pos rfl, ← masked]
  exact congrArg some unmasked

end ClusterNode.Gcm
