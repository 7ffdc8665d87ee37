import ClusterNode.Proofs.Heartbeat.Fragments
import ClusterNode.Proofs.Heartbeat.Sealing
import ClusterNode.Proofs.Json.Size

/-!
# Fragments fit into their datagrams

A datagram keeps 128 bytes for the record around a chunk. Under an id of 36 characters the record
takes 78 bytes and the digits of two numbers of 64 bits, 118 at most; the base64 text of a chunk
takes the rest of the datagram at most, since chunks are of three bytes for every four characters
that there are. `fragment_fits` says so of whole messages: either the datagrams are too small for
any chunk, or as few chunks are made as possible, unless these are too many, and each is a datagram
of the size that reads back as its fragment.

An id is the text of a UUID as the generator writes it, `IsUuid`; nothing else is asked of it.
-/

namespace ClusterNode

open Json

/-! ## Ids -/

/-- The places of the hyphens in the text of a UUID. -/
def uuidHyphens : List Nat := [8, 13, 18, 23]

/-- The text of a UUID: 36 characters, hexadecimal digits in lower case but for the hyphens. -/
def IsUuid (id : String) : Prop :=
  id.length = 36 ∧ ∀ e ∈ id.toList.zipIdx,
    if e.2 ∈ uuidHyphens then e.1 = '-' else e.1.isDigit ∨ 'a' ≤ e.1 ∧ e.1 ≤ 'f'

instance : DecidablePred IsUuid := fun id =>
  inferInstanceAs (Decidable (id.length = 36 ∧ _))

variable {id messageId : String} {payload : Bytes} {f : Fragment}

/-- The text of a UUID stands in a string as it is. -/
theorem IsUuid.bare (uuid : IsUuid id) : ∀ c ∈ id.toList, Bare c := by
  intro c member
  obtain ⟨i, inside, rfl⟩ := List.getElem_of_mem member
  have form := uuid.2 (id.toList[i], i) (List.mk_mem_zipIdx_iff_getElem?.2
    (List.getElem?_eq_getElem inside))
  dsimp only at form
  split at form
  · rw [form]
    decide
  · rcases form with digit | ⟨least, most⟩
    · exact bare_of_isDigit digit
    · exact bare_of_lower least (Char.le_trans most (by decide))

/-! ## The record -/

/-- Base64 text stands in a string as it is. -/
theorem bare_of_mem_encode (bs : Bytes) : ∀ c ∈ (Base64.encode bs).toList, Bare c := by
  intro c member
  rw [Base64.encode, String.toList_ofList] at member
  rcases Base64.of_mem_encodeChars member with rfl | ⟨n, small, rfl⟩
  · decide
  · have each : ∀ n : Fin 64, Bare (Base64.digit n) := by decide
    exact each ⟨n, small⟩

namespace Fragment

/-- A fragment reads back as itself. -/
theorem readsAs (h : Nat) (f : Fragment) : ReadsAs (h + 1) f f := by
  have messageId := readsAs_string h f.messageId
  have index := readsAs_uInt64 h f.index
  have total := readsAs_uInt64 h f.total
  have chunk := EncodedBytes.readsAs h ⟨f.chunk⟩
  refine readsAs_record ["msg_id", "index", "total", "chunk"]
    [some (toJson f.messageId), some (toJson f.index), some (toJson f.total),
      some (toJson (EncodedBytes.mk f.chunk))]
    rfl (by decide) rfl ?_ fun r read => ?_
  · simp only [List.forall_mem_cons]
    exact ⟨messageId.field, index.field, total.field, chunk.field, nofun⟩
  · change (Json.record? _ (toJson f)).bind _ = _
    rw [read]
    simp only [Option.bind_some, messageId.required r, index.required r, total.required r,
      chunk.required r, Option.bind_eq_bind]

/-- A fragment in its place reads back from its datagram. -/
theorem decode_encode (placed : f.isPlaced = true) : decode f.encode = .ok f := by
  rw [decode, encode, (f.readsAs 0).parse (by decide) .direct]
  exact if_pos placed

/-- The characters of the record. -/
theorem render_toJson (f : Fragment) :
    renderOnto [] (toJson f) =
      '\x7b' :: renderString "msg_id" ++ ':' :: renderString f.messageId ++
      ',' :: renderString "index" ++ ':' :: Nat.toDigits 10 f.index.toNat ++
      ',' :: renderString "total" ++ ':' :: Nat.toDigits 10 f.total.toNat ++
      ',' :: renderString "chunk" ++ ':' :: renderString (Base64.encode f.chunk) ++ ['\x7d'] := by
  show renderOnto [] (.obj [("msg_id", .str f.messageId), ("index", .nat f.index.toNat),
    ("total", .nat f.total.toNat), ("chunk", .str (Base64.encode f.chunk))]) = _
  simp only [renderOnto, renderMembers, Json.nat, renderNumber, List.append_assoc,
    List.cons_append]

/-- The record around a chunk takes 78 bytes, if the id has 36 characters, and the digits of its
two numbers. -/
theorem length_encode (uuid : IsUuid f.messageId) :
    f.encode.length = 78 + textSize (Nat.toDigits 10 f.index.toNat) +
      textSize (Nat.toDigits 10 f.total.toNat) + (Base64.encode f.chunk).length := by
  have messageId := textSize_renderString uuid.bare
  have chunk := textSize_renderString (bare_of_mem_encode f.chunk)
  have names : textSize (renderString "msg_id") = 8 ∧ textSize (renderString "index") = 7 ∧
      textSize (renderString "total") = 7 ∧ textSize (renderString "chunk") = 7 := by decide
  have marks : '\x7b'.utf8Size = 1 ∧ '\x7d'.utf8Size = 1 ∧ ':'.utf8Size = 1 ∧
      ','.utf8Size = 1 := by decide
  rw [encode, length_renderUtf8, render_toJson]
  simp only [textSize_append, textSize_cons, textSize_nil, messageId, chunk, names, marks, uuid.1]
  omega

/-- What is not the chunk takes less than the allowance. -/
theorem length_encode_le (uuid : IsUuid f.messageId) :
    f.encode.length ≤ headerAllowance + (Base64.encode f.chunk).length := by
  have index := textSize_toDigits_le f.index
  have total := textSize_toDigits_le f.total
  have allowance : headerAllowance = 128 := rfl
  rw [length_encode uuid]
  -- 78 bytes and twice twenty digits
  omega

end Fragment

/-! ## Pieces that fit -/

/-- The base64 text of a piece fits into a datagram beside the allowance. -/
def Fits (datagramSize : Nat) (piece : Bytes) : Prop :=
  headerAllowance + (Base64.encode piece).length ≤ datagramSize

/-- A message can be cut into a number of pieces that fit, of which there is at least one. -/
def CutsInto (datagramSize : Nat) (payload : Bytes) (n : Nat) : Prop :=
  ∃ pieces : List Bytes, pieces ≠ [] ∧ pieces.length = n ∧ pieces.flatten = payload ∧
    ∀ piece ∈ pieces, Fits datagramSize piece

/-- The least number of pieces that fit and make up a message. -/
def Needs (datagramSize : Nat) (payload : Bytes) (n : Nat) : Prop :=
  CutsInto datagramSize payload n ∧ ∀ m, CutsInto datagramSize payload m → n ≤ m

variable {datagramSize size : Nat}

/-- The size of the chunks is that of the longest pieces that fit. -/
theorem fits_iff (sized : chunkSize datagramSize = .ok size) (piece : Bytes) :
    Fits datagramSize piece ↔ piece.length ≤ size := by
  have allowance : headerAllowance = 128 := rfl
  rw [chunkSize_eq] at sized
  rw [Fits, Base64.length_encode]
  split at sized
  · cases sized
  · cases sized
    omega

/-- The pieces of the size of the chunks are as few as possible. -/
theorem needs_pieces (sized : chunkSize datagramSize = .ok size) :
    Needs datagramSize payload (payload.pieces size).length := by
  have positive := chunkSize_pos sized
  refine ⟨⟨payload.pieces size, Bytes.pieces_ne_nil positive, rfl, Bytes.flatten_pieces positive,
    fun piece member => (fits_iff sized piece).2 (Bytes.length_le_of_mem_pieces member)⟩, ?_⟩
  rintro _ ⟨others, some, rfl, whole, each⟩
  exact Bytes.length_pieces_le positive some whole
    fun piece member => (fits_iff sized piece).1 (each piece member)

/-- The datagram of a numbered piece that fits is within the size, and reads back. -/
theorem datagram_of_isCut {frags : List Fragment} (cut : IsCut messageId payload frags)
    (uuid : IsUuid messageId) (member : f ∈ frags) (fits : Fits datagramSize f.chunk) :
    f.encode.length ≤ datagramSize ∧ Fragment.decode f.encode = .ok f :=
  ⟨Nat.le_trans (f.length_encode_le (cut.ofMessage f member ▸ uuid)) fits,
    Fragment.decode_encode (cut.placed member)⟩

/-- A message is cut into as few numbered pieces as can be, each with a datagram of the size that
reads back; only if there is no room for four characters, or there would be too many pieces, is it
not. -/
theorem fragment_fits (messageId : String) (payload : Bytes) (datagramSize : Nat) (limit : UInt64)
    (uuid : IsUuid messageId) :
    if datagramSize < headerAllowance + 4 then
      fragment messageId payload datagramSize limit.toNat =
        .error (.datagramTooSmall datagramSize)
    else
      ∃ needed, Needs datagramSize payload needed ∧
        if limit.toNat < needed then
          fragment messageId payload datagramSize limit.toNat =
            .error (.tooManyFragments needed limit.toNat)
        else
          ∃ frags, fragment messageId payload datagramSize limit.toNat = .ok frags ∧
            frags.length = needed ∧ IsCut messageId payload frags ∧
            ∀ f ∈ frags, f.encode.length ≤ datagramSize ∧
              Fragment.decode f.encode = .ok f := by
  have sized := chunkSize_eq datagramSize
  split
  · rename_i small
    rw [if_pos small] at sized
    rw [fragment, sized]
    rfl
  · rename_i large
    rw [if_neg large] at sized
    have positive := chunkSize_pos sized
    refine ⟨_, needs_pieces sized, ?_⟩
    rw [fragment_eq sized]
    dsimp only
    split
    · rfl
    · rename_i within
      have small := Nat.lt_of_le_of_lt (Nat.not_lt.1 within) limit.toNat_lt
      have cut : IsCut messageId _ _ := isCut_numberChunks (Bytes.pieces_ne_nil positive) small
      rw [Bytes.flatten_pieces positive] at cut
      refine ⟨_, rfl, length_numberChunks, cut, fun f member => ?_⟩
      refine datagram_of_isCut cut uuid member ((fits_iff sized _).2 ?_)
      have piece := List.mem_map_of_mem (f := (·.chunk)) member
      rw [map_chunk_numberChunks] at piece
      exact Bytes.length_le_of_mem_pieces piece

/-- Seven bytes in the smallest datagrams that there are chunks for: three fragments. -/
theorem fragment_fits_smallest :
    let id := "f47ac10b-58cc-4372-a567-0e02b2c3d479"
    let payload : Bytes := [1, 2, 3, 4, 5, 6, 7]
    let frags : List Fragment := [⟨id, 1, 3, [1, 2, 3]⟩, ⟨id, 2, 3, [4, 5, 6]⟩, ⟨id, 3, 3, [7]⟩]
    IsUuid id ∧ fragment id payload 132 (3 : UInt64).toNat = .ok frags ∧ Needs 132 payload 3 ∧
      IsCut id payload frags ∧
      ∀ f ∈ frags, f.encode.length ≤ 132 ∧ Fragment.decode f.encode = .ok f := by
  intro id payload frags
  have uuid : IsUuid id := by decide +kernel
  have made : fragment id payload 132 (3 : UInt64).toNat = .ok frags := by cbv
  obtain ⟨needed, needs, result⟩ := fragment_fits id payload 132 3 uuid
  rw [made] at result
  split at result
  · cases result
  · obtain ⟨_, same, rfl, cut, each⟩ := result
    cases same
    exact ⟨uuid, made, needs, cut, each⟩

end ClusterNode
