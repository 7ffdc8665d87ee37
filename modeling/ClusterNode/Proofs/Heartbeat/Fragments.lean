import ClusterNode.Heartbeat.Fragment

/-!
# What a message is cut into

`cut_of_fragment` says what cutting makes: numbered pieces of the message, at least one and
at most as many as the limit allows, that make it up. `IsCut` is what a receiver can rely
on: fragments of one message, in the order of their places, that know their number.
-/

namespace ClusterNode

namespace Bytes

variable {size : Nat} (bs : Bytes)

/-- Pieces of a positive size make up the whole. -/
theorem flatten_chunks (positive : 0 < size) : (chunks size bs).flatten = bs := by
  fun_induction chunks size bs with
  | case1 bs none =>
    rcases none with zero | rfl
    · omega
    · rfl
  | case2 bs more ih => rw [List.flatten_cons, ih, List.take_append_drop]

/-- Every piece but the last one is full. -/
theorem length_chunks (positive : 0 < size) :
    (chunks size bs).length = (bs.length + size - 1) / size := by
  fun_induction chunks size bs with
  | case1 bs none =>
    rcases none with zero | rfl
    · omega
    · exact (Nat.div_eq_of_lt (by simpa using Nat.sub_lt positive Nat.one_pos)).symm
  | case2 bs more ih =>
    have some : 0 < bs.length := List.length_pos_iff.2 fun empty => more (.inr empty)
    rw [List.length_cons, ih, List.length_drop, ← Nat.add_div_right _ positive]
    by_cases full : size ≤ bs.length
    · congr 1
      omega
    · rw [Nat.div_eq_of_lt_le (k := 1), Nat.div_eq_of_lt_le (k := 1)] <;> omega

/-- No chunk is longer than the size. -/
theorem length_le_of_mem_chunks {piece : Bytes} (member : piece ∈ chunks size bs) :
    piece.length ≤ size := by
  fun_induction chunks size bs with
  | case1 => cases member
  | case2 bs more ih =>
    rcases List.mem_cons.1 member with rfl | later
    · exact List.length_take_le ..
    · exact ih later

/-- The pieces of a message: those of a size, or an empty one if it has none. -/
def pieces (size : Nat) (bs : Bytes) : List Bytes := if bs = [] then [[]] else bs.chunks size

variable {bs}

/-- The pieces of a message make it up. -/
theorem flatten_pieces (positive : 0 < size) : (pieces size bs).flatten = bs := by
  unfold pieces
  split
  · rename_i empty
    exact empty.symm
  · exact flatten_chunks bs positive

/-- Every message has a piece. -/
theorem pieces_ne_nil (positive : 0 < size) : pieces size bs ≠ [] := by
  unfold pieces
  split
  · exact List.cons_ne_nil _ _
  · rename_i some
    intro none
    have whole := flatten_chunks bs positive
    rw [none] at whole
    exact some whole.symm

/-- The pieces are as many as the size asks for, and one at least. -/
theorem length_pieces (positive : 0 < size) :
    (pieces size bs).length = max ((bs.length + size - 1) / size) 1 := by
  have least : 0 < (pieces size bs).length := List.length_pos_iff.2 (pieces_ne_nil positive)
  unfold pieces at least ⊢
  split
  · rename_i empty
    have none : (size - 1) / size = 0 := Nat.div_eq_of_lt (by omega)
    simp [empty, none]
  · rename_i some
    rw [if_neg some] at least
    rw [length_chunks bs positive] at least ⊢
    omega

/-- No piece is longer than the size. -/
theorem length_le_of_mem_pieces {piece : Bytes} (member : piece ∈ pieces size bs) :
    piece.length ≤ size := by
  unfold pieces at member
  split at member
  · rw [List.mem_singleton.1 member]
    exact Nat.zero_le _
  · exact length_le_of_mem_chunks bs member

/-- Pieces of a size make up no more than their number of that size. -/
theorem length_flatten_le {others : List Bytes} (each : ∀ piece ∈ others, piece.length ≤ size) :
    others.flatten.length ≤ others.length * size := by
  induction others with
  | nil => simp
  | cons piece others ih =>
    have first := each piece (List.mem_cons_self ..)
    have rest := ih fun p member => each p (List.mem_cons_of_mem _ member)
    rw [List.flatten_cons, List.length_append, List.length_cons, Nat.succ_mul]
    omega

/-- No other way to cut a message into pieces of at most the size takes fewer of them. -/
theorem length_pieces_le (positive : 0 < size) {others : List Bytes} (some : others ≠ [])
    (whole : others.flatten = bs) (each : ∀ piece ∈ others, piece.length ≤ size) :
    (pieces size bs).length ≤ others.length := by
  have least : 0 < others.length := List.length_pos_iff.2 some
  have total := length_flatten_le each
  rw [whole] at total
  have enough : (bs.length + size - 1) / size < others.length + 1 := by
    rw [Nat.div_lt_iff_lt_mul positive, Nat.succ_mul]
    omega
  rw [length_pieces positive]
  omega

end Bytes

/-- There are chunks for datagrams that hold four characters beside the allowance. -/
theorem chunkSize_eq (datagramSize : Nat) :
    chunkSize datagramSize =
      if datagramSize < headerAllowance + 4 then .error (.datagramTooSmall datagramSize)
      else .ok ((datagramSize - headerAllowance) / 4 * 3) := by
  unfold chunkSize
  dsimp only
  by_cases small : datagramSize < headerAllowance + 4
  · rw [if_pos small, if_pos (by omega)]
  · rw [if_neg small, if_neg (by omega)]

/-- A chunk size that there is, is positive. -/
theorem chunkSize_pos {datagramSize size : Nat} (ok : chunkSize datagramSize = .ok size) :
    0 < size := by
  rw [chunkSize_eq] at ok
  split at ok
  · cases ok
  · cases ok
    omega

section

variable {messageId : String} {payload : Bytes} {datagramSize limit size : Nat}

/-- A message is cut into its pieces unless they are too many. -/
theorem fragment_eq (sized : chunkSize datagramSize = .ok size) :
    fragment messageId payload datagramSize limit =
      let pieces := payload.pieces size
      if limit < pieces.length then .error (.tooManyFragments pieces.length limit)
      else .ok (numberChunks messageId pieces.length 1 pieces) := by
  have count : (payload.pieces size).length = _ := Bytes.length_pieces (chunkSize_pos sized)
  unfold fragment
  rw [sized]
  change (if limit < max ((payload.length + size - 1) / size) 1 then _ else _) = _
  rw [← count]
  dsimp only
  split
  · rfl
  · by_cases empty : payload = []
    · simp [Bytes.pieces, empty]
    · simp [Bytes.pieces, empty]

/-- What is cut is numbered pieces, at least one and as many as the limit allows at most, that make
up the message. -/
theorem cut_of_fragment {frags : List Fragment}
    (ok : fragment messageId payload datagramSize limit = .ok frags) :
    ∃ pieces : List Bytes, pieces ≠ [] ∧ pieces.length ≤ limit ∧ pieces.flatten = payload ∧
      frags = numberChunks messageId pieces.length 1 pieces := by
  cases sized : chunkSize datagramSize with
  | error e =>
    rw [fragment, sized] at ok
    cases ok
  | ok size =>
    have positive := chunkSize_pos sized
    rw [fragment_eq sized] at ok
    dsimp only at ok
    split at ok
    · cases ok
    · rename_i within
      cases ok
      exact ⟨_, Bytes.pieces_ne_nil positive, Nat.not_lt.1 within, Bytes.flatten_pieces positive,
        rfl⟩

end

/-! ## Numbered pieces -/

section

variable {messageId : String} {total place : Nat} {pieces : List Bytes} {f : Fragment}

/-- There is a fragment for every piece. -/
theorem length_numberChunks :
    (numberChunks messageId total place pieces).length = pieces.length := by
  induction pieces generalizing place with
  | nil => rfl
  | cons piece pieces ih => rw [numberChunks, List.length_cons, ih, List.length_cons]

/-- The fragments carry the pieces in their order. -/
theorem map_chunk_numberChunks :
    (numberChunks messageId total place pieces).map (·.chunk) = pieces := by
  induction pieces generalizing place with
  | nil => rfl
  | cons piece pieces ih => rw [numberChunks, List.map_cons, ih]

/-- A numbered piece names its message and the number of pieces. -/
theorem of_mem_numberChunks (member : f ∈ numberChunks messageId total place pieces) :
    f.messageId = messageId ∧ f.total = .ofNat total := by
  induction pieces generalizing place with
  | nil => cases member
  | cons piece pieces ih =>
    rcases List.mem_cons.1 member with rfl | member
    · exact ⟨rfl, rfl⟩
    · exact ih member

/-- The places are counted on as long as they fit into a word. -/
theorem map_index_numberChunks (small : place + pieces.length ≤ UInt64.size) :
    (numberChunks messageId total place pieces).map (·.index.toNat) =
      List.range' place pieces.length := by
  induction pieces generalizing place with
  | nil => rfl
  | cons piece pieces ih =>
    rw [List.length_cons] at small
    have first : (UInt64.ofNat place).toNat = place := UInt64.toNat_ofNat_of_lt' (by omega)
    rw [numberChunks, List.map_cons, ih (by omega), first, List.length_cons, List.range'_succ]

end

/-! ## What a receiver relies on -/

/-- All fragments of a message, in the order of their places. -/
structure IsCut (messageId : String) (payload : Bytes) (frags : List Fragment) : Prop where
  ofMessage : ∀ f ∈ frags, f.messageId = messageId
  ofTotal : ∀ f ∈ frags, f.total = .ofNat frags.length
  numbered : frags.map (·.index.toNat) = List.range' 1 frags.length
  some : frags ≠ []
  small : frags.length < UInt64.size
  whole : (frags.map (·.chunk)).flatten = payload

section

variable {messageId : String} {payload : Bytes} {frags : List Fragment} {f : Fragment}

/-- Numbered pieces are the fragments of what they make up. -/
theorem isCut_numberChunks {pieces : List Bytes} (some : pieces ≠ [])
    (small : pieces.length < UInt64.size) :
    IsCut messageId pieces.flatten (numberChunks messageId pieces.length 1 pieces) := by
  have count : (numberChunks messageId pieces.length 1 pieces).length = pieces.length :=
    length_numberChunks
  refine ⟨fun f member => (of_mem_numberChunks member).1, fun f member => ?_, ?_, ?_, ?_, ?_⟩
  · rw [count]
    exact (of_mem_numberChunks member).2
  · rw [count]
    exact map_index_numberChunks (by omega)
  · rw [← List.length_pos_iff, count]
    exact List.length_pos_iff.2 some
  · rwa [count]
  · rw [map_chunk_numberChunks]

/-- What a message is cut into, if the limit is a word. -/
theorem isCut_of_fragment {datagramSize : Nat} {limit : UInt64}
    (ok : fragment messageId payload datagramSize limit.toNat = .ok frags) :
    IsCut messageId payload frags := by
  obtain ⟨pieces, some, within, rfl, rfl⟩ := cut_of_fragment ok
  exact isCut_numberChunks some (Nat.lt_of_le_of_lt within limit.toNat_lt)

namespace IsCut

variable (cut : IsCut messageId payload frags)
include cut

/-- Every fragment tells the number of all of them. -/
theorem total (member : f ∈ frags) : f.total.toNat = frags.length := by
  rw [cut.ofTotal f member, UInt64.toNat_ofNat_of_lt' cut.small]

/-- The places are counted from one. -/
theorem index_getElem {i : Nat} (inside : i < frags.length) :
    frags[i].index.toNat = i + 1 := by
  have each := congrArg (fun places => places[i]?) cut.numbered
  rw [List.getElem?_map, List.getElem?_eq_getElem inside, List.getElem?_range' inside] at each
  have same : frags[i].index.toNat = 1 + 1 * i := Option.some.inj each
  omega

/-- A fragment stands at its place. -/
theorem getElem?_eq_some_iff {i : Nat} :
    frags[i]? = Option.some f ↔ f ∈ frags ∧ f.index.toNat = i + 1 := by
  constructor
  · intro found
    obtain ⟨inside, rfl⟩ := List.getElem?_eq_some_iff.1 found
    exact ⟨List.getElem_mem inside, cut.index_getElem inside⟩
  · rintro ⟨member, place⟩
    obtain ⟨j, inside, rfl⟩ := List.getElem_of_mem member
    obtain rfl : j = i := by
      rw [cut.index_getElem inside] at place
      omega
    exact List.getElem?_eq_getElem inside

/-- Fragments are told apart by their places. -/
theorem eq_of_index_eq {g : Fragment} (member : f ∈ frags) (other : g ∈ frags)
    (same : f.index = g.index) : f = g := by
  obtain ⟨i, inside, rfl⟩ := List.getElem_of_mem member
  have there := cut.getElem?_eq_some_iff.2 ⟨other, same ▸ cut.index_getElem inside⟩
  exact Option.some.inj ((List.getElem?_eq_getElem inside).symm.trans there)

/-- The place of a fragment is one of those of its message. -/
theorem placed (member : f ∈ frags) : f.isPlaced = true := by
  have total := cut.total member
  obtain ⟨i, inside, rfl⟩ := List.getElem_of_mem member
  have index := cut.index_getElem inside
  simp only [Fragment.isPlaced, Bool.and_eq_true, bne_iff_ne, decide_eq_true_eq]
  refine ⟨⟨fun zero => ?_, fun zero => ?_⟩, ?_⟩
  · rw [zero] at total
    exact absurd inside (by rw [← total]; exact Nat.not_lt_zero i)
  · rw [zero] at index
    exact absurd index (Nat.succ_ne_zero i).symm
  · rw [UInt64.le_iff_toNat_le, index, total]
    exact inside

end IsCut

end

end ClusterNode
