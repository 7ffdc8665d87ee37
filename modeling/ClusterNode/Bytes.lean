/-!
# Bytes

A message is a list of bytes. A text is carried as its UTF-8.
-/

namespace ClusterNode

/-- A sequence of bytes. -/
abbrev Bytes := List UInt8

namespace Bytes

/-- The UTF-8 of a text. -/
def ofText (s : String) : Bytes := s.toUTF8.data.toList

/-- The text of UTF-8. -/
def toText? (bs : Bytes) : Option String := String.fromUTF8? ⟨bs.toArray⟩

/-- A digit of a number below sixteen, in lower case. -/
def hexDigit (n : UInt8) : Char :=
  if n < 10 then Char.ofNat ('0'.toNat + n.toNat) else Char.ofNat ('a'.toNat + (n.toNat - 10))

/-- Two hexadecimal digits per byte. -/
def toHex (bs : Bytes) : String :=
  String.ofList (bs.flatMap fun b => [hexDigit (b / 16), hexDigit (b % 16)])

/-- The bytes of words, the lowest byte of a word first. -/
def ofWordsLE (ws : List UInt32) : Bytes :=
  ws.flatMap fun (w : UInt32) =>
    [w.toUInt8, (w >>> 8).toUInt8, (w >>> 16).toUInt8, (w >>> 24).toUInt8]

/-- The bytes of words, the highest byte of a word first. -/
def ofWordsBE (ws : List UInt32) : Bytes :=
  ws.flatMap fun (w : UInt32) =>
    [(w >>> 24).toUInt8, (w >>> 16).toUInt8, (w >>> 8).toUInt8, w.toUInt8]

/-- The word of four bytes, the highest byte first. -/
def wordBE (a b c d : UInt8) : UInt32 :=
  (a.toUInt32 <<< 24) ||| (b.toUInt32 <<< 16) ||| (c.toUInt32 <<< 8) ||| d.toUInt32

/-- The words of bytes, the highest byte of a word first; fewer than four bytes at
the end make no word. -/
def wordsBE : Bytes → List UInt32
  | a :: b :: c :: d :: rest => wordBE a b c d :: wordsBE rest
  | _ => []

/-- The words of bytes, the lowest byte of a word first. -/
def wordsLE : Bytes → List UInt32
  | a :: b :: c :: d :: rest => wordBE d c b a :: wordsLE rest
  | _ => []

/-- Pieces of a size, the last one maybe shorter; with size zero there is none. -/
def chunks (size : Nat) (bs : Bytes) : List Bytes :=
  if _h : size = 0 ∨ bs = [] then []
  else bs.take size :: chunks size (bs.drop size)
termination_by bs.length
decreasing_by
  have hs : size ≠ 0 := fun e => _h (.inl e)
  have hb : bs.length ≠ 0 := fun e => _h (.inr (List.length_eq_zero_iff.1 e))
  rw [List.length_drop]
  omega

end Bytes

end ClusterNode
