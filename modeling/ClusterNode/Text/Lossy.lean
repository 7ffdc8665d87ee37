import ClusterNode.Bytes

/-!
# Text of arbitrary bytes

Bytes that are not UTF-8 are still read as text: each longest start of a character
that is broken off, and each byte that starts none, becomes one replacement
character. A byte order mark in front of a file is no part of its text.
-/

namespace ClusterNode.Text

/-- The character that stands for broken ones. -/
def replacement : Char := '\uFFFD'

/-- Whether a byte may follow in a character. -/
def isContinuation (b : UInt8) : Bool := 0x80 ≤ b && b ≤ 0xBF

/-- Whether a byte may follow a first one: some would spell a character longer than
needed, half a surrogate pair, or one beyond the last. -/
def isSecond (first b : UInt8) : Bool :=
  if first = 0xE0 then 0xA0 ≤ b && b ≤ 0xBF
  else if first = 0xED then 0x80 ≤ b && b ≤ 0x9F
  else if first = 0xF0 then 0x90 ≤ b && b ≤ 0xBF
  else if first = 0xF4 then 0x80 ≤ b && b ≤ 0x8F
  else isContinuation b

/-- The number of bytes of the character that a byte starts, zero if it starts none. -/
def lengthOf (first : UInt8) : Nat :=
  if first < 0x80 then 1
  else if 0xC2 ≤ first && first ≤ 0xDF then 2
  else if 0xE0 ≤ first && first ≤ 0xEF then 3
  else if 0xF0 ≤ first && first ≤ 0xF4 then 4
  else 0

/-- The bytes that follow a first one in its character. -/
def following (first : UInt8) (rest : Bytes) : Bytes :=
  match rest with
  | b :: more =>
    if isSecond first b then b :: (more.takeWhile isContinuation).take (lengthOf first - 2)
    else []
  | [] => []

/-- The character of its bytes. -/
def charOf (first : UInt8) (tail : Bytes) : Char :=
  let lead := match lengthOf first with
    | 2 => first.toNat - 0xC0
    | 3 => first.toNat - 0xE0
    | _ => first.toNat - 0xF0
  Char.ofNat (tail.foldl (fun n b => n * 64 + (b.toNat - 0x80)) lead)

/-- The characters of bytes, none where one is broken; each step consumes a byte, so
their number is fuel enough. -/
def decode (fuel : Nat) (bs : Bytes) : List (Option Char) :=
  match fuel, bs with
  | fuel + 1, b :: rest =>
    match lengthOf b with
    | 0 => none :: decode fuel rest
    | 1 => some (Char.ofNat b.toNat) :: decode fuel rest
    | n =>
      let tail := following b rest
      (if tail.length + 1 = n then some (charOf b tail) else none) ::
        decode fuel (rest.drop tail.length)
  | _, _ => []

/-- The text of bytes. -/
def ofBytesLossy (bs : Bytes) : String :=
  match Bytes.toText? bs with
  | some s => s
  | none => String.ofList ((decode bs.length bs).map (·.getD replacement))

/-- Drop a byte order mark in front. -/
def dropMark : Bytes → Bytes
  | 0xEF :: 0xBB :: 0xBF :: rest => rest
  | bs => bs

/-- The text of the content of a file. -/
def ofFile (content : Bytes) : String := ofBytesLossy (dropMark content)

end ClusterNode.Text
