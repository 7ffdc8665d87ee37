import ClusterNode.Crypto.Aes256

/-!
# AES-256 in Galois/counter mode

A message is masked with enciphered counters that start from the nonce, and is
followed by a tag of sixteen bytes. Opening gives a message only if the tag is the
one that sealing would have written.
-/

namespace ClusterNode.Gcm

open Aes256 (Block)

/-- An element of the field of 2 to the 128 elements; the highest bit of `hi` is
the constant term. -/
structure Element where
  hi : UInt64
  lo : UInt64
  deriving DecidableEq

/-- The sum of two elements. -/
def Element.add (x y : Element) : Element := ⟨x.hi ^^^ y.hi, x.lo ^^^ y.lo⟩

/-- An element times the generator. -/
def Element.shift (x : Element) : Element :=
  let lo := (x.lo >>> 1) ||| (x.hi <<< 63)
  let hi := x.hi >>> 1
  if x.lo &&& 1 = 1 then ⟨hi ^^^ 0xe100000000000000, lo⟩ else ⟨hi, lo⟩

/-- The product over the next bits of a factor, highest first. -/
def Element.mulWord (n : Nat) (bits : UInt64) (acc power : Element) : Element × Element :=
  match n with
  | 0 => (acc, power)
  | n + 1 =>
    let acc := if bits &&& 0x8000000000000000 = 0 then acc else acc.add power
    Element.mulWord n (bits <<< 1) acc power.shift

/-- The product of two elements. -/
def Element.mul (x y : Element) : Element :=
  let (acc, power) := Element.mulWord 64 x.hi ⟨0, 0⟩ y
  (Element.mulWord 64 x.lo acc power).1

/-- Two words of 32 bits as one. -/
def joinWords (a b : UInt32) : UInt64 := (a.toUInt64 <<< 32) ||| b.toUInt64

/-- The element of a block. -/
def Element.ofBlock (b : Block) : Element := ⟨joinWords b.c0 b.c1, joinWords b.c2 b.c3⟩

/-- The words of an element. -/
def Element.words (x : Element) : List UInt32 :=
  [(x.hi >>> 32).toUInt32, x.hi.toUInt32, (x.lo >>> 32).toUInt32, x.lo.toUInt32]

/-- The element of at most sixteen bytes, filled up with zeros. -/
def Element.ofBytes (bs : Bytes) : Element :=
  match Bytes.wordsBE (bs ++ List.replicate (16 - bs.length) 0) with
  | a :: b :: c :: d :: _ => ⟨joinWords a b, joinWords c d⟩
  | _ => ⟨0, 0⟩

/-- The hash of a masked message under a hash key. -/
def hash (h : Element) (masked : Bytes) : Element :=
  let x := (Bytes.chunks 16 masked).foldl
    (fun x piece => (x.add (.ofBytes piece)).mul h) (⟨0, 0⟩ : Element)
  (x.add ⟨0, UInt64.ofNat (masked.length * 8)⟩).mul h

/-- The block of a nonce and a counter. -/
def counterBlock (nonce : Bytes) (counter : UInt32) : Block :=
  match Bytes.wordsBE nonce with
  | a :: b :: c :: _ => ⟨a, b, c, counter⟩
  | _ => ⟨0, 0, 0, counter⟩

/-- The bytes of an enciphered counter. -/
def maskBlock (keys : Array UInt32) (nonce : Bytes) (counter : UInt32) : Bytes :=
  let b := Aes256.encipher keys (counterBlock nonce counter)
  Bytes.ofWordsBE [b.c0, b.c1, b.c2, b.c3]

/-- The pieces of a message masked with counters from one on. -/
def maskPieces (keys : Array UInt32) (nonce : Bytes) : UInt32 → List Bytes → List Bytes
  | _, [] => []
  | counter, piece :: rest =>
    List.zipWith (· ^^^ ·) piece (maskBlock keys nonce counter) ::
      maskPieces keys nonce (counter + 1) rest

/-- A message masked; masking twice gives it back. -/
def mask (keys : Array UInt32) (nonce message : Bytes) : Bytes :=
  (maskPieces keys nonce 2 (Bytes.chunks 16 message)).flatten

/-- The tag of a masked message. -/
def tag (keys : Array UInt32) (nonce masked : Bytes) : Bytes :=
  let h := Element.ofBlock (Aes256.encipher keys ⟨0, 0, 0, 0⟩)
  List.zipWith (· ^^^ ·) (Bytes.ofWordsBE (hash h masked).words) (maskBlock keys nonce 1)

/-- A message sealed under a key of 32 bytes and a nonce of twelve. -/
def encrypt (key nonce message : Bytes) : Bytes :=
  let keys := Aes256.expandKey key
  let masked := mask keys nonce message
  masked ++ tag keys nonce masked

/-- The message of a sealed one, if its tag is right. -/
def decrypt (key nonce sealed : Bytes) : Option Bytes :=
  if sealed.length < 16 then none
  else
    let keys := Aes256.expandKey key
    let masked := sealed.take (sealed.length - 16)
    if sealed.drop (sealed.length - 16) = tag keys nonce masked then
      some (mask keys nonce masked)
    else none

end ClusterNode.Gcm
