import ClusterNode.Bytes

/-!
# The AES block cipher with a key of 256 bits

A block is four columns of four bytes. The substitution of a byte is computed
from its inverse in the field of 256 elements, so no table is written down.
-/

namespace ClusterNode.Aes256

/-- Twice an element of the field. -/
def double (x : UInt8) : UInt8 :=
  if x < 0x80 then x <<< 1 else (x <<< 1) ^^^ 0x1b

/-- The product of two elements, over the low bits of the second. -/
def mulBits (x y : UInt8) : Nat → UInt8
  | 0 => 0
  | n + 1 => (if y &&& 1 = 1 then x else 0) ^^^ mulBits (double x) (y >>> 1) n

/-- The product of two elements of the field. -/
def mul (x y : UInt8) : UInt8 := mulBits x y 8

/-- The inverse of an element, zero of zero: its power 254. -/
def inverse (x : UInt8) : UInt8 :=
  let x2 := mul x x
  let x4 := mul x2 x2
  let x8 := mul x4 x4
  let x16 := mul x8 x8
  let x32 := mul x16 x16
  let x64 := mul x32 x32
  let x128 := mul x64 x64
  mul x128 (mul x64 (mul x32 (mul x16 (mul x8 (mul x4 x2)))))

/-- A byte turned left. -/
def rotate (x n : UInt8) : UInt8 := (x <<< n) ||| (x >>> (8 - n))

/-- The substitution of a byte. -/
def substitute (x : UInt8) : UInt8 :=
  let i := inverse x
  i ^^^ rotate i 1 ^^^ rotate i 2 ^^^ rotate i 3 ^^^ rotate i 4 ^^^ 0x63

/-- The substitution of every byte. -/
def substitutions : Array UInt8 := (Array.range 256).map fun n => substitute (UInt8.ofNat n)

/-- The substitution of a byte, from the table. -/
def sub (x : UInt8) : UInt8 := substitutions.getD x.toNat 0

/-- A byte of a word, the highest being byte zero. -/
def byte (w : UInt32) (i : UInt32) : UInt8 := (w >>> (24 - 8 * i)).toUInt8

/-- The substitution of every byte of a word. -/
def subWord (w : UInt32) : UInt32 :=
  Bytes.wordBE (sub (byte w 0)) (sub (byte w 1)) (sub (byte w 2)) (sub (byte w 3))

/-- Add the next word to a key schedule; `factor` is the constant of its round. -/
def nextKeyWord (ws : Array UInt32) (factor : UInt8) : Array UInt32 :=
  let i := ws.size
  let last := ws.getD (i - 1) 0
  let mixed :=
    if i % 8 = 0 then
      subWord ((last <<< 8) ||| (last >>> 24)) ^^^ (factor.toUInt32 <<< 24)
    else if i % 8 = 4 then subWord last
    else last
  ws.push (ws.getD (i - 8) 0 ^^^ mixed)

/-- The key words of all rounds, four for each of the fifteen. -/
def expandKey (key : Bytes) : Array UInt32 :=
  ((List.range 52).foldl
    (fun (acc : Array UInt32 × UInt8) _ =>
      let ws := nextKeyWord acc.1 acc.2
      (ws, if acc.1.size % 8 = 0 then double acc.2 else acc.2))
    ((Bytes.wordsBE key).toArray, 1)).1

/-- Four columns. -/
structure Block where
  c0 : UInt32
  c1 : UInt32
  c2 : UInt32
  c3 : UInt32

/-- Add the key of a round. -/
def addKey (keys : Array UInt32) (round : Nat) (b : Block) : Block :=
  ⟨b.c0 ^^^ keys.getD (4 * round) 0, b.c1 ^^^ keys.getD (4 * round + 1) 0,
    b.c2 ^^^ keys.getD (4 * round + 2) 0, b.c3 ^^^ keys.getD (4 * round + 3) 0⟩

/-- The bytes of a column after substitution and shift of the rows. -/
def shifted (w x y z : UInt32) : UInt8 × UInt8 × UInt8 × UInt8 :=
  (sub (byte w 0), sub (byte x 1), sub (byte y 2), sub (byte z 3))

/-- A column with its bytes mixed. -/
def mixColumn : UInt8 × UInt8 × UInt8 × UInt8 → UInt32
  | (a, b, c, d) =>
    let all := a ^^^ b ^^^ c ^^^ d
    Bytes.wordBE (a ^^^ all ^^^ double (a ^^^ b)) (b ^^^ all ^^^ double (b ^^^ c))
      (c ^^^ all ^^^ double (c ^^^ d)) (d ^^^ all ^^^ double (d ^^^ a))

/-- A column of four bytes. -/
def column : UInt8 × UInt8 × UInt8 × UInt8 → UInt32
  | (a, b, c, d) => Bytes.wordBE a b c d

/-- Substitute and shift, and finish each column. -/
def round (finish : UInt8 × UInt8 × UInt8 × UInt8 → UInt32) (b : Block) : Block :=
  ⟨finish (shifted b.c0 b.c1 b.c2 b.c3), finish (shifted b.c1 b.c2 b.c3 b.c0),
    finish (shifted b.c2 b.c3 b.c0 b.c1), finish (shifted b.c3 b.c0 b.c1 b.c2)⟩

/-- A block enciphered under expanded keys. -/
def encipher (keys : Array UInt32) (b : Block) : Block :=
  let b := (List.range 13).foldl
    (fun b i => addKey keys (i + 1) (round mixColumn b)) (addKey keys 0 b)
  addKey keys 14 (round column b)

end ClusterNode.Aes256
