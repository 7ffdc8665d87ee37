import ClusterNode.Bytes

/-!
# Base64

Four characters of the standard alphabet for three bytes, filled up with `=`.
Decoding accepts exactly what encoding writes: the fill may not be missing, and
the bits that it cuts off have to be zero.
-/

namespace ClusterNode.Base64

/-- The characters of the values below 64. -/
def alphabet : List Char :=
  "ABCDEFGHIJKLMNOPQRSTUVWXYZabcdefghijklmnopqrstuvwxyz0123456789+/".toList

/-- The character of a value below 64. -/
def digit (n : Nat) : Char :=
  if n < 26 then Char.ofNat ('A'.toNat + n)
  else if n < 52 then Char.ofNat ('a'.toNat + (n - 26))
  else if n < 62 then Char.ofNat ('0'.toNat + (n - 52))
  else if n = 62 then '+'
  else '/'

/-- The value of a character. -/
def value? (c : Char) : Option Nat :=
  if 'A' ≤ c ∧ c ≤ 'Z' then some (c.toNat - 'A'.toNat)
  else if 'a' ≤ c ∧ c ≤ 'z' then some (c.toNat - 'a'.toNat + 26)
  else if '0' ≤ c ∧ c ≤ '9' then some (c.toNat - '0'.toNat + 52)
  else if c = '+' then some 62
  else if c = '/' then some 63
  else none

/-- The characters of bytes. -/
def encodeChars : Bytes → List Char
  | [] => []
  | [a] => [digit (a.toNat / 4), digit (a.toNat % 4 * 16), '=', '=']
  | [a, b] =>
    [digit (a.toNat / 4), digit (a.toNat % 4 * 16 + b.toNat / 16),
      digit (b.toNat % 16 * 4), '=']
  | a :: b :: c :: rest =>
    digit (a.toNat / 4) :: digit (a.toNat % 4 * 16 + b.toNat / 16) ::
      digit (b.toNat % 16 * 4 + c.toNat / 64) :: digit (c.toNat % 64) :: encodeChars rest

/-- The bytes of characters, newest first in `acc`. -/
def decodeChars (acc : Bytes) : List Char → Option Bytes
  | [] => some acc.reverse
  | [a, b, '=', '='] => do
    let a ← value? a
    let b ← value? b
    if b % 16 = 0 then some (UInt8.ofNat (a * 4 + b / 16) :: acc).reverse else none
  | [a, b, c, '='] => do
    let a ← value? a
    let b ← value? b
    let c ← value? c
    if c % 4 = 0 then
      some (UInt8.ofNat (b % 16 * 16 + c / 4) :: UInt8.ofNat (a * 4 + b / 16) :: acc).reverse
    else none
  | a :: b :: c :: d :: rest =>
    match value? a, value? b, value? c, value? d with
    | some a, some b, some c, some d =>
      decodeChars (UInt8.ofNat (c % 4 * 64 + d) :: UInt8.ofNat (b % 16 * 16 + c / 4) ::
        UInt8.ofNat (a * 4 + b / 16) :: acc) rest
    | _, _, _, _ => none
  | _ => none

/-- The text of bytes. -/
def encode (bs : Bytes) : String := String.ofList (encodeChars bs)

/-- The bytes of a text. -/
def decode (s : String) : Option Bytes := decodeChars [] s.toList

end ClusterNode.Base64
