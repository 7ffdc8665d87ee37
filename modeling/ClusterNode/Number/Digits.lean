/-!
# Digits

The numbers that digits stand for in a base up to sixteen, the characters whose code
points they spell, and the powers by which numbers are scaled: of two in a double, and
of ten in a decimal.
-/

namespace ClusterNode

/-- A power of two. -/
def twoTo (n : Nat) : Nat := Nat.pow 2 n

/-- A power of ten. -/
def tenTo (n : Nat) : Nat := Nat.pow 10 n

namespace Digits

/-- The value of a hexadecimal digit. -/
def value? (c : Char) : Option Nat :=
  if '0' ≤ c ∧ c ≤ '9' then some (c.toNat - '0'.toNat)
  else if 'a' ≤ c ∧ c ≤ 'f' then some (c.toNat - 'a'.toNat + 10)
  else if 'A' ≤ c ∧ c ≤ 'F' then some (c.toNat - 'A'.toNat + 10)
  else none

/-- Whether a character is a digit of a base. -/
def isOf (base : Nat) (c : Char) : Bool := (value? c).any (· < base)

/-- The number of digits in a base. -/
def toNat (base : Nat) (ds : List Char) : Nat :=
  ds.foldl (fun n d => n * base + (value? d).getD 0) 0

/-- The number of a text that is nothing but digits of a base. -/
def toNat? (base : Nat) (ds : List Char) : Option Nat :=
  if ds.isEmpty || !ds.all (isOf base) then none else some (toNat base ds)

/-- Whether a sign in front of a number is a minus, and what follows it. -/
def sign : List Char → Bool × List Char
  | '-' :: rest => (true, rest)
  | '+' :: rest => (false, rest)
  | cs => (false, cs)

/-- The integer of a text that is a sign, or none, and decimal digits. -/
def toInt? (cs : List Char) : Option Int := do
  let (negative, ds) := sign cs
  let n : Int := ← toNat? 10 ds
  some (if negative then -n else n)

/-- The character of a code point. -/
def char? (n : Nat) : Option Char :=
  if 0x110000 ≤ n ∨ (0xD800 ≤ n ∧ n < 0xE000) then none else some (Char.ofNat n)

/-- The character that `count` hexadecimal digits in front of a text spell. -/
def charOf? (count : Nat) (cs : List Char) : Option (Char × List Char) := do
  if cs.length < count then none
  else some (← char? (← toNat? 16 (cs.take count)), cs.drop count)

end Digits

end ClusterNode
