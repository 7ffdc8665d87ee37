import ClusterNode.Number.Digits

/-!
# Doubles

A `Double` is a number of binary floating point with 53 bits. `Double.nearest`
rounds a quotient to one, ties to even, and products and quotients by powers of ten
are rounded by it; `Double.text` writes the fewest digits that read back as the same
double, and never an exponent.
-/

namespace ClusterNode

/-- A double: `mantissa * 2 ^ exponent`, below zero if `negative`, or no number of
that form. -/
inductive Double where
  | finite (negative : Bool) (mantissa : Nat) (exponent : Int)
  | infinite (negative : Bool)
  | nan
  deriving DecidableEq, Repr

namespace Double

/-- A quotient rounded to an integer, a half to the even one. -/
def roundQuotient (a b : Nat) : Nat :=
  let q := a / b
  let r := a % b
  if 2 * r < b then q
  else if b < 2 * r then q + 1
  else if q % 2 = 0 then q
  else q + 1

/-- A quotient divided by a power of two. -/
def scaled (a b : Nat) (e : Int) : Nat × Nat :=
  if 0 ≤ e then (a, b * twoTo e.toNat) else (a * twoTo (-e).toNat, b)

/-- The numbers of a format of floating point: how many bits a mantissa has, and the
exponents between which it may be scaled. -/
structure Format where
  bits : Nat
  least : Int
  greatest : Int
  deriving DecidableEq, Repr

namespace Format

/-- Doubles themselves. -/
def double : Format := ⟨53, -1074, 971⟩

/-- Numbers of half the size, every one of which is a double too. -/
def single : Format := ⟨24, -149, 104⟩

end Format

/-- The number of a format nearest to a quotient. -/
def nearestIn (f : Format) (negative : Bool) (a b : Nat) : Double :=
  if a = 0 then .finite negative 0 0
  else
    let guess : Int := (a.log2 : Int) - b.log2 - (f.bits - 1 : Nat)
    let (a', b') := scaled a b guess
    let e := max (if a' / b' < twoTo (f.bits - 1) then guess - 1 else guess) f.least
    let (a', b') := scaled a b e
    let m := roundQuotient a' b'
    let (m, e) := if m = twoTo f.bits then (twoTo (f.bits - 1), e + 1) else (m, e)
    if f.greatest < e then .infinite negative else .finite negative m e

/-- The double nearest to a quotient. -/
def nearest (negative : Bool) (a b : Nat) : Double := nearestIn .double negative a b

/-- The number of a format nearest to `m * 10 ^ e`; far beyond the range the powers are
not computed. -/
def ofDecimalIn (f : Format) (negative : Bool) (m : Nat) (e : Int) : Double :=
  let size : Int := (Nat.toDigits 10 m).length + e
  if m = 0 ∨ size < -400 then .finite negative 0 0
  else if 400 < size then .infinite negative
  else nearestIn f negative (m * tenTo e.toNat) (tenTo (-e).toNat)

/-- The double nearest to `m * 10 ^ e`. -/
def ofDecimal (negative : Bool) (m : Nat) (e : Int) : Double := ofDecimalIn .double negative m e

/-- The number of a format nearest to a decimal: a sign or none, digits with a point
among or beside them, and maybe an exponent. -/
def ofCharsIn? (f : Format) (cs : List Char) : Option Double := do
  let (negative, body) := Digits.sign cs
  let isMark (c : Char) := c == 'e' || c == 'E'
  let mantissa := body.takeWhile fun c => !isMark c
  let whole := mantissa.takeWhile (· != '.')
  let fraction := (mantissa.dropWhile (· != '.')).drop 1
  let e ← match body.dropWhile fun c => !isMark c with
    | [] => some 0
    | _ :: ds => Digits.toInt? ds
  some (ofDecimalIn f negative (← Digits.toNat? 10 (whole ++ fraction)) (e - fraction.length))

/-- The double nearest to a decimal. -/
def ofChars? (cs : List Char) : Option Double := ofCharsIn? .double cs

/-- A finite number of any format, written as a double. -/
def widen : Double → Double
  | .finite negative m e =>
    let (a, b) := scaled m 1 (-e)
    nearest negative a b
  | x => x

/-- The number of half the size nearest to a decimal. -/
def ofCharsSingle? (cs : List Char) : Option Double := (ofCharsIn? .single cs).map widen

/-- Whether a double is zero of either sign. -/
def isZero : Double → Bool
  | .finite _ m _ => m == 0
  | _ => false

/-- A double with the other sign. -/
def negate : Double → Double
  | .finite negative m e => .finite (!negative) m e
  | .infinite negative => .infinite !negative
  | .nan => .nan

/-- A power of ten as a double. -/
def powerOfTen (n : Nat) : Double := ofDecimal false 1 n

/-- The double nearest to the product of a finite double and a power of ten, itself
rounded. -/
def timesTenTo (x : Double) (n : Nat) : Double :=
  match x, powerOfTen n with
  | .finite negative m e, .finite _ p f =>
    let (a, b) := scaled (m * p) 1 (-(e + f))
    nearest negative a b
  | _, y => y

/-- The double nearest to the quotient of a finite double and a power of ten, itself
rounded. -/
def overTenTo (x : Double) (n : Nat) : Double :=
  match x, powerOfTen n with
  | .finite negative m e, .finite _ p f =>
    let (a, b) := scaled m p (f - e)
    nearest negative a b
  | x, _ => x

/-- The nearest number without sign of 64 bits, a half away from zero; beyond the
range it is the end of the range. -/
def toUInt64 : Double → UInt64
  | .finite false m e =>
    let (a, b) := scaled m 1 (-e)
    UInt64.ofNat (min ((2 * a + b) / (2 * b)) (UInt64.size - 1))
  | .infinite false => UInt64.ofNat (UInt64.size - 1)
  | _ => 0

/-- The quotient of a finite double without sign. -/
def quotient (m : Nat) (e : Int) : Nat × Nat := scaled m 1 (-e)

/-- The least `k` with a quotient below `10 ^ k`. -/
def magnitude (a b : Nat) : Int :=
  if b ≤ a then (Nat.toDigits 10 (a / b)).length
  else
    let zeros := ((List.range 400).find? fun j => b ≤ a * tenTo (j + 1)).getD 0
    Int.neg zeros

/-- The neighbours of a quotient on the grid of multiples of `10 ^ u`, nearer one
first. -/
def neighbours (a b : Nat) (u : Int) : List Nat :=
  let a := a * tenTo (-u).toNat
  let b := b * tenTo u.toNat
  let q := a / b
  if 2 * (a % b) < b then [q, q + 1] else [q + 1, q]

/-- The fewest digits, and their unit as a power of ten, that read back as a finite
double. A double just below a power of ten may read back from that power. -/
def shortest (m : Nat) (e : Int) : Nat × Int :=
  let (a, b) := quotient m e
  let k := magnitude a b
  let hit (n : Nat) : Option (Nat × Int) :=
    let u := k - (n + 1)
    let hits := (neighbours a b u).filter fun c => ofDecimal false c u == .finite false m e
    hits.head?.map fun c => if c % 10 = 0 then (c / 10, u + 1) else (c, u)
  ((List.range 17).findSome? hit).getD (0, 0)

/-- Digits times a power of ten without an exponent. -/
def positional (digits : Nat) (unit : Int) : String :=
  let ds := Nat.toDigits 10 digits
  let places := (-unit).toNat
  let ds := ds ++ List.replicate unit.toNat '0'
  if places = 0 then String.ofList ds
  else
    let ds := List.replicate (places + 1 - ds.length) '0' ++ ds
    String.ofList (ds.take (ds.length - places) ++ '.' :: ds.drop (ds.length - places))

/-- The text of a double. -/
def text : Double → String
  | .nan => "NaN"
  | .infinite negative => if negative then "-inf" else "inf"
  | .finite negative m e =>
    let (digits, unit) := if m = 0 then (0, 0) else shortest m e
    (if negative then "-" else "") ++ positional digits unit

end Double

end ClusterNode
