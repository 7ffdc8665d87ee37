import ClusterNode.Json.Value
import ClusterNode.Number.Digits
import ClusterNode.Number.Double

/-!
# Numbers of JSON

A number that is no integer of 64 bits keeps a significand of 64 bits: of its digits
those count that fit, and the exponent makes up for the others. Its value is computed
in doubles, the significand first, so that it may differ in the last place from the
double nearest to the number as written.
-/

namespace ClusterNode.Json

namespace Number

/-- Put digits behind a number while it fits into 64 bits; the digits that are left. -/
def absorb (n : Nat) : List Char → Nat × List Char
  | [] => (n, [])
  | d :: ds =>
    let next := n * 10 + (d.toNat - '0'.toNat)
    if next < UInt64.size then absorb next ds else (n, d :: ds)

/-- The decimal of integer digits, fraction digits and an exponent. -/
def decimalOf (negative : Bool) (whole fraction : List Char) (exponent : Int) : Number :=
  let (n, beyond) := absorb 0 whole
  let (n, ignored) := absorb n fraction
  .decimal negative n (exponent + beyond.length - (fraction.length - ignored.length : Nat))

/-- The number of a sign, integer digits, fraction digits and exponent. -/
def ofParts (negative : Bool) (whole : List Char) (fraction : Option (List Char))
    (exponent : Option Int) : Number :=
  let n := Digits.toNat 10 whole
  match fraction, exponent with
  | none, none =>
    if negative then if 0 < n ∧ n ≤ twoTo 63 then .neg n else decimalOf true whole [] 0
    else if n < UInt64.size then .nat n
    else decimalOf false whole [] 0
  | _, _ => decimalOf negative whole (fraction.getD []) (exponent.getD 0)

/-- The largest power of ten that is a double. -/
def largestPower : Nat := 308

/-- A double divided by a power of ten in steps of the largest one. -/
def shrink (x : Double) (n : Nat) : Double :=
  if n ≤ largestPower then x.overTenTo n
  else if x.isZero then x
  else shrink (x.overTenTo largestPower) (n - largestPower)
termination_by n
decreasing_by
  rename_i h _
  simp only [largestPower] at *
  omega

/-- A significand times a power of ten, if it is not beyond every double. -/
def scale? (significand : Nat) (exponent : Int) : Option Double :=
  let x := Double.nearest false significand 1
  if exponent < 0 then some (shrink x (-exponent).toNat)
  else if exponent.toNat ≤ largestPower then
    match x.timesTenTo exponent.toNat with
    | .infinite _ => none
    | x => some x
  else if significand = 0 then some x
  else none

/-- The value of a number, if it is not beyond every double. -/
def double? : Number → Option Double
  | .nat n => some (.nearest false n 1)
  | .neg n => some (.nearest true n 1)
  | .decimal negative significand exponent =>
    (scale? significand exponent).map fun x => if negative then x.negate else x

/-- Whether a number has a value. -/
def isFinite (n : Number) : Bool := n.double?.isSome

end Number

end ClusterNode.Json
