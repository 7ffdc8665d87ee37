/-!
# JSON values

`Json` keeps what decoding can observe: members in written order with their
repetitions, and whether a number was written as an integer. A part that is
well formed but has no value (a string with half a surrogate pair, a number
beyond every double, a container nested too deep) is `Json.skipped`: it may be
passed over, and reading it is an error.
-/

namespace ClusterNode

/-- A number as written. -/
inductive Json.Number where
  /-- An integer of 64 bits without a sign. -/
  | nat (n : Nat)
  /-- The integer `-n`, of 64 bits with a sign. -/
  | neg (n : Nat)
  /-- Any other number: `significand * 10 ^ exponent`, below zero if `negative`. -/
  | decimal (negative : Bool) (significand : Nat) (exponent : Int)
  deriving DecidableEq, Repr

/-- A JSON value. -/
inductive Json where
  | null
  | bool (b : Bool)
  | num (n : Json.Number)
  | str (s : String)
  | arr (items : List Json)
  | obj (members : List (String × Json))
  | skipped
  deriving Repr, Inhabited

namespace Json

/-- A number that is written with digits alone. -/
def nat (n : Nat) : Json := .num (.nat n)

mutual

/-- Whether every part of a value can be read. -/
def readable : Json → Bool
  | .arr items => readableItems items
  | .obj members => readableMembers members
  | .skipped => false
  | _ => true

/-- Whether every item can be read. -/
def readableItems : List Json → Bool
  | [] => true
  | v :: rest => readable v && readableItems rest

/-- Whether every member can be read. -/
def readableMembers : List (String × Json) → Bool
  | [] => true
  | (_, v) :: rest => readable v && readableMembers rest

end

/-- The value of the first member of a name. -/
def get? (name : String) : Json → Option Json
  | .obj members => (members.find? (·.1 == name)).map (·.2)
  | _ => none

end Json

end ClusterNode
