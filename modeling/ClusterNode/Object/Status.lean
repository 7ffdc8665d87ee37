import ClusterNode.Json.Wire

/-!
# Status values

`Status.add` and `Provisioned.and` are joins: values are ranked, the higher rank
wins, and two different values of one rank give the value of conflict. Folding
either over a set therefore does not depend on the order.
-/

namespace ClusterNode

/-- Availability or overall status of an instance or object. -/
inductive Status where
  | undef
  | notApplicable
  | up
  | down
  | warn
  | standbyUp
  | standbyDown
  deriving DecidableEq, Repr, Inhabited

namespace Status

/-- The written form of a status. -/
def name : Status → String
  | .undef => "undef"
  | .notApplicable => "n/a"
  | .up => "up"
  | .down => "down"
  | .warn => "warn"
  | .standbyUp => "stdby up"
  | .standbyDown => "stdby down"

/-- Every status. -/
def all : List Status := [.undef, .notApplicable, .up, .down, .warn, .standbyUp, .standbyDown]

instance : Wire Status where
  toJson s := .str s.name
  ofJson? := Json.enumeration? all name

/-- A standby state counts as its counterpart. -/
def normalized : Status → Status
  | .standbyUp => .up
  | .standbyDown => .down
  | s => s

/-- The rank of a status in a join. -/
def rank : Status → Nat
  | .undef => 0
  | .notApplicable => 1
  | .up | .down | .standbyUp | .standbyDown => 2
  | .warn => 3

/-- The join of two statuses; `up` with `down` is `warn`. -/
def add (a b : Status) : Status :=
  let a := a.normalized
  let b := b.normalized
  if a = b then a
  else if b.rank < a.rank then a
  else if a.rank < b.rank then b
  else .warn

end Status

/-- Whether an instance or object is provisioned. -/
inductive Provisioned where
  | undef
  | notApplicable
  | yes
  | no
  | mixed
  deriving DecidableEq, Repr, Inhabited

namespace Provisioned

/-- The written form of a provisioned state. -/
def name : Provisioned → String
  | .undef => "undef"
  | .notApplicable => "n/a"
  | .yes => "true"
  | .no => "false"
  | .mixed => "mixed"

/-- Every provisioned state. -/
def all : List Provisioned := [.undef, .notApplicable, .yes, .no, .mixed]

instance : Wire Provisioned where
  toJson s := .str s.name
  ofJson? := Json.enumeration? all name

/-- The rank of a provisioned state in a join. -/
def rank : Provisioned → Nat
  | .undef => 0
  | .notApplicable => 1
  | .yes | .no => 2
  | .mixed => 3

/-- The join of two provisioned states; `true` with `false` is `mixed`. -/
def and (a b : Provisioned) : Provisioned :=
  if a = b then a
  else if b.rank < a.rank then a
  else if a.rank < b.rank then b
  else .mixed

end Provisioned

/-- How well the instances of an object are placed on its nodes. -/
inductive Placement where
  | notApplicable
  | optimal
  | nonOptimal
  deriving DecidableEq, Repr, Inhabited

namespace Placement

/-- The written form of a placement. -/
def name : Placement → String
  | .notApplicable => "n/a"
  | .optimal => "optimal"
  | .nonOptimal => "non-optimal"

/-- Every placement. -/
def all : List Placement := [.notApplicable, .optimal, .nonOptimal]

instance : Wire Placement where
  toJson s := .str s.name
  ofJson? := Json.enumeration? all name

end Placement

/-- How many of the instances of an object are frozen. -/
inductive Frozen where
  | notApplicable
  | frozen
  | thawed
  | mixed
  deriving DecidableEq, Repr, Inhabited

namespace Frozen

/-- The written form of a frozen state. -/
def name : Frozen → String
  | .notApplicable => "n/a"
  | .frozen => "frozen"
  | .thawed => "thawed"
  | .mixed => "mixed"

/-- Every frozen state. -/
def all : List Frozen := [.notApplicable, .frozen, .thawed, .mixed]

instance : Wire Frozen where
  toJson s := .str s.name
  ofJson? := Json.enumeration? all name

end Frozen

end ClusterNode
