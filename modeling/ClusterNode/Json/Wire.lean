import ClusterNode.Json.Value
import ClusterNode.SortedMap

/-!
# Records on the wire

`Wire` gives a type its JSON form. A record is read from an object, where an
unknown member is ignored and a known one may stand once, or from an array of
its members in declaration order, where members with a default may be missing
at the end.

A value is read `direct`ly from the text, or `whole` when its kind had to be
found first. A value taken whole must be readable in every part, and is read
more leniently in two places: an enumeration name may carry an empty object,
and a tag may be the position of its name.
-/

namespace ClusterNode

universe u

/-- How a value reaches its decoder. -/
inductive Json.Reading where
  | direct
  | whole
  deriving DecidableEq, Repr

/-- Types with a JSON form. -/
class Wire (α : Type u) where
  toJson : α → Json
  ofJson? : Json.Reading → Json → Option α

export Wire (toJson ofJson?)

namespace Json

/-- The members of the names of a record, none if the value is no such record. -/
def record? (names : List String) : Json → Option (List (Option Json))
  | .obj members =>
    if names.all fun name => (members.filter (·.1 == name)).length ≤ 1 then
      some (names.map fun name => (members.find? (·.1 == name)).map (·.2))
    else none
  | .arr items =>
    if items.length ≤ names.length then
      some (items.map some ++ List.replicate (names.length - items.length) none)
    else none
  | _ => none

/-- A member that has to be present. -/
def required {α : Type u} [Wire α] (r : Reading) (v : Option Json) : Option α :=
  v.bind (ofJson? r)

/-- A member with a default. -/
def defaulted {α : Type u} [Wire α] (r : Reading) (default : α) : Option Json → Option α
  | none => some default
  | some v => ofJson? r v

/-- A member for which null says that there is none. -/
def optional {α : Type u} [Wire α] (r : Reading) : Option Json → Option (Option α)
  | none => some none
  | some .null => some none
  | some v => (ofJson? r v).map some

/-- A value of an enumeration, by its name. -/
def enumeration? {α : Type u} (all : List α) (name : α → String) (r : Reading) :
    Json → Option α
  | .str s => all.find? (name · == s)
  | .obj [(s, .null)] => all.find? (name · == s)
  | .obj [(s, .obj [])] => if r = .whole then all.find? (name · == s) else none
  | _ => none

/-- The tag of a value that is taken whole, and the value without it. -/
def tagged? {α : Type u} (tag : String) (all : List α) (name : α → String) (r : Reading)
    (v : Json) : Option (α × Json) :=
  let named : Json → Option α
    | .str s => all.find? (name · == s)
    | .num (.nat n) => if r = .whole then all[n]? else none
    | _ => none
  match v with
  | .obj members => do
    let [(_, t)] := members.filter (·.1 == tag) | none
    let rest := Json.obj (members.filter (·.1 != tag))
    if rest.readable then some (← named t, rest) else none
  | .arr (t :: rest) => do
    if (Json.arr rest).readable then some (← named t, .arr rest) else none
  | _ => none

/-- Members in the order given, without the absent ones. -/
def members (ms : List (Option (String × Json))) : Json := .obj (ms.filterMap id)

/-- A member that is always written. -/
def member {α : Type u} [Wire α] (name : String) (v : α) : Option (String × Json) :=
  some (name, toJson v)

/-- A member that is left out when there is none. -/
def memberOpt {α : Type u} [Wire α] (name : String) (v : Option α) : Option (String × Json) :=
  v.map fun v => (name, toJson v)

end Json

instance : Wire String where
  toJson := .str
  ofJson? _
    | .str s => some s
    | _ => none

instance : Wire Bool where
  toJson := .bool
  ofJson? _
    | .bool b => some b
    | _ => none

instance : Wire UInt64 where
  toJson n := .nat n.toNat
  ofJson? _
    | .num (.nat n) => if n < UInt64.size then some (UInt64.ofNat n) else none
    | _ => none

instance : Wire UInt32 where
  toJson n := .nat n.toNat
  ofJson? _
    | .num (.nat n) => if n < UInt32.size then some (UInt32.ofNat n) else none
    | _ => none

instance {α : Type u} [Wire α] : Wire (List α) where
  toJson xs := .arr (xs.map toJson)
  ofJson? r
    | .arr items => items.mapM (ofJson? r)
    | _ => none

instance {α : Type u} [Wire α] : Wire (SortedMap String α) where
  toJson m := .obj (m.entries.map fun e => (e.1, toJson e.2))
  ofJson? r
    | .obj members => do
      some (.ofList (← members.mapM fun e => do some (e.1, ← ofJson? r e.2)))
    | _ => none

end ClusterNode
