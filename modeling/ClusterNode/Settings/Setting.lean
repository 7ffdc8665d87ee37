import ClusterNode.Number.Digits
import ClusterNode.Number.Double

/-!
# Settings

A `Setting` is the value of a settings file in any of its formats. The names at
the root of a file may be routes into it, such as `cluster.nodes[0]`; what stands
there is merged into the tree by `Setting.place`.

Values are taken as text or as counts where one of these is wanted, and a record
is read from its members by name or in order.
-/

namespace ClusterNode

/-- A value in a settings file. -/
inductive Setting where
  | absent
  | bool (b : Bool)
  | int (n : Int)
  | float (x : Double)
  | text (s : String)
  | list (items : List Setting)
  | table (members : List (String × Setting))
  deriving Repr, Inhabited

/-- One step of a route into a tree of settings. -/
inductive Setting.Step where
  | key (name : String)
  /-- A position in a list; a negative one counts from the end. -/
  | index (i : Int)
  deriving DecidableEq, Repr

namespace Setting

/-- The members of a table, none of any other value. -/
def members : Setting → List (String × Setting)
  | .table ms => ms
  | _ => []

/-- The items of a list, none of any other value. -/
def items : Setting → List Setting
  | .list xs => xs
  | _ => []

/-- An integer, if it fits into 64 bits with a sign. -/
def ofInt? (n : Int) : Option Setting :=
  if Int64.minValue.toInt ≤ n ∧ n ≤ Int64.maxValue.toInt then some (.int n) else none

/-- The value of a name. -/
def lookup (name : String) (ms : List (String × Setting)) : Option Setting :=
  (ms.find? (·.1 == name)).map (·.2)

/-- Set the value of a name; a new name is the last one. -/
def assign (name : String) (v : Setting) : List (String × Setting) → List (String × Setting)
  | [] => [(name, v)]
  | (k, old) :: rest => if k = name then (k, v) :: rest else (k, old) :: assign name v rest

/-! ## Routes -/

/-- Whether a character may stand in a name of a route. -/
def isRouteChar (c : Char) : Bool := c.isAlphanum || c == '_' || c == '-'

/-- The name in front of a text, and what follows it. -/
def routeName (cs : List Char) : Option (String × List Char) :=
  match cs.takeWhile isRouteChar with
  | [] => none
  | name => some (String.ofList name, cs.dropWhile isRouteChar)

/-- Drop the blanks that may stand on both sides of a position. -/
def skipRouteBlank (cs : List Char) : List Char := cs.dropWhile fun c => c == ' ' || c == '\t'

/-- The position in front of a text, up to its bracket. -/
def routeIndex (cs : List Char) : Option (Int × List Char) :=
  let (negative, cs) := match skipRouteBlank cs with
    | '-' :: rest => (true, rest)
    | cs => (false, cs)
  match cs.takeWhile Char.isDigit, skipRouteBlank (cs.dropWhile Char.isDigit) with
  | [], _ => none
  | ds, ']' :: rest =>
    let n : Int := Digits.toNat 10 ds
    let i := if negative then -n else n
    if Int64.minValue.toInt ≤ i ∧ i ≤ Int64.maxValue.toInt then some (i, rest) else none
  | _, _ => none

/-- The steps after the first name of a route; `fuel` is its length. -/
def routeSteps (fuel : Nat) (cs : List Char) : Option (List Step) :=
  match fuel, cs with
  | _, [] => some []
  | fuel + 1, '.' :: rest => do
    let (name, rest) ← routeName rest
    some (.key name :: (← routeSteps fuel rest))
  | fuel + 1, '[' :: rest => do
    let (i, rest) ← routeIndex rest
    some (.index i :: (← routeSteps fuel rest))
  | _, _ => none

/-- The route of a text, if it is one. -/
def route? (s : String) : Option (List Step) := do
  let (name, rest) ← routeName s.toList
  some (.key name :: (← routeSteps rest.length rest))

/-- The value at the end of a route. -/
def follow : List Step → Setting → Option Setting
  | [], v => some v
  | .key name :: steps, v => (lookup name v.members).bind (follow steps)
  | .index i :: steps, v =>
    let n := if 0 ≤ i then i else v.items.length + i
    if n < 0 then none else (v.items[n.toNat]?).bind (follow steps)

mutual

/-- A value over another: tables are joined, and any other value replaces. -/
def merge (v : Setting) (into : Setting) : Setting :=
  match v with
  | .table ms => .table (mergeMembers ms into.members)
  | v => v

/-- Merge members in order. -/
def mergeMembers (ms into : List (String × Setting)) : List (String × Setting) :=
  match ms with
  | [] => into
  | (name, v) :: rest =>
    mergeMembers rest (assign name (merge v ((lookup name into).getD .absent)) into)

end

/-- Merge a value at the end of a route; what is in the way is replaced. -/
def place (v : Setting) : List Step → Setting → Setting
  | [], into => merge v into
  | .key name :: steps, into =>
    let old := (lookup name into.members).getD .absent
    .table (assign name (place v steps old) into.members)
  | .index i :: steps, into =>
    let xs := into.items
    let n := if 0 ≤ i then i else xs.length + i
    let xs := List.replicate (-n).toNat .absent ++ xs
    let xs := xs ++ List.replicate (n.toNat + 1 - xs.length) .absent
    .list (xs.modify n.toNat (place v steps))

/-- The tree of a file, from the names at its root. -/
def ofRoot (ms : List (String × Setting)) : Setting :=
  ms.foldl (fun tree (name, v) => place v ((route? name).getD [.key name]) tree) (.table [])

/-! ## Wanted kinds -/

/-- A value as text: a list or a table has none. -/
def asText? : Setting → Option String
  | .text s => some s
  | .bool b => some (toString b)
  | .int n => some (toString n)
  | .float x => some x.text
  | _ => none

/-- The count that a text spells. -/
def countOfText? (s : String) : Option UInt64 :=
  let lower := s.map Char.toLower
  if ["true", "on", "yes"].contains lower then some 1
  else if ["false", "off", "no"].contains lower then some 0
  else
    let ds := match s.toList with
      | '+' :: rest => rest
      | cs => cs
    match Digits.toNat? 10 ds with
    | some n => if n < UInt64.size then some (UInt64.ofNat n) else none
    | none => none

/-- A value as a count: a fraction is rounded, and what is below zero is refused
unless it is a fraction. -/
def asCount? : Setting → Option UInt64
  | .text s => countOfText? s
  | .bool b => some (if b then 1 else 0)
  | .int n => if 0 ≤ n ∧ n < UInt64.size then some (UInt64.ofNat n.toNat) else none
  | .float x => some x.toUInt64
  | _ => none

/-- A value as a list of texts. -/
def asTexts? : Setting → Option (List String)
  | .list xs => xs.mapM asText?
  | _ => none

/-- The members of the names of a record: by name, or in order with any more of
them left out. -/
def record? (names : List String) : Setting → Option (List (Option Setting))
  | .table ms => some (names.map fun name => lookup name ms)
  | .list xs =>
    some ((xs.take names.length).map some ++ List.replicate (names.length - xs.length) none)
  | _ => none

/-- A member with a default. -/
def orElse {α : Type} (read : Setting → Option α) (default : α) : Option Setting → Option α
  | none => some default
  | some v => read v

end Setting

end ClusterNode
