import ClusterNode.Json.Reader
import ClusterNode.Settings.Setting

/-!
# Settings in JSON

The root has to be an object, and every part of the text has to have a value. Of
members with one name the last one counts.
-/

namespace ClusterNode.Setting

/-- A number as a setting: an integer if it was written as one that fits into 64 bits
with a sign. -/
def ofNumber (n : Json.Number) : Setting :=
  let asFloat : Setting := n.double?.elim .absent .float
  match n with
  | .nat m => if m < twoTo 63 then .int m else asFloat
  | .neg m => .int (-m)
  | _ => asFloat

mutual

/-- A JSON value as a setting. -/
def ofJson : Json → Setting
  | .null => .absent
  | .skipped => .absent
  | .bool b => .bool b
  | .num n => ofNumber n
  | .str s => .text s
  | .arr xs => .list (ofItems xs)
  | .obj ms => .table (ofMembers [] ms)

/-- Items in order. -/
def ofItems : List Json → List Setting
  | [] => []
  | v :: rest => ofJson v :: ofItems rest

/-- Members put on top of others, in order. -/
def ofMembers (acc : List (String × Setting)) : List (String × Json) → List (String × Setting)
  | [] => acc
  | (k, v) :: rest => ofMembers (assign k (ofJson v) acc) rest

end

/-- The settings of a JSON file. -/
def ofJsonText (text : String) : Option Setting := do
  let v ← Json.parse text
  match v with
  | .obj ms => if v.readable then some (.ofRoot (ofMembers [] ms)) else none
  | _ => none

end ClusterNode.Setting
