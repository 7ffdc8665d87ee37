import ClusterNode.Settings.Setting
import ClusterNode.Settings.Yaml.Node

/-!
# YAML files

The only document of a file has to be a mapping; a file without one says nothing. A key
is a scalar, whose text is the name of the setting.
-/

namespace ClusterNode.Yaml

namespace Node

/-- The name that a key stands for. -/
def name? : Node → Option String
  | .text s => some s
  | .real s => some s
  | .int n => some (toString n)
  | .bool b => some (toString b)
  | _ => none

mutual

/-- The setting of a node. -/
def setting? : Node → Option Setting
  | .null => some .absent
  | .bad => some .absent
  | .bool b => some (.bool b)
  | .int n => some (.int n)
  | .real s => do some (.float (← Double.ofChars? s.toList))
  | .text s => some (.text s)
  | .sequence items => do some (.list (← settings? items))
  | .mapping members => do some (.table (← membersOf? [] members))

/-- The settings of items. -/
def settings? : List Node → Option (List Setting)
  | [] => some []
  | n :: rest => do some ((← setting? n) :: (← settings? rest))

/-- The settings of members, put on top of others in order. -/
def membersOf? (acc : List (String × Setting)) :
    List (Node × Node) → Option (List (String × Setting))
  | [] => some acc
  | (k, n) :: rest => do membersOf? (Setting.assign (← name? k) (← setting? n) acc) rest

end

end Node

/-- The settings of a file. -/
def parse (text : String) : Option Setting := do
  match ← document? (← tokens? text) with
  | none => some (.table [])
  | some n =>
    let .table members ← n.setting? | none
    some (.ofRoot members)

end ClusterNode.Yaml
