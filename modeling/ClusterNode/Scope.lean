import ClusterNode.Object.Path
import ClusterNode.Settings.Ini
import ClusterNode.Text.Lossy

/-!
# The scope of an object

The scope is the list of nodes that are expected to host an instance of an object.
It stands in the configuration file of the object, where `*` means every member of
the cluster; an object that says nothing is for all members. The cluster object
lists the members themselves, and the local node alone if it says nothing.
-/

namespace ClusterNode

/-- The nodes of a list written with blanks or commas between them, each once. -/
def splitNodes (s : String) : List String :=
  ((s.toList.splitOnP fun c => Text.isBlank c || c == ',').filterMap fun w =>
    if w.isEmpty then none else some (String.ofList w)).eraseDups

/-- The nodes of a list, with the members in the place of `*`, each once. -/
def expandNodes (members nodes : List String) : List String :=
  (nodes.flatMap fun n => if n = "*" then members else [n]).eraseDups

namespace Scope

/-- The text at the first of some routes that leads to one. -/
def firstText (settings : Setting) (routes : List String) : Option String :=
  routes.findSome? fun r => do (← Setting.follow (← Setting.route? r) settings).asText?

/-- The scope that a configuration gives to an object. -/
def ofSettings (path : ObjectPath) (localhost : String) (clusterNodes : List String)
    (settings : Setting) : List String :=
  if path.isCluster then
    match firstText settings ["cluster.nodes", "CLUSTER.nodes"] with
    | some nodes => splitNodes nodes
    | none => [localhost]
  else
    let members := if clusterNodes.isEmpty then [localhost] else clusterNodes
    match firstText settings ["DEFAULT.nodes", "default.nodes"] with
    | some nodes => expandNodes members (splitNodes nodes)
    | none => members

/-- The scope that a configuration file gives to an object; none if the file cannot
be read. -/
def ofFile? (path : ObjectPath) (localhost : String) (clusterNodes : List String)
    (content : Bytes) : Option (List String) :=
  (Ini.parse (Text.ofFile content)).map (ofSettings path localhost clusterNodes)

end Scope

end ClusterNode
