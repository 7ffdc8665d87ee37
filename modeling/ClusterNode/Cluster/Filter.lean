import ClusterNode.Cluster.Tree
import ClusterNode.Object.Path
import ClusterNode.Text.Expression

/-!
# Filters on the cluster tree

Both filters drop instances and objects by their key and touch nothing else.
-/

namespace ClusterNode.ClusterStatus

/-- Keep the instances and objects whose key passes a test. -/
def retain (s : ClusterStatus) (keep : String → Bool) : ClusterStatus :=
  { s with
    nodes := s.nodes.mapValues fun d => { d with instances := d.instances.filter fun k _ => keep k }
    objects := s.objects.filter fun k _ => keep k }

/-- Keep the objects that a selector selects; a blank selector keeps all. -/
def withSelector (s : ClusterStatus) (selector : String) : ClusterStatus :=
  if (Text.trim selector.toList).isEmpty then s else s.retain (Text.selects selector)

/-- Keep the objects that a selector selects, with an engine to test its patterns as regular
expressions. -/
def withSelectorBy (engine : Text.Engine) (s : ClusterStatus) (selector : String) :
    ClusterStatus :=
  let selector := Text.trim selector.toList
  if selector.isEmpty then s
  else s.retain fun key => (engine.tests selector).any fun test => test key.toList

/-- Whether a key is an object path of a namespace. -/
def inSpace (space key : String) : Bool :=
  match ObjectPath.parse key with
  | .ok p => p.space == space
  | .error _ => false

/-- Keep the objects of a namespace; an empty one keeps all. -/
def withNamespace (s : ClusterStatus) (space : String) : ClusterStatus :=
  if space = "" then s else s.retain (inSpace space)

end ClusterNode.ClusterStatus
