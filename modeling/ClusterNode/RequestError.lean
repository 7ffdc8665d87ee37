import ClusterNode.Object.Path

/-!
# Refused requests

The causes for which a node refuses a request, and the HTTP status of each.
-/

namespace ClusterNode

/-- Why a request is refused. -/
inductive RequestError where
  /-- It names no object. -/
  | invalidInput (cause : PathError)
  /-- The node is going down. -/
  | shuttingDown
  deriving DecidableEq, Repr

namespace RequestError

/-- The wording of a refusal. -/
def message : RequestError → String
  | .invalidInput cause => "Invalid input: " ++ cause.message
  | .shuttingDown => "Shutting down"

/-- The HTTP status of a refusal. -/
def status : RequestError → Nat
  | .invalidInput _ => 400
  | .shuttingDown => 503

end RequestError

end ClusterNode
