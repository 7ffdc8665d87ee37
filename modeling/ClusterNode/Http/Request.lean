import ClusterNode.Http.MediaType
import ClusterNode.Http.Target

/-!
# Requests

A request has a method, which is any token, a target, a body and maybe the type of
its content. `Request.ofParts?` refuses what cannot be sent at all.
-/

namespace ClusterNode.Http

/-- A request. -/
structure Request where
  method : String
  target : Target
  body : String
  contentType : Option String
  deriving DecidableEq, Repr

namespace Request

/-- Whether a text can be a method. -/
def isMethod (s : String) : Bool := !s.isEmpty && s.toList.all MediaType.isToken

/-- Whether a character may stand in the value of a header. -/
def isHeaderChar (c : Char) : Bool := c == '\t' || (0x20 ≤ c.toNat && c.toNat != 0x7F)

/-- The request of its parts. -/
def ofParts? (method target body : String) (contentType : Option String) : Option Request := do
  let target ← Target.parse? target
  if isMethod method && contentType.all (·.toList.all isHeaderChar) then
    some ⟨method, target, body, contentType⟩
  else none

end Request

end ClusterNode.Http
