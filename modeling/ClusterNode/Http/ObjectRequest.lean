import ClusterNode.Json.Reader

/-!
# Requests about an object

The body of such a request is a JSON object with a member `path`, or an array of the
path alone. It is read from left to right, and the first fault decides whether the
text is refused as malformed or as a value of another type.
-/

namespace ClusterNode.Http

open ClusterNode.Json

/-- Why a body is refused. -/
inductive BodyError where
  /-- It is no JSON. -/
  | malformed
  /-- It is JSON up to the point where a value of another type stands. -/
  | mistyped
  deriving DecidableEq, Repr

/-- The HTTP status of a refused body. -/
def BodyError.status : BodyError → Nat
  | .malformed => 400
  | .mistyped => 422

namespace ObjectRequest

/-- The fault of a text in which a value of another type is expected. -/
def faultOf (cs : List Char) : BodyError :=
  match cs with
  | 'n' :: 'u' :: 'l' :: 'l' :: _ => .mistyped
  | 't' :: 'r' :: 'u' :: 'e' :: _ => .mistyped
  | 'f' :: 'a' :: 'l' :: 's' :: 'e' :: _ => .mistyped
  | '[' :: _ => .mistyped
  | '\x7b' :: _ => .mistyped
  | '"' :: rest =>
    match readString rest with
    | some (some _, _) => .mistyped
    | _ => .malformed
  | _ =>
    match readNumber cs with
    | some (n, _) => if n.isFinite then .mistyped else .malformed
    | none => .malformed

/-- A text, and what follows it. -/
def readText (cs : List Char) : Except BodyError (String × List Char) :=
  match skipSpace cs with
  | '"' :: rest =>
    match readString rest with
    | some (some s, rest) => .ok (s, rest)
    | _ => .error .malformed
  | rest => .error (faultOf rest)

/-- The text after a colon. -/
def afterColon (cs : List Char) : Except BodyError (List Char) :=
  match skipSpace cs with
  | ':' :: rest => .ok rest
  | _ => .error .malformed

/-- The members from a name on, after the opening brace or a comma, where `path` is
what was found so far. Every member takes characters, so that their number is fuel
enough. -/
def readMembers (fuel : Nat) (path : Option String) (cs : List Char) :
    Except BodyError (String × List Char) :=
  match fuel, skipSpace cs with
  | fuel + 1, '"' :: rest =>
    match readString rest with
    | some (some name, rest) => do
      if name = "path" ∧ path.isSome then .error .mistyped
      else
        let rest ← afterColon rest
        let (path, rest) ←
          if name = "path" then (readText rest).map fun (s, rest) => (some s, rest)
          else
            match readValue (2 * rest.length + 2) 0 rest with
            | some (_, rest) => .ok (path, rest)
            | none => .error .malformed
        match skipSpace rest, path with
        | ',' :: rest, _ => readMembers fuel path rest
        | '\x7d' :: rest, some path => .ok (path, rest)
        | '\x7d' :: _, none => .error .mistyped
        | _, _ => .error .malformed
    | _ => .error .malformed
  | _, _ => .error .malformed

/-- The path of the request, and what follows it. -/
def readRequest (cs : List Char) : Except BodyError (String × List Char) :=
  match skipSpace cs with
  | '\x7b' :: rest =>
    match skipSpace rest with
    | '\x7d' :: _ => .error .mistyped
    | rest => readMembers rest.length none rest
  | '[' :: rest =>
    match skipSpace rest with
    | ']' :: _ => .error .mistyped
    | rest => do
      let (path, rest) ← readText rest
      match skipSpace rest with
      | ']' :: rest => .ok (path, rest)
      | _ => .error .malformed
  | rest => .error (faultOf rest)

/-- The path of the request that a body holds. -/
def parse (body : String) : Except BodyError String := do
  let (path, rest) ← readRequest body.toList
  if (skipSpace rest).isEmpty then .ok path else .error .malformed

end ObjectRequest

end ClusterNode.Http
