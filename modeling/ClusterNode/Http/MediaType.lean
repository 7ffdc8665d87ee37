/-!
# Media types

A media type is a type and a subtype, with parameters after a semicolon. The subtype
may end in a suffix after a plus sign. `MediaType.parse?` refuses a text whose
parameters are malformed, though nothing else looks at them.
-/

namespace ClusterNode.Http

/-- The type of a content, in lower case. -/
structure MediaType where
  type : String
  subtype : String
  suffix : Option String
  deriving DecidableEq, Repr

namespace MediaType

/-- Whether a character may stand in a name. -/
def isToken (c : Char) : Bool :=
  c.isAlphanum || "!#$%&'*+-.^_`|~".toList.contains c

/-- Whether a character may stand between quotes. -/
def isQuotable (c : Char) : Bool := 0x20 ≤ c.toNat && c != '"' && c.toNat < 0x7F

/-- Where a parameter goes on after its value. -/
inductive ParameterState where
  | start
  | name
  | valueStart
  | value
  | quotedStart
  | quoted
  | quotedEnd
  deriving DecidableEq, Repr

/-- The state after a character of the parameters. -/
def ParameterState.next? (s : ParameterState) (c : Char) : Option ParameterState :=
  match s with
  | .start => if c = ' ' then some .start else if isToken c then some .name else none
  | .name => if isToken c then some .name else if c = '=' then some .valueStart else none
  | .valueStart =>
    if c = '"' then some .quotedStart else if isToken c then some .value else none
  | .value => if isToken c then some .value else if c = ';' then some .start else none
  | .quotedStart => if isQuotable c || c = '"' then some .quoted else none
  | .quoted =>
    if c = '"' then some .quotedEnd else if isQuotable c then some .quoted else none
  | .quotedEnd =>
    if c = ';' then some .start else if c = ' ' then some .quotedEnd else none

/-- Whether the parameters may end in a state. -/
def ParameterState.isFinal : ParameterState → Bool
  | .start | .valueStart | .value | .quotedEnd => true
  | _ => false

/-- Whether a text is a list of parameters. -/
def areParameters (cs : List Char) : Bool :=
  match cs.foldlM ParameterState.next? ParameterState.start with
  | some s => s.isFinal
  | none => false

/-- Split a subtype at its last plus sign, unless it is its first character. -/
def splitSuffix (cs : List Char) : String × Option String :=
  let suffix := (cs.reverse.takeWhile (· != '+')).reverse
  let base := cs.take (cs.length - suffix.length - 1)
  if base.isEmpty || !cs.contains '+' then (String.ofList cs, none)
  else (String.ofList base, some (String.ofList suffix))

/-- The media type of a text. -/
def parse? (text : String) : Option MediaType :=
  let cs := text.toList.map Char.toLower
  let type := cs.takeWhile isToken
  match cs.drop type.length with
  | '/' :: rest =>
    let sub := rest.takeWhile isToken
    let (subtype, suffix) := splitSuffix sub
    let whole : MediaType := ⟨String.ofList type, subtype, suffix⟩
    if type.isEmpty then none
    else
      match rest.drop sub.length with
      | [] => some whole
      | ';' :: parameters =>
        if !sub.isEmpty && areParameters parameters then some whole else none
      | _ => none
  | _ => none

/-- Whether a content is JSON. -/
def isJson (m : MediaType) : Bool :=
  m.type == "application" && (m.subtype == "json" || m.suffix == some "json")

end MediaType

end ClusterNode.Http
