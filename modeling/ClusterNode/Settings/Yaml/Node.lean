import ClusterNode.Number.Double
import ClusterNode.Settings.Yaml.Token

/-!
# Nodes of YAML

A document is a tree of nodes: scalars, sequences, and mappings from nodes to nodes. A
plain scalar without a tag is what its text looks like. An alias stands for the node that
the last anchor of its name is on. Where a node is missing, it is a null.

The readers take the tokens that are left and give back what follows. Every step takes a
token or goes into a missing node, so that twice their number is fuel enough.
-/

namespace ClusterNode.Yaml

/-! ## Scalars -/

/-- A node. -/
inductive Node where
  | null
  /-- A node whose text is not what its tag says, or that is not complete. -/
  | bad
  | bool (b : Bool)
  | int (n : Int)
  /-- A number that is no integer, as it is written. -/
  | real (text : String)
  | text (s : String)
  | sequence (items : List Node)
  | mapping (members : List (Node × Node))
  deriving Repr, Inhabited

namespace Node

/-- An integer that fits into 64 bits. -/
def bounded? (n : Int) : Option Node :=
  if Int64.minValue.toInt ≤ n ∧ n ≤ Int64.maxValue.toInt then some (.int n) else none

/-- The integer of a sign or none and digits of a base. -/
def signed? (base : Nat) (cs : List Char) : Option Node := do
  let (negative, ds) := Digits.sign cs
  let n : Int ← Digits.toNat? base ds
  bounded? (if negative then -n else n)

/-- An integer, with or without its base in front. A plus may stand in front of another
sign. -/
def integer? (cs : List Char) : Option Node :=
  let based := match cs with
    | '0' :: 'x' :: ds => signed? 16 ds
    | '0' :: 'o' :: ds => signed? 8 ds
    | '+' :: rest => signed? 10 rest
    | _ => none
  based <|> signed? 10 cs

/-- The words for numbers that have no digits. -/
def numberWords : List String :=
  [".inf", ".Inf", ".INF", "+.inf", "+.Inf", "+.INF", "-.inf", "-.Inf", "-.INF", ".nan", ".NaN",
    ".NAN"]

/-- Whether a text is a number. -/
def isNumber (s : String) : Bool :=
  numberWords.contains s || (Double.ofChars? s.toList).isSome

/-- The node of a plain scalar without a tag. -/
def ofPlain (s : String) : Node :=
  if s = "" ∨ s = "~" ∨ s = "null" then .null
  else if ["true", "True", "TRUE"].contains s then .bool true
  else if ["false", "False", "FALSE"].contains s then .bool false
  else
    match integer? s.toList with
    | some n => n
    | none => if isNumber s then .real s else .text s

/-- The prefix of the tags of the kinds that are known. -/
def knownTags : String := "tag:yaml.org,2002:"

/-- The node of a plain scalar with a tag. -/
def ofTagged (t : Tag) (s : String) : Node :=
  if t.handle ≠ knownTags then .text s
  else
    match t.suffix with
    | "bool" => if s = "true" then .bool true else if s = "false" then .bool false else .bad
    | "int" => (signed? 10 s.toList).getD .bad
    | "float" => if isNumber s then .real s else .bad
    | "null" => if s = "~" ∨ s = "null" then .null else .bad
    | _ => .text s

/-- The node of a scalar. -/
def ofScalar (tag : Option Tag) (isPlain : Bool) (s : String) : Node :=
  if !isPlain then .text s
  else
    match tag with
    | some t => ofTagged t s
    | none => ofPlain s

/-- Whether two scalars are the same key. Collections are never taken for the same: they
cannot be keys of settings. -/
def sameKey : Node → Node → Bool
  | .bool a, .bool b => a == b
  | .int a, .int b => a == b
  | .real a, .real b => a == b
  | .text a, .text b => a == b
  | .null, .null => true
  | _, _ => false

end Node

/-! ## Mappings -/

/-- A mapping that is being read: its members, newest first, and the key whose value is to
come. A bad node is no key; what follows it is. -/
structure Members where
  members : List (Node × Node)
  key : Option Node

namespace Members

/-- A mapping with no members yet. -/
def empty : Members := ⟨[], none⟩

/-- Add a node, which is a key or the value of one; a key stands only once. -/
def add? (m : Members) (n : Node) : Option Members :=
  match m.key, n with
  | none, .bad => some m
  | none, n => some { m with key := some n }
  | some k, n => if m.members.any (·.1.sameKey k) then none else some ⟨(k, n) :: m.members, none⟩

/-- The mapping; a key without a value is left out. -/
def node (m : Members) : Node := .mapping m.members.reverse

end Members

/-! ## Reading -/

/-- What is left to read, with what the handles of tags and the names of anchors stand for:
each anchor has a number, and the nodes that are complete are found by it. -/
structure Reading where
  tokens : List Token
  tags : List (String × String)
  anchors : List (String × Nat)
  nodes : List (Nat × Node)

/-- What is in front of a node: a number if it has an anchor, and a tag. -/
structure Properties where
  anchor : Option Nat
  tag : Option Tag

namespace Reading

/-- The next token. -/
def head? (r : Reading) : Option Token := r.tokens.head?

/-- Go on behind the next token. -/
def skip (r : Reading) : Reading := { r with tokens := r.tokens.drop 1 }

/-- Whether the next token is one of some. -/
def isAt (r : Reading) (ts : List Token) : Bool := r.head?.any ts.contains

/-- Give the next number to the name of an anchor. -/
def addAnchor (r : Reading) (name : String) : Nat × Reading :=
  let n := r.anchors.length
  (n, { r with anchors := (name, n) :: r.anchors })

/-- The node that an alias stands for: a bad one while the anchored node is being read. -/
def aliased? (r : Reading) (name : String) : Option Node := do
  let (_, n) ← r.anchors.find? (·.1 == name)
  some (((r.nodes.find? (·.1 == n)).map (·.2)).getD .bad)

/-- A tag with what its handle stands for; the handle of a word has to be declared. -/
def resolve? (r : Reading) (t : Tag) : Option Tag :=
  let isLocal := t.handle = "" ∧ t.suffix = "!"
  match r.tags.find? (·.1 == t.handle) with
  | some (_, expansion) => some { t with handle := expansion }
  | none =>
    if t.handle = "!!" then some { t with handle := Node.knownTags }
    else if !isLocal && isClosedHandle t.handle.toList then none
    else some t

/-- The tag and the anchor in front of a node, in either order. -/
def properties? (r : Reading) : Option (Properties × Reading) := do
  match r.tokens with
  | .anchor name :: _ =>
    let (n, r) := r.skip.addAnchor name
    match r.tokens with
    | .tag t :: _ => some (⟨some n, some (← r.resolve? t)⟩, r.skip)
    | _ => some (⟨some n, none⟩, r)
  | .tag t :: _ =>
    let t ← r.resolve? t
    let r := r.skip
    match r.tokens with
    | .anchor name :: _ =>
      let (n, r) := r.skip.addAnchor name
      some (⟨some n, some t⟩, r)
    | _ => some (⟨none, some t⟩, r)
  | _ => some (⟨none, none⟩, r)

/-- Remember a node by the number of its anchor. -/
def remember (r : Reading) (p : Properties) (n : Node) : Reading :=
  match p.anchor with
  | some i => { r with nodes := (i, n) :: r.nodes }
  | none => r

mutual

/-- A node; `inBlock` if it may be a block, `loose` if a sequence may start without one. -/
def node? (fuel : Nat) (inBlock loose : Bool) (r : Reading) : Option (Node × Reading) :=
  match fuel with
  | 0 => none
  | fuel + 1 =>
    match r.tokens with
    | .alias name :: _ => do some (← r.aliased? name, r.skip)
    | _ => do
      let (p, r) ← r.properties?
      let (n, r) ← content? fuel inBlock loose p r
      some (n, r.remember p n)

/-- The content of a node behind its properties. -/
def content? (fuel : Nat) (inBlock loose : Bool) (p : Properties) (r : Reading) :
    Option (Node × Reading) :=
  match fuel, r.tokens with
  | _, .scalar isPlain s :: _ => some (.ofScalar p.tag isPlain s, r.skip)
  | fuel + 1, .flowSequenceStart :: _ => flowItems? fuel true [] r.skip
  | fuel + 1, .flowMappingStart :: _ => flowMembers? fuel true .empty r.skip
  | fuel + 1, t :: _ =>
    if t = .blockEntry ∧ loose then looseItems? fuel [] r
    else if t = .blockSequenceStart ∧ inBlock then blockItems? fuel [] r.skip
    else if t = .blockMappingStart ∧ inBlock then blockMembers? fuel .empty r.skip
    else if p.anchor.isSome ∨ p.tag.isSome then some (.ofScalar p.tag true "", r)
    else none
  | _, _ =>
    if p.anchor.isSome ∨ p.tag.isSome then some (.ofScalar p.tag true "", r) else none

/-- A node, or a null in front of some tokens. -/
def nodeUnless? (fuel : Nat) (inBlock loose : Bool) (ends : List Token) (r : Reading) :
    Option (Node × Reading) :=
  match fuel with
  | 0 => none
  | fuel + 1 => if r.isAt ends then some (.null, r) else node? fuel inBlock loose r

/-- The value behind a colon, or a null if there is none. -/
def value? (fuel : Nat) (inBlock loose : Bool) (ends : List Token) (r : Reading) :
    Option (Node × Reading) :=
  match fuel with
  | 0 => none
  | fuel + 1 =>
    if r.isAt [.value] then nodeUnless? fuel inBlock loose ends r.skip else some (.null, r)

/-- The items of a block, newest first in `acc`. -/
def blockItems? (fuel : Nat) (acc : List Node) (r : Reading) : Option (Node × Reading) :=
  match fuel, r.tokens with
  | fuel + 1, .blockEntry :: _ => do
    let (n, r) ← nodeUnless? fuel true false [.blockEntry, .blockEnd] r.skip
    blockItems? fuel (n :: acc) r
  | _ + 1, .blockEnd :: _ => some (.sequence acc.reverse, r.skip)
  | _, _ => none

/-- The items of a sequence that is not indented, newest first in `acc`. -/
def looseItems? (fuel : Nat) (acc : List Node) (r : Reading) : Option (Node × Reading) :=
  match fuel, r.tokens with
  | fuel + 1, .blockEntry :: _ => do
    let (n, r) ← nodeUnless? fuel true false [.blockEntry, .key, .value, .blockEnd] r.skip
    looseItems? fuel (n :: acc) r
  | _ + 1, _ => some (.sequence acc.reverse, r)
  | _, _ => none

/-- The members of a block. -/
def blockMembers? (fuel : Nat) (m : Members) (r : Reading) : Option (Node × Reading) :=
  match fuel, r.tokens with
  | fuel + 1, t :: _ =>
    let ends : List Token := [.key, .value, .blockEnd]
    if t = .blockEnd then some (m.node, r.skip)
    else do
      let (k, r) ←
        if t = .key then nodeUnless? fuel true true ends r.skip
        else if t = .value then some (.null, r)
        else none
      let (v, r) ← value? fuel true true ends r
      blockMembers? fuel (← (← m.add? k).add? v) r
  | _, _ => none

/-- The items in brackets, newest first in `acc`. An item may be a mapping of one member. -/
def flowItems? (fuel : Nat) (isFirst : Bool) (acc : List Node) (r : Reading) :
    Option (Node × Reading) :=
  match fuel with
  | 0 => none
  | fuel + 1 => do
    if r.isAt [.flowSequenceEnd] then some (.sequence acc.reverse, r.skip)
    else
      let r ← if isFirst then some r else if r.isAt [.flowEntry] then some r.skip else none
      if r.isAt [.flowSequenceEnd] then some (.sequence acc.reverse, r.skip)
      else if r.isAt [.key] then
        let r := r.skip
        let (k, r) ←
          if r.isAt [.value, .flowEntry, .flowSequenceEnd] then some (.null, r.skip)
          else node? fuel false false r
        let (v, r) ← value? fuel false false [.flowEntry, .flowSequenceEnd] r
        let m ← (← Members.empty.add? k).add? v
        flowItems? fuel false (m.node :: acc) r
      else
        let (n, r) ← node? fuel false false r
        flowItems? fuel false (n :: acc) r

/-- The members in braces. A key may stand without a value. -/
def flowMembers? (fuel : Nat) (isFirst : Bool) (m : Members) (r : Reading) :
    Option (Node × Reading) :=
  match fuel with
  | 0 => none
  | fuel + 1 => do
    if r.isAt [.flowMappingEnd] then some (m.node, r.skip)
    else
      let r ← if isFirst then some r else if r.isAt [.flowEntry] then some r.skip else none
      let ends : List Token := [.flowEntry, .flowMappingEnd]
      if r.isAt [.flowMappingEnd] then some (m.node, r.skip)
      else if r.isAt [.key] then
        let (k, r) ← nodeUnless? fuel false false (.value :: ends) r.skip
        let (v, r) ← value? fuel false false ends r
        flowMembers? fuel false (← (← m.add? k).add? v) r
      else if r.isAt [.value] then
        let (v, r) ← value? fuel false false ends r
        flowMembers? fuel false (← (← m.add? .null).add? v) r
      else
        let (k, r) ← node? fuel false false r
        flowMembers? fuel false (← (← m.add? k).add? .null) r

end

end Reading

/-! ## Documents -/

/-- What the directives in front of a document say of handles, and what follows them. The
version stands only once, and every directive puts an end to what those in front of it
said of handles. -/
def readDirectives? (hasVersion : Bool) (tags : List (String × String)) :
    List Token → Option (List (String × String) × List Token)
  | .directive .version :: rest => if hasVersion then none else readDirectives? true [] rest
  | .directive (.tag handle expansion) :: rest =>
    readDirectives? hasVersion [(handle, expansion)] rest
  | rest => some (tags, rest)

/-- Whether a token cannot start the content of a document. -/
def endsContent : Token → Bool
  | .directive _ | .documentStart | .documentEnd => true
  | _ => false

/-- The only document of a text, if there is one. -/
def document? (tokens : List Token) : Option (Option Node) := do
  let isEnd (t : Token) : Bool := t == .documentEnd
  match tokens.dropWhile isEnd with
  | [] => some none
  | tokens =>
    let (tags, rest) ← readDirectives? false [] tokens
    let hasMark := rest.head? == some .documentStart
    if rest.length < tokens.length ∧ !hasMark then none
    else
      let rest := if hasMark then rest.drop 1 else rest
      let r : Reading := ⟨rest, tags, [], []⟩
      let (n, r) ←
        if hasMark ∧ rest.head?.all endsContent then some (.null, r)
        else r.node? (4 * rest.length + 4) true false
      if (r.tokens.dropWhile isEnd).isEmpty then some (some n) else none

end ClusterNode.Yaml
