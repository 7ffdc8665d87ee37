import ClusterNode.Bytes
import ClusterNode.Number.Digits
import ClusterNode.Text.Lossy

/-!
# Targets of requests

A target is a path with a query, an address with both, or an authority alone, whose
path is empty. What follows a `#` is no part of it. The query of a form is a list of
names and values, `Target.form`.
-/

namespace ClusterNode.Http

/-- What a request is about. -/
structure Target where
  path : String
  query : String
  deriving DecidableEq, Repr

namespace Target

/-- Whether a number is in an interval. -/
def within (low high n : Nat) : Bool := low ≤ n && n ≤ high

/-! ## Paths and queries -/

/-- Whether a character may stand in a path. -/
def isPathChar (c : Char) : Bool :=
  let n := c.toNat
  n == 0x21 || n == 0x22 || within 0x24 0x3B n || n == 0x3D || within 0x40 0x5F n ||
    within 0x61 0x7E n || 0x80 ≤ n

/-- Whether a character may stand in a query. -/
def isQueryChar (c : Char) : Bool :=
  let n := c.toNat
  n == 0x21 || within 0x24 0x3B n || n == 0x3D || within 0x3F 0x7E n || 0x80 ≤ n

/-- The target of a path and a query. -/
def ofPathAndQuery? (cs : List Char) : Option Target :=
  let path := cs.takeWhile fun c => c != '?' && c != '#'
  let query := match cs.drop path.length with
    | '?' :: rest => rest.takeWhile (· != '#')
    | _ => []
  if path.all isPathChar && query.all isQueryChar then
    some ⟨if path.isEmpty then "/" else String.ofList path, String.ofList query⟩
  else none

/-! ## Addresses -/

/-- Whether a character may stand in a scheme. -/
def isSchemeChar (c : Char) : Bool :=
  c.isAlphanum || c == '+' || c == '-' || c == '.' || c == '~'

/-- The length of the longest scheme. -/
def longestScheme : Nat := 64

/-- The scheme of an address, which may be empty, and what follows its slashes. -/
def splitScheme? (cs : List Char) : Option (List Char × List Char) :=
  match cs.dropWhile isSchemeChar with
  | ':' :: '/' :: '/' :: rest => some (cs.takeWhile isSchemeChar, rest)
  | _ => none

/-- Whether a character ends an authority. -/
def endsAuthority (c : Char) : Bool := c == '/' || c == '?' || c == '#'

/-- Whether a character may stand anywhere in an authority. -/
def isAuthorityChar (c : Char) : Bool := c.isAlphanum || "!$&'()*+,-.;=_~".toList.contains c

/-- What was read of an authority: its colons and percent signs since a user or an
address in brackets, and whether such an address was opened and closed. -/
structure Authority where
  colons : Nat
  percent : Bool
  opened : Bool
  closed : Bool
  /-- Whether a user, with its mark, is all that was read. -/
  bareUser : Bool
  deriving DecidableEq, Repr

namespace Authority

/-- The longest address in brackets with a port has this many colons. -/
def mostColons : Nat := 8

/-- An authority after one more character. -/
def step? (a : Authority) (c : Char) : Option Authority :=
  let a := { a with bareUser := false }
  match c with
  | ':' => if a.colons < mostColons then some { a with colons := a.colons + 1 } else none
  | '[' => if a.percent || a.opened then none else some { a with opened := true }
  | ']' =>
    if a.opened && !a.closed then some { a with closed := true, colons := 0, percent := false }
    else none
  | '@' => some { a with colons := 0, percent := false, bareUser := true }
  | '%' => some { a with percent := true }
  | c => if isAuthorityChar c then some a else none

/-- Whether an authority may end: its brackets are closed, and its host has a name
without escapes and at most one port. -/
def isComplete (a : Authority) : Bool :=
  a.opened == a.closed && a.colons ≤ 1 && !a.bareUser && !a.percent

/-- Whether a text is an authority. -/
def accepts (cs : List Char) : Bool :=
  (cs.foldlM step? ⟨0, false, false, false, false⟩).any isComplete

end Authority

/-- The target of an address. -/
def ofAddress? (cs : List Char) : Option Target :=
  let authority := cs.takeWhile (!endsAuthority ·)
  if authority.isEmpty || !Authority.accepts authority then none
  else ofPathAndQuery? (cs.drop authority.length)

/-- The size of the longest target, in bytes. -/
def longest : Nat := 65534

/-- The target of a text. -/
def parse? (text : String) : Option Target :=
  if longest < text.utf8ByteSize then none
  else
    match text.toList with
    | [] => none
    | ['*'] => some ⟨"*", ""⟩
    | cs@('/' :: _) => ofPathAndQuery? cs
    | cs =>
      match splitScheme? cs with
      | some (scheme, rest) =>
        if longestScheme < scheme.length then none else ofAddress? rest
      | none => if cs.any endsAuthority || !Authority.accepts cs then none else some ⟨"", ""⟩

/-! ## Forms -/

/-- Put bytes in the place of their escapes, and blanks in the place of plus signs. -/
def unescape : List Char → Bytes
  | '+' :: rest => ' '.toNat.toUInt8 :: unescape rest
  | '%' :: a :: b :: rest =>
    match Digits.value? a, Digits.value? b with
    | some a, some b => (a * 16 + b).toUInt8 :: unescape rest
    | _, _ => '%'.toNat.toUInt8 :: unescape (a :: b :: rest)
  | c :: rest => Bytes.ofText c.toString ++ unescape rest
  | [] => []

/-- The text of a name or a value. -/
def component (cs : List Char) : String := Text.ofBytesLossy (unescape cs)

/-- The names and values of the query, in order. -/
def form (t : Target) : List (String × String) :=
  ((t.query.toList.splitOn '&').filter (!·.isEmpty)).map fun cs =>
    let name := cs.takeWhile (· != '=')
    (component name, component (cs.drop (name.length + 1)))

/-- The value of a name in a form, empty if it is missing; none if it is repeated. -/
def value? (form : List (String × String)) (name : String) : Option String :=
  match form.filter (·.1 == name) with
  | [] => some ""
  | [(_, v)] => some v
  | _ => none

end Target

end ClusterNode.Http
