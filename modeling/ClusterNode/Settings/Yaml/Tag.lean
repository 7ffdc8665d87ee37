import ClusterNode.Settings.Yaml.Cursor

/-!
# Directives and tags of YAML

A tag says of what kind a node is. It is written in full or as a handle and a suffix, and
a directive in front of a document says what a handle stands for.
-/

namespace ClusterNode.Yaml

/-- Whether a character may stand in a tag that is written in full. -/
def isUriChar (c : Char) : Bool :=
  (isWordChar c && c != '_') || "#;/?:@&=+$,_.!~*'()[]%".toList.contains c

/-- Whether a character may stand in the suffix of a tag. -/
def isSuffixChar (c : Char) : Bool := isUriChar c && !isFlowMark c && c != '!'

/-! ## Escapes -/

/-- The byte of an escape in front of a text. -/
def escapedByte? : List Char → Option Nat
  | '%' :: a :: b :: _ => Digits.toNat? 16 [a, b]
  | _ => none

/-- The number of bytes of the character that a byte starts. -/
def bytesOf? (first : Nat) : Option Nat :=
  if first < 0x80 then some 1
  else if first < 0xC0 then none
  else if first < 0xE0 then some 2
  else if first < 0xF0 then some 3
  else if first < 0xF8 then some 4
  else none

/-- The number of bytes that follow the first one of a character. -/
def followingBytes? (count n : Nat) (c : Cursor) : Option (Nat × Cursor) :=
  match count with
  | 0 => some (n, c)
  | count + 1 => do
    let byte ← escapedByte? c.rest
    if byte / 0x40 = 2 then followingBytes? count (n * 0x100 + byte) (c.skip 3) else none

/-- The character of escaped bytes, whose number is its code point. -/
def escapedChar? (c : Cursor) : Option (Char × Cursor) := do
  let first ← escapedByte? c.rest
  let (n, c) ← followingBytes? ((← bytesOf? first) - 1) first (c.skip 3)
  some (← Digits.char? n, c)

/-- The characters of a kind, newest first in front of `acc`, with what escapes stand for.
Each of them takes a character, so the length of the text is fuel enough. -/
def readEscaped? (fuel : Nat) (p : Char → Bool) (acc : List Char) (c : Cursor) :
    Option (List Char × Cursor) :=
  match fuel, c.head? with
  | fuel + 1, some ch =>
    if !p ch then some (acc, c)
    else if ch = '%' then do
      let (e, c) ← escapedChar? c
      readEscaped? fuel p (e :: acc) c
    else readEscaped? fuel p (ch :: acc) (c.skip 1)
  | _, _ => some (acc, c)

/-! ## Tags -/

/-- A tag as written: a handle, empty for a tag in full, and a suffix. -/
structure Tag where
  handle : String
  suffix : String
  deriving DecidableEq, Repr

/-- A handle: a word between exclamation marks, of which the second one may be missing. -/
def readHandle? (c : Cursor) : Option (List Char × Cursor) :=
  if c.head? = some '!' then
    let (word, next) := (c.skip 1).span isWordChar
    if next.head? = some '!' then some ('!' :: word ++ ['!'], next.skip 1)
    else some ('!' :: word, next)
  else none

/-- Whether a handle has a mark at both ends. -/
def isClosedHandle (handle : List Char) : Bool :=
  2 ≤ handle.length && handle.getLast? == some '!'

/-- A tag in full, between angle brackets. -/
def readFullTag? (c : Cursor) : Option (Tag × Cursor) := do
  let (text, next) ← readEscaped? c.rest.length isUriChar [] (c.skip 2)
  if next.head? = some '>' then some (⟨"", String.ofList text.reverse⟩, next.skip 1) else none

/-- A tag of a handle and a suffix. What follows a single mark is a suffix, and a single
mark alone is one too. -/
def readShortTag? (c : Cursor) : Option (Tag × Cursor) := do
  let (handle, next) ← readHandle? c
  let acc := if isClosedHandle handle then [] else (handle.drop 1).reverse
  let (text, next) ← readEscaped? next.rest.length isSuffixChar acc next
  if isClosedHandle handle then
    if text.isEmpty then none
    else some (⟨String.ofList handle, String.ofList text.reverse⟩, next)
  else if text.isEmpty then some (⟨"", "!"⟩, next)
  else some (⟨"!", String.ofList text.reverse⟩, next)

/-- A tag, which a blank sets off from what follows. -/
def readTag? (inFlow : Bool) (c : Cursor) : Option (Tag × Cursor) := do
  let (tag, next) ← if c.second? = some '<' then readFullTag? c else readShortTag? c
  if endsWord next.head? || (inFlow && isFlow next.head?) then some (tag, next) else none

/-! ## Directives -/

/-- A directive. -/
inductive Directive where
  | version
  /-- What a handle stands for. -/
  | tag (handle expansion : String)
  deriving DecidableEq, Repr

/-- A number of at most nine digits. -/
def skipVersionNumber? (c : Cursor) : Option Cursor :=
  let (ds, next) := c.span Char.isDigit
  if ds.isEmpty || 9 < ds.length then none else some next

/-- Drop the blanks within a line. -/
def skipLineBlanks (c : Cursor) : Cursor := c.skipBlanks (c.rest.takeWhile isBlank).length

/-- The directive about the version. -/
def readVersion? (c : Cursor) : Option (Directive × Cursor) := do
  let next ← skipVersionNumber? (skipLineBlanks c)
  if next.head? = some '.' then some (.version, ← skipVersionNumber? (next.skip 1)) else none

/-- What a handle stands for; only its first character may be a mark. -/
def readExpansion? (c : Cursor) : Option (List Char × Cursor) := do
  let ch ← c.head?
  if ch = '!' then readEscaped? c.rest.length isUriChar ['!'] (c.skip 1)
  else if isSuffixChar ch then readEscaped? c.rest.length isUriChar [] c
  else none

/-- The directive about a handle. -/
def readTagDirective? (c : Cursor) : Option (Directive × Cursor) := do
  let (handle, next) ← readHandle? (skipLineBlanks c)
  if handle ≠ ['!'] ∧ handle.getLast? ≠ some '!' then none
  else
    let (text, next) ← readExpansion? (skipLineBlanks next)
    if endsWord next.head? then
      some (.tag (String.ofList handle) (String.ofList text.reverse), next)
    else none

/-- A directive up to the end of its line; one of another name says nothing. -/
def readDirective? (c : Cursor) : Option (Directive × Cursor) := do
  let (name, next) := (c.skip 1).span isWordChar
  if name.isEmpty || !endsWord next.head? then none
  else
    let (directive, next) ←
      if name = "YAML".toList then readVersion? next
      else if name = "TAG".toList then readTagDirective? next
      else some (.tag "" "", next.skipComment)
    let next ← next.skipGap?
    if next.head?.isNone then some (directive, next)
    else if endsLine next.head? then some (directive, next.skipBreak)
    else none

end ClusterNode.Yaml
