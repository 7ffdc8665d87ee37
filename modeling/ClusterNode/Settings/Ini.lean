import ClusterNode.Number.Digits
import ClusterNode.Settings.Setting
import ClusterNode.Text.Blank

/-!
# INI files

A file is a list of sections, each a list of keys with texts. A key ends at the
first `=` or `:`; its value is the rest of the line, without blanks at its ends,
after any quoted parts. A comment has a line of its own and starts in its first
column. A backslash names a character or, at the end of a line, joins the next one
to it.

A line that starts with a blank holds a section or a key, never a comment. If it is
no key, the file goes on where that is seen.

A section that stands twice counts only the last time.
-/

namespace ClusterNode.Ini

/-- What follows, and whether it stands at the start of a line. -/
structure Cursor where
  atStart : Bool
  rest : List Char

/-- Whether a character may indent a line. -/
def isIndent (c : Char) : Bool := c == ' ' || c == '\t'

/-- Drop blanks and ends of lines, up to the indentation of a line. -/
def skipGap (atStart : Bool) : List Char → Cursor
  | [] => ⟨atStart, []⟩
  | c :: rest =>
    if isIndent c then skipGap false rest
    else if c = '\n' ∨ c = '\r' then
      if rest.head?.any isIndent then ⟨c == '\n', rest⟩ else skipGap (c == '\n') rest
    else ⟨atStart, c :: rest⟩

/-- Whether a character ends a line. -/
def isBreak (c : Char) : Bool := c == '\n' || c == '\r'

/-- Drop the blanks within a line. -/
def skipLineBlank (cs : List Char) : List Char :=
  cs.dropWhile fun c => Text.isBlank c && !isBreak c

/-- The character of four hexadecimal digits, the first of which may be a plus. -/
def codePoint? (code : List Char) : Option Char :=
  Digits.toNat? 16 (if code.head? = some '+' then code.drop 1 else code) >>= Digits.char?

/-- The next `count` characters, which spell a character after those in `code`, newest
first. A backslash among them has to join two lines, and spells none. What follows the
last one, or where reading fails. -/
def readCode (count : Nat) (code : List Char) (atStart : Bool) (cs : List Char) :
    Except Cursor (Char × List Char) :=
  match count, cs with
  | count + 1, '\\' :: '\n' :: rest =>
    if count = 0 then .error ⟨false, '\n' :: rest⟩ else readCode count ('\\' :: code) true rest
  | _ + 1, '\\' :: rest => .error ⟨false, rest⟩
  | 1, c :: rest =>
    match codePoint? (c :: code).reverse with
    | some ch => .ok (ch, rest)
    | none => .error ⟨atStart, c :: rest⟩
  | count + 1, c :: rest => readCode count (c :: code) (c == '\n') rest
  | _, cs => .error ⟨atStart, cs⟩

/-- The character named by one after a backslash. -/
def escaped (c : Char) : Char :=
  if c = '0' then '\x00'
  else if c = 'a' then '\x07'
  else if c = 'b' then '\x08'
  else if c = 't' then '\t'
  else if c = 'r' then '\r'
  else if c = 'n' then '\n'
  else c

/-- The text up to a character that stops it, newest first in `acc`; the end of the
file may stop it too if `orEnd`. If there is no such text, where that is seen. Every
step consumes a character, so the length of the text is fuel enough. -/
def readUntil (stop : Char → Bool) (orEnd : Bool) (fuel : Nat) (acc cs : List Char) :
    Except Cursor (List Char × List Char) :=
  match fuel, cs with
  | fuel + 1, '\\' :: '\n' :: rest => readUntil stop orEnd fuel acc rest
  | fuel + 1, '\\' :: 'x' :: rest => do
    let (c, rest) ← readCode 4 [] false rest
    readUntil stop orEnd fuel (c :: acc) rest
  | fuel + 1, '\\' :: c :: rest => readUntil stop orEnd fuel (escaped c :: acc) rest
  | fuel + 1, c :: rest =>
    if stop c then .ok (acc.reverse, c :: rest)
    else readUntil stop orEnd fuel (c :: acc) rest
  | _, cs => if orEnd then .ok (acc.reverse, cs) else .error ⟨false, cs⟩

/-- The text up to a character that stops it. -/
def textUntil? (stop : Char → Bool) (orEnd : Bool) (cs : List Char) :
    Option (List Char × List Char) :=
  (readUntil stop orEnd cs.length [] cs).toOption

/-- Drop the blanks at the end. -/
def trimEnd (cs : List Char) : List Char := (Text.trimStart cs.reverse).reverse

/-- Quoted parts in a row, and what follows them on the line. Each step consumes a
character, so the length of the text is fuel enough. -/
def readQuoted (fuel : Nat) (cs : List Char) : Option (List Char × List Char) :=
  match fuel, cs with
  | _, [] => some ([], [])
  | 0, _ => none
  | fuel + 1, q :: rest =>
    if q = '"' ∨ q = '\'' then do
      let (part, rest) ← textUntil? (· == q) false rest
      let (more, rest) ← readQuoted fuel (rest.drop 1)
      some (part ++ more, rest)
    else do
      let (part, rest) ← textUntil? isBreak true (q :: rest)
      some (trimEnd part, rest)

/-- The value after the mark that ends its key. -/
def readValue (cs : List Char) : Option (List Char × List Char) :=
  match skipLineBlank cs with
  | [] => some ([], [])
  | q :: rest =>
    if q = '"' ∨ q = '\'' then readQuoted (rest.length + 2) (q :: rest)
    else do
      let (part, rest) ← textUntil? isBreak true (q :: rest)
      some (Text.trim part, rest)

/-- A section: its name, none in front of the first one, and its keys. -/
structure Section where
  name : Option String
  keys : List (String × String)

/-- Add a key to the last section. -/
def addKey (sections : List Section) (key value : String) : List Section :=
  match sections with
  | s :: rest => { s with keys := s.keys ++ [(key, value)] } :: rest
  | [] => [⟨none, [(key, value)]⟩]

/-- A key in front of a text, up to the mark that ends it, or where there is seen to be
none. -/
def readKey (cs : List Char) : Except Cursor (List Char × List Char) :=
  (readUntil (fun c => c == '=' || c == ':') false cs.length [] cs).map fun (key, rest) =>
    (Text.trim key, rest)

/-- The section whose name follows a bracket. -/
def readHeader (cs : List Char) : Option (Section × Cursor) := do
  let (name, rest) ← textUntil? (· == ']') false cs
  some (⟨some (String.ofList (Text.trim name)), []⟩, skipGap false (rest.drop 1))

/-- The value of a key, with the sections that have it. -/
def readPair (sections : List Section) (key rest : List Char) :
    Option (List Section × Cursor) :=
  if key.isEmpty then none
  else do
    let (text, rest) ← readValue (rest.drop 1)
    some (addKey sections (String.ofList key) (String.ofList text), skipGap false rest)

/-- The sections of a file, newest first in `acc`; every step consumes a character,
so the length of the text is fuel enough. -/
def readSections (fuel : Nat) (acc : List Section) (cur : Cursor) : Option (List Section) :=
  match fuel, cur.rest with
  | _, [] => some acc.reverse
  | 0, _ => none
  | fuel + 1, c :: rest =>
    if c = ';' ∨ c = '#' then
      if cur.atStart then
        readSections fuel acc (skipGap true ((rest.dropWhile (· != '\n')).drop 1))
      else none
    else if c = '[' then do
      let (s, cur) ← readHeader rest
      readSections fuel (s :: acc) cur
    else if isIndent c then
      match rest.dropWhile isIndent with
      | '[' :: rest => do
        let (s, cur) ← readHeader rest
        readSections fuel (s :: acc) cur
      | rest =>
        match readKey rest with
        | .ok (key, rest) => do
          let (acc, cur) ← readPair acc key rest
          readSections fuel acc cur
        | .error cur => readSections fuel acc (skipGap cur.atStart cur.rest)
    else do
      let (key, rest) ← (readKey (c :: rest)).toOption
      let (acc, cur) ← readPair acc key rest
      readSections fuel acc cur

/-- The names at the root of a file: the keys in front of the first section, and
the sections. -/
def root (sections : List Section) : List (String × Setting) :=
  sections.foldl
    (fun ms s =>
      let keys := s.keys.foldl (fun ms (k, v) => Setting.assign k (.text v) ms) []
      match s.name with
      | none => keys.foldl (fun ms (k, v) => Setting.assign k v ms) ms
      | some name => Setting.assign name (.table keys) ms)
    []

/-- The settings of a file. -/
def parse (text : String) : Option Setting := do
  let cs := text.toList
  let start : Cursor := ⟨true, cs.dropWhile isBreak⟩
  let sections ← readSections (cs.length + 1) [] start
  some (.ofRoot (root sections))

end ClusterNode.Ini
