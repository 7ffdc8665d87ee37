import ClusterNode.Settings.Yaml.Cursor

/-!
# Scalars of YAML

A scalar is a text in one of four forms: in quotes of either kind, without quotes, or as
a block of lines behind a mark. In all of them but the literal block a single end of a
line is folded into a blank, and of several ends of lines all but one stay.

The readers are told the indentation of the block around a scalar. Every step of theirs
consumes a character, so the length of the rest of a text is fuel enough.
-/

namespace ClusterNode.Yaml

/-! ## Folding -/

/-- The text that stands for the blanks, newest first, and the ends of lines between two
words of a scalar. -/
def fold (blanks : List Char) (breaks : Nat) : List Char :=
  match breaks with
  | 0 => blanks
  | 1 => [' ']
  | n + 1 => List.replicate n '\n'

/-! ## Quotes -/

/-- The character that an escape stands for, and how many characters spell it after the
backslash. -/
def escape? : List Char → Option (Char × Nat)
  | [] => none
  | c :: rest =>
    let coded (count : Nat) : Option (Char × Nat) :=
      (Digits.charOf? count rest).map fun (c, _) => (c, count + 1)
    match c with
    | '0' => some ('\x00', 1)
    | 'a' => some ('\x07', 1)
    | 'b' => some ('\x08', 1)
    | 't' => some ('\t', 1)
    | '\t' => some ('\t', 1)
    | 'n' => some ('\n', 1)
    | 'v' => some ('\x0b', 1)
    | 'f' => some ('\x0c', 1)
    | 'r' => some ('\r', 1)
    | 'e' => some ('\x1b', 1)
    | ' ' => some (' ', 1)
    | '"' => some ('"', 1)
    | '/' => some ('/', 1)
    | '\\' => some ('\\', 1)
    | 'N' => some ('\x85', 1)
    | '_' => some ('\xa0', 1)
    | 'L' => some ('\u2028', 1)
    | 'P' => some ('\u2029', 1)
    | 'x' => coded 2
    | 'u' => coded 4
    | 'U' => coded 8
    | _ => none

/-- A word in quotes, newest character first in front of `acc`: up to a blank, the end of
the line or the closing quote. Whether a backslash joins it to the next line. -/
def quotedWord? (fuel : Nat) (quote : Char) (acc : List Char) (c : Cursor) :
    Option (List Char × Bool × Cursor) :=
  match fuel, c.rest with
  | fuel + 1, ch :: rest =>
    if isBlank ch || isBreak ch then some (acc, false, c)
    else if ch = quote then
      if quote = '\'' ∧ rest.head? = some quote then
        quotedWord? fuel quote (quote :: acc) (c.skip 2)
      else some (acc, false, c)
    else if ch = '\\' ∧ quote = '"' then
      if rest.head?.any isBreak then some (acc, true, (c.skip 1).skipBreak)
      else do
        let (e, count) ← escape? rest
        quotedWord? fuel quote (e :: acc) (c.skip (count + 1))
    else quotedWord? fuel quote (ch :: acc) (c.skip 1)
  | _, _ => some (acc, false, c)

/-- The blanks, newest first, and the ends of lines between two words in quotes; `joined`
if a backslash stands in front of them. No tab may indent a line. -/
def quotedGap? (fuel : Nat) (indent : Int) (joined : Bool) (blanks : List Char) (breaks : Nat)
    (c : Cursor) : Option (List Char × Cursor) :=
  match fuel, c.rest with
  | fuel + 1, ch :: _ =>
    let isLeading := joined || 0 < breaks
    if isBlank ch then
      if !isLeading then quotedGap? fuel indent joined (ch :: blanks) breaks (c.skipBlanks 1)
      else if ch = '\t' ∧ (c.column : Int) < indent then none
      else quotedGap? fuel indent joined blanks breaks (c.skipBlanks 1)
    else if isBreak ch then quotedGap? fuel indent joined [] (breaks + 1) c.skipBreak
    else some (if joined then List.replicate breaks '\n' else fold blanks breaks, c)
  | _, _ => some (if joined then List.replicate breaks '\n' else fold blanks breaks, c)

/-- The words up to a closing quote, newest character first in front of `acc`, and the
place of the quote. -/
def quotedWords? (fuel : Nat) (indent : Int) (quote : Char) (acc : List Char) (c : Cursor) :
    Option (List Char × Cursor) :=
  match fuel with
  | 0 => none
  | fuel + 1 =>
    if c.isAtBoundary || c.rest.isEmpty || (c.column : Int) < indent then none
    else do
      let (acc, joined, c) ← quotedWord? c.rest.length quote acc c
      if c.head? = some quote then some (acc, c)
      else
        let (gap, c) ← quotedGap? c.rest.length indent joined [] 0 c
        quotedWords? fuel indent quote (gap ++ acc) c

/-- Whether what follows a scalar in quotes may do so: the end of the line, what parts the
contents of brackets, or the colon behind a key. -/
def mayFollowQuoted (inFlow : Bool) (start next : Cursor) : Bool :=
  match next.head? with
  | some ':' => inFlow || start.line == next.line
  | some ch => isBreak ch || (inFlow && (ch == ',' || ch == '\x7d' || ch == ']'))
  | none => true

/-- A scalar in quotes. -/
def quoted? (indent : Int) (inFlow : Bool) (c : Cursor) : Option (String × Cursor) := do
  let quote ← c.head?
  let (text, next) ← quotedWords? (c.rest.length + 1) indent quote [] (c.skip 1)
  let next ← (next.skip 1).skipGap?
  if mayFollowQuoted inFlow c next then some (String.ofList text.reverse, next) else none

/-! ## Plain scalars -/

/-- Whether a plain scalar may go on here: not with a colon that a blank follows, and not
with what parts the contents of brackets inside of them. -/
def continuesPlain (inFlow : Bool) (ch : Char) (next : Option Char) : Bool :=
  if ch = ':' then !(endsWord next || (inFlow && isFlow next)) else !(inFlow && isFlowMark ch)

/-- The word of a plain scalar in front of a text. -/
def plainWord (inFlow : Bool) : List Char → List Char
  | [] => []
  | ch :: rest =>
    if isBlank ch || isBreak ch || !continuesPlain inFlow ch rest.head? then []
    else ch :: plainWord inFlow rest

/-- The blanks, newest first, and the ends of lines between two words of a plain scalar. A
tab may indent a line only if the line says nothing. -/
def plainGap? (fuel : Nat) (indent : Int) (blanks : List Char) (breaks : Nat) (c : Cursor) :
    Option (List Char × Cursor) :=
  match fuel, c.rest with
  | fuel + 1, ch :: _ =>
    if isBlank ch then
      if breaks = 0 then plainGap? fuel indent (ch :: blanks) breaks (c.skipBlanks 1)
      else if ch = '\t' ∧ (c.column : Int) < indent then do
        let next ← c.skipGap?
        if endsLine next.head? then plainGap? fuel indent blanks breaks next else none
      else plainGap? fuel indent blanks breaks (c.skipBlanks 1)
    else if isBreak ch then plainGap? fuel indent [] (breaks + 1) c.skipBreak
    else some (fold blanks breaks, c)
  | _, _ => some (fold blanks breaks, c)

/-- The words of a plain scalar, newest character first behind `gap` in front of `acc`, and
the place where it ends. Its lines are indented by at least `indent`. -/
def plainWords? (fuel : Nat) (indent : Int) (inFlow : Bool) (gap acc : List Char) (c : Cursor) :
    Option (List Char × Cursor) :=
  match fuel with
  | 0 => none
  | fuel + 1 =>
    if c.isAtBoundary || c.head? == some '#' then some (acc, c)
    else if inFlow && c.head? == some '-' && isFlow c.second? then none
    else
      let word := plainWord inFlow c.rest
      let next := c.skip word.length
      if word.isEmpty then some (acc, c)
      else if !next.head?.any fun ch => isBlank ch || isBreak ch then
        some (word.reverse ++ gap ++ acc, next)
      else do
        let acc := word.reverse ++ gap ++ acc
        let (gap, next) ← plainGap? next.rest.length indent [] 0 next
        if !inFlow && (next.column : Int) < indent then some (acc, next)
        else plainWords? fuel indent inFlow gap acc next

/-- A plain scalar, which has at least one character. -/
def plain? (indent : Int) (inFlow : Bool) (c : Cursor) : Option (String × Cursor) :=
  if inFlow && (c.column : Int) < indent then none
  else
    match plainWords? (c.rest.length + 1) indent inFlow [] [] c with
    | some (ch :: text, next) => some (String.ofList (ch :: text).reverse, next)
    | _ => none

/-! ## Blocks -/

/-- What happens to the ends of lines at the end of a block. -/
inductive Chomping where
  | strip
  | clip
  | keep
  deriving DecidableEq, Repr

/-- The marks behind the one that starts a block, in either order: what happens at its
end, and by how much it is indented, zero if its first line says that. -/
structure BlockHeader where
  chomping : Chomping
  indent : Nat
  cursor : Cursor

/-- The sign in the header of a block. -/
def chomping? (c : Cursor) : Option Chomping :=
  match c.head? with
  | some '+' => some .keep
  | some '-' => some .strip
  | _ => none

/-- The digit in the header of a block, zero if there is none; it may not be a zero. -/
def blockIndent? (c : Cursor) : Option (Nat × Cursor) :=
  match c.head? with
  | some '0' => none
  | some ch => if ch.isDigit then some (ch.toNat - '0'.toNat, c.skip 1) else some (0, c)
  | none => some (0, c)

/-- The header of a block, up to the end of its line. -/
def blockHeader? (c : Cursor) : Option BlockHeader := do
  let found : BlockHeader ← match chomping? c with
    | some chomping => do
      let (indent, c) ← blockIndent? (c.skip 1)
      some ⟨chomping, indent, c⟩
    | none => do
      let (indent, c) ← blockIndent? c
      match (if indent = 0 then none else chomping? c) with
      | some chomping => some ⟨chomping, indent, c.skip 1⟩
      | none => some ⟨.clip, indent, c⟩
  let next ← found.cursor.skipGap?
  if endsLine next.head? then some { found with cursor := next } else none

/-- Drop the indentation of lines that say nothing, and of the one that does, as far as it
goes; how many ends of lines were dropped. -/
def skipBlockIndent (fuel : Nat) (indent breaks : Nat) (c : Cursor) : Nat × Cursor :=
  match fuel with
  | 0 => (breaks, c)
  | fuel + 1 =>
    let spaces := c.rest.takeWhile (· == ' ')
    let next := c.skipBlanks (min spaces.length (indent - c.column))
    if next.head?.any isBreak then skipBlockIndent fuel indent (breaks + 1) next.skipBreak
    else (breaks, next)

/-- Drop the blanks in front of the first line that says something; the largest indentation
of the lines up to it. -/
def skipFirstIndent (fuel : Nat) (indent breaks : Nat) (c : Cursor) : Nat × Nat × Cursor :=
  match fuel with
  | 0 => (indent, breaks, c)
  | fuel + 1 =>
    let next := c.skipBlanks (c.rest.takeWhile (· == ' ')).length
    let indent := max indent next.column
    if next.head?.any isBreak then skipFirstIndent fuel indent (breaks + 1) next.skipBreak
    else (indent, breaks, next)

/-- The lines of a block that were read: their text, newest character first, the ends of
lines behind it, and whether the last line started with a blank. -/
structure BlockLines where
  text : List Char
  hasBreak : Bool
  breaks : Nat
  afterBlank : Bool
  cursor : Cursor

namespace BlockLines

/-- The text between the last line and one that starts with a blank or not. -/
def between (literal startsBlank : Bool) (b : BlockLines) : List Char :=
  if !literal && b.hasBreak && !b.afterBlank && !startsBlank then
    if b.breaks = 0 then [' '] else List.replicate b.breaks '\n'
  else List.replicate (b.breaks + (if b.hasBreak then 1 else 0)) '\n'

/-- Read the lines with an indentation. -/
def read (fuel : Nat) (literal : Bool) (indent : Nat) (b : BlockLines) : BlockLines :=
  match fuel, b.cursor.head? with
  | fuel + 1, some ch =>
    if b.cursor.column != indent || (indent == 0 && b.cursor.isAtEnd) then b
    else
      let (line, next) := b.cursor.span fun ch => !isBreak ch
      let text := line.reverse ++ b.between literal (isBlank ch) ++ b.text
      if next.rest.isEmpty then ⟨text, false, 0, isBlank ch, next⟩
      else
        let (breaks, next) := skipBlockIndent next.rest.length indent 0 next.skipBreak
        read fuel literal indent ⟨text, true, breaks, isBlank ch, next⟩
  | _, _ => b

/-- The text of a block, newest character first, with what happens at its end. -/
def chomp (chomping : Chomping) (indent : Nat) (b : BlockLines) : List Char :=
  let ended := b.cursor.rest.isEmpty && max indent 1 ≤ b.cursor.column
  let last := (if b.hasBreak then 1 else 0) + (if ended then 1 else 0)
  match chomping with
  | .strip => b.text
  | .clip => List.replicate last '\n' ++ b.text
  | .keep => List.replicate (b.breaks + last) '\n' ++ b.text

end BlockLines

/-- The text of a block without lines at the end of a file. -/
def emptyBlock (chomping : Chomping) (hasBreak : Bool) (breaks : Nat) : List Char :=
  if !hasBreak then []
  else
    match chomping with
    | .strip => []
    | .clip => ['\n']
    | .keep => List.replicate (max breaks 1) '\n'

/-- A block of lines, of which `outer` is the indentation around it. -/
def block? (outer : Int) (literal : Bool) (c : Cursor) : Option (String × Cursor) := do
  let header ← blockHeader? (c.skip 1)
  let hasBreak := header.cursor.head?.isSome
  let next := if hasBreak then header.cursor.skipBreak else header.cursor
  if next.head? = some '\t' then none
  else
    let fuel := next.rest.length + 1
    let (indent, breaks, next) :=
      if header.indent = 0 then
        let (indent, breaks, next) := skipFirstIndent fuel 0 0 next
        let indent := max indent (outer + 1).toNat
        (if 0 < outer then max indent 1 else indent, breaks, next)
      else
        let indent := (max outer 0).toNat + header.indent
        let (breaks, next) := skipBlockIndent fuel indent 0 next
        (indent, breaks, next)
    if next.rest.isEmpty then
      some (String.ofList (emptyBlock header.chomping hasBreak breaks), next)
    else if next.column < indent ∧ outer < next.column then none
    else
      let found := BlockLines.read fuel literal indent ⟨[], false, breaks, false, next⟩
      some (String.ofList (found.chomp header.chomping indent).reverse, found.cursor)

end ClusterNode.Yaml
