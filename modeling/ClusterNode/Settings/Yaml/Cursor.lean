import ClusterNode.Number.Digits

/-!
# Places in a YAML text

What a mark of YAML means depends on where it stands. A `Cursor` is a place in a text
that knows its line and its column, and whether it stands in the margin of its line:
only blanks are in front of it. The text ends at its first NUL.
-/

namespace ClusterNode.Yaml

/-! ## Characters -/

/-- Whether a character is a blank within a line. -/
def isBlank (c : Char) : Bool := c == ' ' || c == '\t'

/-- Whether a character ends a line. -/
def isBreak (c : Char) : Bool := c == '\n' || c == '\r'

/-- Whether a character parts the contents of brackets. -/
def isFlowMark (c : Char) : Bool := ",[]\x7b\x7d".toList.contains c

/-- Whether a character may stand in the name of a directive or of a tag. -/
def isWordChar (c : Char) : Bool := c.isAlphanum || c == '_' || c == '-'

/-- Whether a line ends here. -/
def endsLine (c : Option Char) : Bool := c.all isBreak

/-- Whether a word ends here. -/
def endsWord (c : Option Char) : Bool := c.all fun c => isBlank c || isBreak c

/-- Whether a character in brackets parts their contents. -/
def isFlow (c : Option Char) : Bool := c.any isFlowMark

/-! ## Places -/

/-- A place in a text. -/
structure Cursor where
  rest : List Char
  index : Nat
  line : Nat
  column : Nat
  inMargin : Bool
  deriving Repr

namespace Cursor

/-- The start of a text. -/
def ofText (text : String) : Cursor := ⟨text.toList.takeWhile (· != '\x00'), 0, 0, 0, true⟩

/-- The next character. -/
def head? (c : Cursor) : Option Char := c.rest.head?

/-- The character after the next one. -/
def second? (c : Cursor) : Option Char := c.rest[1]?

/-- The place behind blanks. -/
def skipBlanks (count : Nat) (c : Cursor) : Cursor :=
  { c with rest := c.rest.drop count, index := c.index + count, column := c.column + count }

/-- The place behind characters that are no blanks. -/
def skip (count : Nat) (c : Cursor) : Cursor :=
  { c.skipBlanks count with inMargin := c.inMargin && count == 0 }

/-- The place behind the end of a line. -/
def skipBreak (c : Cursor) : Cursor :=
  let count := match c.rest with
    | '\r' :: '\n' :: _ => 2
    | _ => 1
  ⟨c.rest.drop count, c.index + count, c.line + 1, 0, true⟩

/-- The characters in front of which one of a kind stands, and the place behind them. -/
def span (p : Char → Bool) (c : Cursor) : List Char × Cursor :=
  let word := c.rest.takeWhile p
  (word, c.skip word.length)

/-- The end of the line. -/
def skipComment (c : Cursor) : Cursor := (c.span fun ch => !isBreak ch).2

/-- Whether a mark of three characters stands alone here. -/
def isAtMark (mark : Char) (c : Cursor) : Bool :=
  c.rest.take 3 == [mark, mark, mark] && endsWord c.rest[3]?

/-- Whether the mark of the start of a document stands here. -/
def isAtStart (c : Cursor) : Bool := c.column == 0 && c.isAtMark '-'

/-- Whether the mark of the end of a document stands here. -/
def isAtEnd (c : Cursor) : Bool := c.column == 0 && c.isAtMark '.'

/-- Whether a document starts or ends here. -/
def isAtBoundary (c : Cursor) : Bool := c.isAtStart || c.isAtEnd

end Cursor

/-- The blanks behind a place on its line, and the place behind them and a comment. -/
structure Gap where
  hasTab : Bool
  hasSpace : Bool
  cursor : Cursor

/-- The gap behind a place; a comment has to be set off by a blank. -/
def Cursor.gap? (c : Cursor) : Option Gap :=
  let blanks := c.rest.takeWhile isBlank
  let next := c.skipBlanks blanks.length
  if next.head? = some '#' then
    if blanks.isEmpty then none
    else some ⟨blanks.contains '\t', blanks.contains ' ', next.skipComment⟩
  else some ⟨blanks.contains '\t', blanks.contains ' ', next⟩

/-- The place behind the gap. -/
def Cursor.skipGap? (c : Cursor) : Option Cursor := c.gap?.map (·.cursor)

end ClusterNode.Yaml
