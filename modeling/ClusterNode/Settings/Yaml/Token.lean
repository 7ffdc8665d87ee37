import ClusterNode.Settings.Yaml.Scalar
import ClusterNode.Settings.Yaml.Tag

/-!
# Tokens of YAML

A text is cut into tokens, and indentation into tokens that start and end blocks. That a
scalar is the key of a mapping shows only at the colon behind it: a `Candidate` remembers
where a key may have started, and the tokens that this makes necessary are put in front
of it then.
-/

namespace ClusterNode.Yaml

/-- A token. -/
inductive Token where
  | directive (d : Directive)
  | documentStart
  | documentEnd
  | blockSequenceStart
  | blockMappingStart
  | blockEnd
  | flowSequenceStart
  | flowSequenceEnd
  | flowMappingStart
  | flowMappingEnd
  | blockEntry
  | flowEntry
  | key
  | value
  | alias (name : String)
  | anchor (name : String)
  | tag (t : Tag)
  | scalar (isPlain : Bool) (text : String)
  deriving DecidableEq, Repr

/-- A place where a key may have started: the number of tokens in front of it, and whether
nothing but a key can stand there. -/
structure Candidate where
  position : Nat
  index : Nat
  line : Nat
  column : Nat
  isRequired : Bool
  deriving Repr

/-- A level of indentation: the one around it, and whether it is that of a block. -/
structure Level where
  outer : Int
  isBlock : Bool
  deriving Repr

/-- The tokens so far, newest first, and what decides about those to come. -/
structure Scanner where
  cursor : Cursor
  tokens : List Token
  indent : Int
  levels : List Level
  /-- The brackets that are open. -/
  flowLevel : Nat
  /-- Where a key may have started in each of the open brackets and around them. -/
  candidates : List (Option Candidate)
  mayStartKey : Bool
  /-- The place behind what a value may follow without a blank. -/
  adjacentAt : Nat
  /-- Whether the mapping around a place is known to be one. -/
  inMapping : Bool
  /-- For each open sequence in brackets the brackets that were open where a mapping
  without brackets started in it. -/
  implicits : List (Option Nat)

namespace Scanner

/-- A scanner at the start of a text. -/
def ofText (text : String) : Scanner :=
  { cursor := .ofText text, tokens := [], indent := -1, levels := [], flowLevel := 0,
    candidates := [none], mayStartKey := true, adjacentAt := 0, inMapping := false,
    implicits := [] }

/-- Whether brackets are open. -/
def inFlow (s : Scanner) : Bool := 0 < s.flowLevel

/-- Go on at another place. -/
def goTo (s : Scanner) (c : Cursor) : Scanner := { s with cursor := c }

/-- Add a token. -/
def push (s : Scanner) (t : Token) : Scanner := { s with tokens := t :: s.tokens }

/-- Put a token behind the first ones. -/
def insert (s : Scanner) (position : Nat) (t : Token) : Scanner :=
  let after := s.tokens.length - position
  { s with tokens := s.tokens.take after ++ t :: s.tokens.drop after }

/-- Say whether a key may start next. -/
def allowKey (s : Scanner) (allowed : Bool) : Scanner := { s with mayStartKey := allowed }

/-! ## Candidates -/

/-- The place where a key may have started that a colon would be about. -/
def candidate? (s : Scanner) : Option Candidate := s.candidates.head?.join

/-- Remember that a key may start here, if it may. -/
def markCandidate (s : Scanner) : Scanner :=
  if s.mayStartKey then
    let isRequired := !s.inFlow && s.indent == s.cursor.column &&
      (s.levels.head?.any (·.isBlock))
    let found : Candidate :=
      ⟨s.tokens.length, s.cursor.index, s.cursor.line, s.cursor.column, isRequired⟩
    { s with candidates := some found :: s.candidates.drop 1 }
  else s

/-- Forget the place where a key may have started. -/
def forgetCandidate (s : Scanner) : Scanner :=
  { s with candidates := none :: s.candidates.drop 1 }

/-- What has started here is no key. -/
def dropCandidate? (s : Scanner) : Option Scanner :=
  if s.candidate?.any (·.isRequired) then none else some s.forgetCandidate

/-- How many characters a key has at most. -/
def longestKey : Nat := 1024

/-- Whether a key that started at a place would be too long, or go on in another line. -/
def isStale (c : Cursor) (k : Candidate) : Bool :=
  k.line < c.line || k.index + longestKey < c.index

/-- Forget the keys that would be too long; in brackets none is. -/
def dropStale? (s : Scanner) : Option Scanner :=
  if s.inFlow then some s
  else if s.candidates.any (·.any fun k => isStale s.cursor k && k.isRequired) then none
  else some { s with candidates := s.candidates.map fun k => k.filter (!isStale s.cursor ·) }

/-! ## Indentation -/

/-- Leave the innermost level if it is not that of a block. -/
def leaveLoose (s : Scanner) : Scanner :=
  match s.levels with
  | l :: levels => if l.isBlock then s else { s with indent := l.outer, levels }
  | [] => s

/-- Leave every level up to a block. -/
def leaveAllLoose (s : Scanner) : Scanner :=
  { s with
    indent := ((s.levels.takeWhile (!·.isBlock)).getLast?.map (·.outer)).getD s.indent
    levels := s.levels.dropWhile (!·.isBlock) }

/-- Ask of the lines inside of a block to be indented by more than the block. -/
def enterLoose (s : Scanner) : Scanner :=
  if !s.inFlow && s.levels.head?.any (·.isBlock) then
    { s with indent := s.indent + 1, levels := ⟨s.indent, false⟩ :: s.levels }
  else s

/-- Start a block at a column, unless it has started; its token stands behind the first
`position` ones. -/
def enterBlock (s : Scanner) (column position : Nat) (t : Token) : Scanner :=
  if s.inFlow then s
  else
    let s := if s.indent ≤ column then s.leaveLoose else s
    if s.indent < column then
      { s with indent := column, levels := ⟨s.indent, true⟩ :: s.levels }.insert position t
    else s

/-- End the blocks that are indented by more than a column. -/
def leaveBlocks (s : Scanner) (column : Int) : Scanner :=
  if s.inFlow then s
  else
    let step (s : Scanner) (l : Level) : Scanner :=
      if column < s.indent then
        let s := { s with indent := l.outer, levels := s.levels.drop 1 }
        if l.isBlock then s.push .blockEnd else s
      else s
    s.levels.foldl step s

/-! ## Blanks -/

/-- Go on to the next token, over blanks, comments and ends of lines. After the end of a
line a key may start, unless brackets are open. No tab may indent a line of a block. -/
def skipToToken? (fuel : Nat) (s : Scanner) : Option Scanner :=
  match fuel, s.cursor.head? with
  | fuel + 1, some ch =>
    if ch = '\t' ∧ !s.levels.isEmpty ∧ s.cursor.inMargin ∧ (s.cursor.column : Int) < s.indent
    then do
      let next ← s.cursor.skipGap?
      if endsLine next.head? then skipToToken? fuel (s.goTo next) else none
    else if isBlank ch then skipToToken? fuel (s.goTo (s.cursor.skipBlanks 1))
    else if isBreak ch then
      skipToToken? fuel ((s.goTo s.cursor.skipBreak).allowKey (s.mayStartKey || !s.inFlow))
    else if ch = '#' then skipToToken? fuel (s.goTo s.cursor.skipComment)
    else some s
  | _, _ => some s

/-- Go on over everything that says nothing. -/
def skip? (s : Scanner) : Option Scanner := skipToToken? s.cursor.rest.length s

/-- Go on over blanks that are no tabs, of which there has to be one, comments and ends of
lines. -/
def skipAfterKey? (fuel : Nat) (found : Bool) (s : Scanner) : Option Scanner :=
  match fuel, s.cursor.head? with
  | fuel + 1, some ch =>
    if ch = ' ' then skipAfterKey? fuel true (s.goTo (s.cursor.skipBlanks 1))
    else if isBreak ch then
      skipAfterKey? fuel true
        ((s.goTo s.cursor.skipBreak).allowKey (s.mayStartKey || !s.inFlow))
    else if ch = '#' then skipAfterKey? fuel found (s.goTo s.cursor.skipComment)
    else if found then some s
    else none
  | _, _ => if found then some s else none

/-- Go on over marks and the gap behind them. -/
def skipMark? (s : Scanner) : Option Scanner := do
  some (s.goTo (← (s.cursor.skip 1).skipGap?))

/-! ## Documents -/

/-- A directive. -/
def scanDirective? (s : Scanner) : Option Scanner := do
  let s := (← (s.leaveBlocks (-1)).dropCandidate?).allowKey false
  let (d, next) ← readDirective? s.cursor
  some ((s.goTo next).push (.directive d))

/-- The mark of the start or of the end of a document. -/
def scanDocumentMark? (s : Scanner) (t : Token) : Option Scanner := do
  let s := (← (s.leaveBlocks (-1)).dropCandidate?).allowKey false
  some ((s.goTo (s.cursor.skip 3)).push t)

/-- The mark of the end of a document, which ends its line too. -/
def scanDocumentEnd? (s : Scanner) : Option Scanner := do
  let s ← s.scanDocumentMark? .documentEnd
  let next ← s.cursor.skipGap?
  if endsLine next.head? then some (s.goTo next) else none

/-- The end of the text. -/
def scanEnd? (s : Scanner) : Option Scanner :=
  if s.candidates.any (·.any (·.isRequired)) then none else some (s.leaveBlocks (-1))

/-! ## Brackets -/

/-- How many brackets are open at most. -/
def mostBrackets : Nat := 255

/-- An opening bracket, which may start a key. -/
def scanFlowStart? (s : Scanner) (t : Token) : Option Scanner :=
  let s := s.markCandidate.enterLoose
  let isMapping := t = .flowMappingStart
  if s.flowLevel = mostBrackets then none
  else do
    let s := { s with
      flowLevel := s.flowLevel + 1
      candidates := none :: s.candidates
      mayStartKey := true
      inMapping := s.inMapping || isMapping
      implicits := if isMapping then s.implicits else none :: s.implicits }
    some ((← s.skipMark?).push t)

/-- End the mapping without brackets that started in the sequence, if there is one. -/
def endImplicit (s : Scanner) (flowLevel : Nat) : Scanner :=
  match s.implicits with
  | some level :: implicits =>
    if level = flowLevel then
      { s with inMapping := false, implicits := none :: implicits }.push .flowMappingEnd
    else s
  | _ => s

/-- A closing bracket. -/
def scanFlowEnd? (s : Scanner) (t : Token) : Option Scanner := do
  let s ← s.dropCandidate?
  let s := if t = .flowSequenceEnd then
      let s := s.endImplicit s.flowLevel
      { s with implicits := s.implicits.drop 1 }
    else s
  let s := if s.inFlow then
      { s with flowLevel := s.flowLevel - 1, candidates := s.candidates.drop 1 }
    else s
  let s ← (s.allowKey false).skipMark?
  some ((if s.inFlow then { s with adjacentAt := s.cursor.index } else s).push t)

/-- A comma. -/
def scanFlowEntry? (s : Scanner) : Option Scanner := do
  let s ← s.dropCandidate?
  let s ← ((s.allowKey true).endImplicit s.flowLevel).skipMark?
  some (s.push .flowEntry)

/-! ## Entries, keys and values -/

/-- The mark of an item of a block. -/
def scanBlockEntry? (s : Scanner) : Option Scanner :=
  if s.inFlow || !s.mayStartKey then none
  else do
    let column := s.cursor.column
    let s := s.goTo (s.cursor.skip 1)
    let s := s.enterBlock column s.tokens.length .blockSequenceStart
    let gap ← s.cursor.gap?
    let next := gap.cursor
    if gap.hasTab && next.head? == some '-' && endsWord next.second? then none
    else
      let s := s.goTo next
      let s := if next.head?.any fun c => isBreak c || isFlowMark c then s.enterLoose else s
      some (((← s.dropCandidate?).allowKey true).push .blockEntry)

/-- The mark of a key. -/
def scanKey? (s : Scanner) : Option Scanner := do
  let s ←
    if s.inFlow then some { s with inMapping := true }
    else if s.mayStartKey then
      some (s.enterBlock s.cursor.column s.tokens.length .blockMappingStart)
    else none
  let s := (← s.dropCandidate?).allowKey !s.inFlow
  let s ← skipAfterKey? (s.cursor.rest.length) false (s.goTo (s.cursor.skip 1))
  if s.cursor.head? = some '\t' then none else some (s.push .key)

/-- The colon behind a key that started at a candidate. -/
def scanValueOf? (s : Scanner) (k : Candidate) (line : Nat) (isImplicit : Bool) :
    Option Scanner :=
  let s := s.insert k.position .key
  if isImplicit ∧ k.line < line then none
  else
    let s := if isImplicit then s.insert k.position .flowMappingStart else s
    let s := (s.enterBlock k.column k.position .blockMappingStart).enterLoose
    some ((s.forgetCandidate.allowKey false).push .value)

/-- A colon behind no key, or behind one with a mark of its own. -/
def scanValueAlone? (s : Scanner) (column : Nat) (isImplicit : Bool) : Option Scanner :=
  let s := if isImplicit then s.push .flowMappingStart else s
  if s.inFlow then some ((s.enterLoose.allowKey false).push .value)
  else if s.mayStartKey then
    let s := (s.enterBlock column s.tokens.length .blockMappingStart).enterLoose
    some ((s.allowKey true).push .value)
  else none

/-- A colon. In a sequence in brackets it may start a mapping without brackets. -/
def scanValue? (s : Scanner) : Option Scanner := do
  let start := s.cursor
  let isImplicit := !s.implicits.isEmpty && !s.inMapping
  let s := if isImplicit then
      { s with implicits := some s.flowLevel :: s.implicits.drop 1 }
    else s
  let next := start.skip 1
  let s ←
    if next.head? = some '\t' then do
      let gap ← next.gap?
      if !gap.hasSpace && gap.cursor.head?.any isWordChar then none
      else some (s.goTo gap.cursor)
    else some (s.goTo next)
  match s.candidate? with
  | some k => s.scanValueOf? k start.line isImplicit
  | none => s.scanValueAlone? start.column isImplicit

/-! ## Nodes -/

/-- Whether a character may stand in the name of an anchor. -/
def isAnchorChar (c : Char) : Bool :=
  !isBlank c && !isBreak c && !isFlowMark c && c != '\uFEFF'

/-- An anchor or an alias, which may start a key. -/
def scanAnchor? (s : Scanner) (token : String → Token) : Option Scanner :=
  let s := s.markCandidate.allowKey false
  let (name, next) := (s.cursor.skip 1).span isAnchorChar
  if name.isEmpty then none else some ((s.goTo next).push (token (String.ofList name)))

/-- A tag, which may start a key. -/
def scanTag? (s : Scanner) : Option Scanner := do
  let s := s.markCandidate.allowKey false
  let (tag, next) ← readTag? s.inFlow s.cursor
  some ((s.goTo next).push (.tag tag))

/-- A block of lines. -/
def scanBlock? (s : Scanner) (literal : Bool) : Option Scanner := do
  let s := (s.markCandidate.allowKey true).leaveAllLoose
  let (text, next) ← block? s.indent literal s.cursor
  some ((s.goTo next).push (.scalar false text))

/-- A scalar in quotes, which may start a key. -/
def scanQuoted? (s : Scanner) : Option Scanner := do
  let s := s.markCandidate.allowKey false
  let (text, next) ← quoted? s.indent s.inFlow s.cursor
  let s ← (s.goTo next).skip?
  some ({ s with adjacentAt := s.cursor.index }.push (.scalar false text))

/-- A plain scalar, which may start a key. -/
def scanPlain? (s : Scanner) : Option Scanner := do
  let s := (s.markCandidate.allowKey false).leaveAllLoose
  let (text, next) ← plain? (s.indent + 1) s.inFlow s.cursor
  some (((s.goTo next).allowKey next.inMargin).push (.scalar true text))

/-! ## Texts -/

/-- Whether the colon in front is one behind a key. -/
def isAtValue (s : Scanner) : Bool :=
  let next := s.cursor.second?
  endsWord next || (s.inFlow && (isFlow next || s.cursor.index == s.adjacentAt))

/-- The token that a character starts. -/
def scanToken? (s : Scanner) (ch : Char) : Option Scanner :=
  let isAlone := endsWord s.cursor.second?
  match ch with
  | '[' => s.scanFlowStart? .flowSequenceStart
  | '\x7b' => s.scanFlowStart? .flowMappingStart
  | ']' => s.scanFlowEnd? .flowSequenceEnd
  | '\x7d' => s.scanFlowEnd? .flowMappingEnd
  | ',' => s.scanFlowEntry?
  | '-' => if isAlone then s.scanBlockEntry? else s.scanPlain?
  | '?' => if isAlone then s.scanKey? else s.scanPlain?
  | ':' => if s.isAtValue then s.scanValue? else s.scanPlain?
  | '*' => s.scanAnchor? .alias
  | '&' => s.scanAnchor? .anchor
  | '!' => s.scanTag?
  | '|' => if s.inFlow then s.scanPlain? else s.scanBlock? true
  | '>' => if s.inFlow then s.scanPlain? else s.scanBlock? false
  | '\'' => s.scanQuoted?
  | '"' => s.scanQuoted?
  | '%' => none
  | '@' => none
  | '\x60' => none
  | _ => s.scanPlain?

/-- Go on over one token; nothing is left when the text has ended. -/
def step? (s : Scanner) : Option (Scanner × Bool) := do
  let s ← (← s.skip?).dropStale?
  let s := s.leaveBlocks s.cursor.column
  match s.cursor.head? with
  | none => some (← s.scanEnd?, true)
  | some ch =>
    let s ←
      if s.cursor.column = 0 ∧ ch = '%' then s.scanDirective?
      else if s.cursor.isAtStart then s.scanDocumentMark? .documentStart
      else if s.cursor.isAtEnd then s.scanDocumentEnd?
      else if (s.cursor.column : Int) < s.indent then none
      else s.scanToken? ch
    some (s, false)

/-- Go on to the end of the text. Every token takes a character, so the length of the text
is fuel enough. -/
def run? (fuel : Nat) (s : Scanner) : Option Scanner :=
  match fuel with
  | 0 => none
  | fuel + 1 => do
    let (s, isDone) ← s.step?
    if isDone then some s else run? fuel s

end Scanner

/-- The tokens of a text. -/
def tokens? (text : String) : Option (List Token) := do
  let s := Scanner.ofText text
  some (← s.run? (s.cursor.rest.length + 1)).tokens.reverse

end ClusterNode.Yaml
