import ClusterNode.Text.Glob

/-!
# Globs as regular expressions

A glob pattern is also written as a regular expression: anchored at both ends, with every
character that would mean something else behind a backslash. Of the language of expressions this
module reads what such a text is made of, which is anchors, single characters and runs of one of
these; `read?` is the authority on what a text means and refuses every other one.

What compiles and matches expressions is not part of the library. An `Engine` is any such thing,
and `Engine.Documented` is all that is asked of one.
-/

namespace ClusterNode.Text

namespace Expression

/-- What one character of a text is held against. -/
inductive Symbol where
  /-- Any character but a line feed. -/
  | any
  | char (c : Char)
  deriving DecidableEq, Repr

/-- Whether a character is one that a symbol stands for. -/
def Symbol.accepts : Symbol → Char → Bool
  | .any, c => c != '\n'
  | .char x, c => c == x

/-- A part of an expression. -/
inductive Item where
  /-- The place in front of a text. -/
  | start
  /-- The place behind a text. -/
  | stop
  | one (x : Symbol)
  /-- Any run of characters that a symbol stands for, the empty one too. -/
  | many (x : Symbol)
  deriving DecidableEq, Repr

/-! ## Reading -/

/-- The characters that stand for themselves behind a backslash only. -/
def isMeta (c : Char) : Bool :=
  ['\\', '.', '+', '*', '?', '(', ')', '|', '[', ']', '\x7b', '\x7d', '^', '$', '#', '&', '-',
    '~'].contains c

/-- What one place of a written expression says. -/
inductive Mark where
  | item (i : Item)
  | symbol (x : Symbol)
  | star
  deriving DecidableEq

/-- The mark of a character without a backslash. -/
def mark? (c : Char) : Option Mark :=
  if c = '^' then some (.item .start)
  else if c = '$' then some (.item .stop)
  else if c = '.' then some (.symbol .any)
  else if c = '*' then some .star
  else if isMeta c then none
  else some (.symbol (.char c))

/-- The marks of a text. -/
def marks? : List Char → Option (List Mark)
  | [] => some []
  | '\\' :: c :: cs => if isMeta c then (marks? cs).map (.symbol (.char c) :: ·) else none
  | c :: cs => (mark? c).bind fun m => (marks? cs).map (m :: ·)

/-- The items of marks: a star goes with the symbol in front of it. -/
def items? : List Mark → Option (List Item)
  | [] => some []
  | .item i :: ms => (items? ms).map (i :: ·)
  | .symbol x :: .star :: ms => (items? ms).map (.many x :: ·)
  | .symbol x :: ms => (items? ms).map (.one x :: ·)
  | .star :: _ => none

/-- The expression of a text. -/
def read? (text : List Char) : Option (List Item) := (marks? text).bind items?

/-! ## Meaning -/

/-- Whether items lead on from a place in a text; `fresh` tells that nothing is in front of it. -/
def Leads : List Item → Bool → List Char → Prop
  | [], _, _ => True
  | .start :: items, fresh, cs => fresh = true ∧ Leads items fresh cs
  | .stop :: items, fresh, cs => cs = [] ∧ Leads items fresh cs
  | .one x :: items, _, cs => ∃ c ∈ cs.head?, x.accepts c = true ∧ Leads items false cs.tail
  | .many x :: items, fresh, cs =>
    ∃ n ≤ cs.length,
      (∀ c ∈ cs.take n, x.accepts c = true) ∧ Leads items (fresh && n == 0) (cs.drop n)

instance decidableLeads : (items : List Item) → (fresh : Bool) → (cs : List Char) →
    Decidable (Leads items fresh cs)
  | [], _, _ => .isTrue trivial
  | .start :: items, fresh, cs =>
    have := decidableLeads items fresh cs
    inferInstanceAs (Decidable (_ ∧ _))
  | .stop :: items, fresh, cs =>
    have := decidableLeads items fresh cs
    inferInstanceAs (Decidable (_ ∧ _))
  | .one _ :: items, _, cs =>
    have := decidableLeads items false
    -- by name, or else every character there is may be tried
    Option.decidableExistsMem cs.head?
  | .many x :: items, _, cs =>
    have := decidableLeads items
    have (n : Nat) := List.decidableBAll (x.accepts · = true) (cs.take n)
    inferInstanceAs (Decidable (∃ n ≤ cs.length, _))

/-- Whether an expression leads on from some place in a text. -/
def Finds (items : List Item) (text : List Char) : Prop :=
  ∃ n ≤ text.length, Leads items (n == 0) (text.drop n)

instance (items : List Item) (text : List Char) : Decidable (Finds items text) :=
  inferInstanceAs (Decidable (∃ n ≤ text.length, _))

/-! ## Writing -/

/-- A character as it stands for itself. -/
def escape (c : Char) : List Char := if isMeta c then ['\\', c] else [c]

/-- A character of a glob as an expression. -/
def ofGlobChar (c : Char) : List Char :=
  if c = '*' then ['.', '*'] else if c = '?' then ['.'] else escape c

/-- A glob as an expression: the whole text has to match. -/
def ofGlob (pattern : List Char) : List Char := '^' :: pattern.flatMap ofGlobChar ++ ['$']

end Expression

/-- What compiles expressions: a test of texts, none for a text that is no expression or makes too
large a test. -/
structure Engine where
  compile : List Char → Option (List Char → Bool)

namespace Engine

/-- What an engine makes of an expression tests whether it is found in a text. -/
def Documented (engine : Engine) : Prop :=
  ∀ expression items test, Expression.read? expression = some items →
    engine.compile expression = some test →
      ∀ text, test text = true ↔ Expression.Finds items text

/-- The tests of the patterns of a selector; one that is not compiled is left out. -/
def tests (engine : Engine) (selector : List Char) : List (List Char → Bool) :=
  (((selector.splitOn ',').map trim).filter (!·.isEmpty)).filterMap fun pattern =>
    engine.compile (Expression.ofGlob pattern)

end Engine

end ClusterNode.Text
