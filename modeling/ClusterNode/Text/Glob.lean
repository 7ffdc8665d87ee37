import ClusterNode.Text.Blank

/-!
# Glob patterns

In a pattern `*` stands for any run of characters and `?` for one character,
neither of them a line feed; every other character stands for itself, and the
whole text has to match. A selector is a list of patterns between commas.

A pattern is matched from its end: `globRow` tells for every suffix of the text
whether the pattern matches it, so the work is the product of the two lengths
however many stars there are.
-/

namespace ClusterNode.Text

/-- From which suffixes of a text a run without line feeds leads to a marked one. -/
def rowBeforeRun : List Char → List Bool → List Bool
  | c :: cs, b :: bs =>
    let row := rowBeforeRun cs bs
    (b || (c != '\n' && row.headD false)) :: row
  | _, bs => bs

/-- From which suffixes of a text one accepted character leads to a marked one. -/
def rowBeforeChar (accepts : Char → Bool) : List Char → List Bool → List Bool
  | c :: cs, _ :: b :: bs => (accepts c && b) :: rowBeforeChar accepts cs (b :: bs)
  | _, _ => [false]

/-- Which suffixes of a text match a pattern, the whole text first. -/
def globRow : List Char → List Char → List Bool
  | [], cs => cs.map (fun _ => false) ++ [true]
  | '*' :: ps, cs => rowBeforeRun cs (globRow ps cs)
  | '?' :: ps, cs => rowBeforeChar (· != '\n') cs (globRow ps cs)
  | p :: ps, cs => rowBeforeChar (· == p) cs (globRow ps cs)

/-- Whether a pattern matches a text. -/
def globMatches (pattern text : List Char) : Bool := (globRow pattern text).headD false

/-- The patterns of a selector: trimmed, without empty ones. -/
def selectorPatterns (selector : String) : List (List Char) :=
  ((selector.toList.splitOn ',').map trim).filter (!·.isEmpty)

/-- Whether some pattern of a selector matches a text. -/
def selects (selector text : String) : Bool :=
  (selectorPatterns selector).any (globMatches · text.toList)

end ClusterNode.Text
