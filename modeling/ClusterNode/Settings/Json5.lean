import ClusterNode.Json.Reader
import ClusterNode.Settings.Setting
import ClusterNode.Text.Blank
import ClusterNode.Text.Identifier

/-!
# JSON5 files

JSON5 is JSON for people who write it: it has comments, names without quotes, single
quotes, strings that go on in the next line, more forms of numbers, and a comma may
stand behind the last item. Of members with one name the last one counts.

The readers take the rest of the text and give back what follows. Every step consumes
a character, so that the length of the text bounds their number.
-/

namespace ClusterNode.Json5

/-- The rest of a text. -/
abbrev Rest := List Char

/-! ## Blanks -/

/-- Whether a character ends a line. -/
def isBreak (c : Char) : Bool := c == '\n' || c == '\r' || c == '\u2028' || c == '\u2029'

/-- Whether a character is a blank. -/
def isBlank (c : Char) : Bool := (Text.isBlank c && c != '\x85') || c == '\uFEFF'

/-- What follows the end of a comment of several lines. -/
def afterComment? : Rest → Option Rest
  | '*' :: '/' :: rest => some rest
  | _ :: rest => afterComment? rest
  | [] => none

/-- Drop blanks and comments. -/
def skipSpace? (fuel : Nat) (cs : Rest) : Option Rest :=
  match fuel, cs with
  | fuel + 1, '/' :: '/' :: rest => skipSpace? fuel (rest.dropWhile fun c => !isBreak c)
  | fuel + 1, '/' :: '*' :: rest => afterComment? rest >>= skipSpace? fuel
  | fuel + 1, c :: rest => if isBlank c then skipSpace? fuel rest else some (c :: rest)
  | _, cs => some cs

/-- Drop all blanks and comments in front. -/
def skip? (cs : Rest) : Option Rest := skipSpace? cs.length cs

/-! ## Strings and names -/

/-- What an escape stands for, which is nothing at the end of a line, and what follows. -/
def escape? : Rest → Option (List Json.Unit16 × Rest)
  | 'u' :: a :: b :: c :: d :: rest => do some ([.ofNat (← Json.hex4? a b c d)], rest)
  | 'x' :: a :: b :: rest => do some ([.ofNat (← Digits.toNat? 16 [a, b])], rest)
  | '0' :: rest => if rest.head?.any Char.isDigit then none else some ([.char '\x00'], rest)
  | '\r' :: '\n' :: rest => some ([], rest)
  | 'b' :: rest => some ([.char '\x08'], rest)
  | 'f' :: rest => some ([.char '\x0c'], rest)
  | 'n' :: rest => some ([.char '\n'], rest)
  | 'r' :: rest => some ([.char '\r'], rest)
  | 't' :: rest => some ([.char '\t'], rest)
  | 'v' :: rest => some ([.char '\x0b'], rest)
  | c :: rest =>
    if isBreak c then some ([], rest)
    else if c = 'u' ∨ c = 'x' ∨ c.isDigit then none
    else some ([.char c], rest)
  | [] => none

/-- The content of a string up to its closing quote, newest unit first. -/
def readUnits (fuel : Nat) (q : Char) (acc : List Json.Unit16) (cs : Rest) :
    Option (List Json.Unit16 × Rest) :=
  match fuel, cs with
  | fuel + 1, '\\' :: rest => do
    let (units, rest) ← escape? rest
    readUnits fuel q (units ++ acc) rest
  | fuel + 1, c :: rest =>
    if c = q then some (acc, rest)
    else if c = '\n' ∨ c = '\r' then none
    else readUnits fuel q (.char c :: acc) rest
  | _, _ => none

/-- A string after its opening quote. -/
def readString (q : Char) (cs : Rest) : Option (String × Rest) := do
  let (units, rest) ← readUnits cs.length q [] cs
  some (String.ofList (← Json.joinUnits [] units), rest)

/-- Whether a name may start with a character. -/
def startsName (c : Char) : Bool := Text.isLetter c || c == '$' || c == '_'

/-- Whether a character may stand in a name. -/
def isNameChar (c : Char) : Bool :=
  startsName c || Text.isFollower c || c == '\u200C' || c == '\u200D'

/-- The character in front of a text, which may be escaped. -/
def nameChar? : Rest → Option (Char × Rest)
  | '\\' :: 'u' :: a :: b :: c :: d :: rest => do
    some (← Json.hex4? a b c d >>= Digits.char?, rest)
  | '\\' :: _ => none
  | c :: rest => some (c, rest)
  | [] => none

/-- The rest of a name, newest character first in `acc`, and what follows it. -/
def readName (fuel : Nat) (acc : List Char) (cs : Rest) : String × Rest :=
  match fuel, nameChar? cs with
  | fuel + 1, some (c, rest) =>
    if isNameChar c then readName fuel (c :: acc) rest
    else (String.ofList acc.reverse, cs)
  | _, _ => (String.ofList acc.reverse, cs)

/-- The name of a member, with or without quotes. -/
def readKey : Rest → Option (String × Rest)
  | '"' :: rest => readString '"' rest
  | '\'' :: rest => readString '\'' rest
  | cs => do
    let (c, rest) ← nameChar? cs
    if startsName c then some (readName rest.length [c] rest) else none

/-! ## Numbers -/

/-- The digits after a decimal point, if there is one. -/
def fraction : Rest → Option (List Char) × Rest
  | '.' :: rest => (some (rest.takeWhile Char.isDigit), rest.dropWhile Char.isDigit)
  | cs => (none, cs)

/-- The exponent of a number, if there is one. -/
def exponent? (cs : Rest) : Option (Option Int × Rest) :=
  match cs with
  | c :: rest =>
    if c = 'e' ∨ c = 'E' then
      let (negative, rest) := Digits.sign rest
      match Digits.toNat? 10 (rest.takeWhile Char.isDigit) with
      | some n => some (some (if negative then -n else n), rest.dropWhile Char.isDigit)
      | none => none
    else some (none, cs)
  | [] => some (none, [])

/-- A decimal number. It is an integer if it has neither a point nor an exponent. -/
def readDecimal (negative : Bool) (cs : Rest) : Option (Setting × Rest) := do
  let whole := cs.takeWhile Char.isDigit
  let (point, rest) := fraction (cs.dropWhile Char.isDigit)
  let (e, rest) ← exponent? rest
  let n ← Digits.toNat? 10 (whole ++ point.getD [])
  if whole.head? = some '0' ∧ 1 < whole.length then none
  else
    match point, e with
    | none, none =>
      if whole.isEmpty then none
      else some (← Setting.ofInt? (if negative then -n else n), rest)
    | _, _ =>
      let e := e.getD 0 - (point.getD []).length
      some (.float (Double.ofDecimal negative n e), rest)

/-- A number. -/
def readNumber (cs : Rest) : Option (Setting × Rest) :=
  let (negative, cs) := Digits.sign cs
  let hexadecimal (cs : Rest) : Option (Setting × Rest) := do
    let n ← Digits.toNat? 16 (cs.takeWhile (Digits.isOf 16))
    some (← Setting.ofInt? (if negative then -n else n), cs.dropWhile (Digits.isOf 16))
  match cs with
  | 'I' :: 'n' :: 'f' :: 'i' :: 'n' :: 'i' :: 't' :: 'y' :: rest =>
    some (.float (.infinite negative), rest)
  | 'N' :: 'a' :: 'N' :: rest => some (.float .nan, rest)
  | '0' :: 'x' :: rest => hexadecimal rest
  | '0' :: 'X' :: rest => hexadecimal rest
  | cs => readDecimal negative cs

/-! ## Values -/

mutual

/-- A value. -/
def readValue (fuel : Nat) (cs : Rest) : Option (Setting × Rest) :=
  match fuel, cs with
  | _ + 1, 'n' :: 'u' :: 'l' :: 'l' :: rest => some (.absent, rest)
  | _ + 1, 't' :: 'r' :: 'u' :: 'e' :: rest => some (.bool true, rest)
  | _ + 1, 'f' :: 'a' :: 'l' :: 's' :: 'e' :: rest => some (.bool false, rest)
  | fuel + 1, '[' :: rest => do
    let (items, rest) ← readItems fuel [] rest
    some (.list items, rest)
  | fuel + 1, '\x7b' :: rest => do
    let (members, rest) ← readMembers fuel [] rest
    some (.table members, rest)
  | _ + 1, c :: rest =>
    if c = '"' ∨ c = '\'' then (readString c rest).map fun (s, rest) => (.text s, rest)
    else readNumber (c :: rest)
  | _, _ => none

/-- The items up to a closing bracket, newest first in `acc`. -/
def readItems (fuel : Nat) (acc : List Setting) (cs : Rest) : Option (List Setting × Rest) :=
  match fuel with
  | 0 => none
  | fuel + 1 => do
    match ← skip? cs with
    | ']' :: rest => some (acc.reverse, rest)
    | cs =>
      let (v, rest) ← readValue fuel cs
      match ← skip? rest with
      | ',' :: rest => readItems fuel (v :: acc) rest
      | ']' :: rest => some ((v :: acc).reverse, rest)
      | _ => none

/-- The members up to a closing brace. -/
def readMembers (fuel : Nat) (acc : List (String × Setting)) (cs : Rest) :
    Option (List (String × Setting) × Rest) :=
  match fuel with
  | 0 => none
  | fuel + 1 => do
    match ← skip? cs with
    | '\x7d' :: rest => some (acc, rest)
    | cs =>
      let (name, rest) ← readKey cs
      let ':' :: rest ← skip? rest | none
      let (v, rest) ← readValue fuel (← skip? rest)
      let acc := Setting.assign name v acc
      match ← skip? rest with
      | ',' :: rest => readMembers fuel acc rest
      | '\x7d' :: rest => some (acc, rest)
      | _ => none

end

/-- The settings of a file. -/
def parse (text : String) : Option Setting := do
  let cs ← skip? text.toList
  let (.table members, rest) ← readValue (2 * cs.length + 2) cs | none
  if (← skip? rest).isEmpty then some (.ofRoot members) else none

end ClusterNode.Json5
