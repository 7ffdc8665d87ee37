import ClusterNode.Json.Number
import ClusterNode.Text.Lossy

/-!
# Reading JSON text

`Json.parse` accepts exactly the texts of one value between blanks. The fuel of
the recursive readers is twice the length of the text: two of their steps consume
at least one character, so the fuel of `Json.parse` never runs out first.
-/

namespace ClusterNode.Json

/-- The blanks of JSON. -/
def isSpace (c : Char) : Bool := c == ' ' || c == '\n' || c == '\t' || c == '\r'

/-- Drop blanks in front. -/
def skipSpace (cs : List Char) : List Char := cs.dropWhile isSpace

/-- The number of four hexadecimal digits. -/
def hex4? (a b c d : Char) : Option Nat := Digits.toNat? 16 [a, b, c, d]

/-- The character named by a letter after a backslash. -/
def escaped? : Char → Option Char
  | '"' => some '"'
  | '\\' => some '\\'
  | '/' => some '/'
  | 'b' => some '\x08'
  | 'f' => some '\x0c'
  | 'n' => some '\n'
  | 'r' => some '\r'
  | 't' => some '\t'
  | _ => none

/-- A unit of string content: a character, or half of a surrogate pair. -/
inductive Unit16 where
  | char (c : Char)
  | surrogate (n : Nat)

/-- The unit spelled by four hexadecimal digits. -/
def Unit16.ofNat (n : Nat) : Unit16 :=
  if 0xD800 ≤ n ∧ n < 0xE000 then .surrogate n else .char (Char.ofNat n)

/-- Join surrogate pairs, newest unit first; none if half a pair stands alone. -/
def joinUnits (acc : List Char) : List Unit16 → Option (List Char)
  | [] => some acc
  | .char c :: rest => joinUnits (c :: acc) rest
  | .surrogate lo :: .surrogate hi :: rest =>
    if 0xDC00 ≤ lo ∧ hi < 0xDC00 then
      joinUnits (Char.ofNat (0x10000 + (hi - 0xD800) * 0x400 + (lo - 0xDC00)) :: acc) rest
    else none
  | .surrogate _ :: _ => none

/-- The content of a string up to its closing quote, newest unit first. -/
def readUnits (acc : List Unit16) : List Char → Option (List Unit16 × List Char)
  | [] => none
  | '"' :: rest => some (acc, rest)
  | '\\' :: 'u' :: a :: b :: c :: d :: rest =>
    match hex4? a b c d with
    | some n => readUnits (.ofNat n :: acc) rest
    | none => none
  | '\\' :: c :: rest =>
    match escaped? c with
    | some c => readUnits (.char c :: acc) rest
    | none => none
  | c :: rest =>
    if c.toNat < 0x20 || c = '\\' then none else readUnits (.char c :: acc) rest

/-- A string after its opening quote; no text if half a surrogate pair stands alone. -/
def readString (cs : List Char) : Option (Option String × List Char) :=
  (readUnits [] cs).map fun (units, rest) => ((joinUnits [] units).map String.ofList, rest)

/-- The digits in front of a text, and what follows them. -/
def spanDigits (cs : List Char) : List Char × List Char :=
  (cs.takeWhile Char.isDigit, cs.dropWhile Char.isDigit)

/-- The digits after a decimal point, if there is one. -/
def readFraction : List Char → Option (Option (List Char) × List Char)
  | '.' :: rest =>
    match spanDigits rest with
    | ([], _) => none
    | (ds, rest) => some (some ds, rest)
  | cs => some (none, cs)

/-- The exponent after its letter. -/
def readExponentValue (cs : List Char) : Option (Int × List Char) :=
  let (negative, cs) := match cs with
    | '-' :: rest => (true, rest)
    | '+' :: rest => (false, rest)
    | _ => (false, cs)
  match spanDigits cs with
  | ([], _) => none
  | (ds, rest) =>
    let e : Int := Digits.toNat 10 ds
    some (if negative then -e else e, rest)

/-- The exponent of a number, if there is one. -/
def readExponent : List Char → Option (Option Int × List Char)
  | 'e' :: rest => (readExponentValue rest).map fun (e, rest) => (some e, rest)
  | 'E' :: rest => (readExponentValue rest).map fun (e, rest) => (some e, rest)
  | cs => some (none, cs)

/-- The integer digits of a number: no zero in front of others. -/
def readWhole (cs : List Char) : Option (List Char × List Char) :=
  match spanDigits cs with
  | ([], _) => none
  | ('0' :: _ :: _, _) => none
  | (ds, rest) => some (ds, rest)

/-- A number. -/
def readNumber (cs : List Char) : Option (Number × List Char) := do
  let (negative, cs) := match cs with
    | '-' :: rest => (true, rest)
    | _ => (false, cs)
  let (whole, cs) ← readWhole cs
  let (fraction, cs) ← readFraction cs
  let (exponent, cs) ← readExponent cs
  some (.ofParts negative whole fraction exponent, cs)

/-- Containers nested this deep are passed over without a value. -/
def depthLimit : Nat := 128

mutual

/-- A value, inside `depth` containers. -/
def readValue (fuel depth : Nat) (cs : List Char) : Option (Json × List Char) :=
  match fuel with
  | 0 => none
  | fuel + 1 =>
    match skipSpace cs with
    | 'n' :: 'u' :: 'l' :: 'l' :: rest => some (.null, rest)
    | 't' :: 'r' :: 'u' :: 'e' :: rest => some (.bool true, rest)
    | 'f' :: 'a' :: 'l' :: 's' :: 'e' :: rest => some (.bool false, rest)
    | '"' :: rest => (readString rest).map fun (s, rest) => (s.elim .skipped .str, rest)
    | '[' :: rest =>
      match skipSpace rest with
      | ']' :: rest => some (if depth + 1 < depthLimit then .arr [] else .skipped, rest)
      | rest => do
        let (items, rest) ← readItems fuel (depth + 1) [] rest
        some (if depth + 1 < depthLimit then .arr items else .skipped, rest)
    | '\x7b' :: rest =>
      match skipSpace rest with
      | '\x7d' :: rest => some (if depth + 1 < depthLimit then .obj [] else .skipped, rest)
      | rest => do
        let (members, rest) ← readMembers fuel (depth + 1) (some []) rest
        some (if depth + 1 < depthLimit then members.elim .skipped .obj else .skipped, rest)
    | rest => do
      let (n, rest) ← readNumber rest
      some (if n.isFinite then .num n else .skipped, rest)

/-- The items up to a closing bracket, newest first in `acc`. -/
def readItems (fuel depth : Nat) (acc : List Json) (cs : List Char) :
    Option (List Json × List Char) :=
  match fuel with
  | 0 => none
  | fuel + 1 => do
    let (v, rest) ← readValue fuel depth cs
    match skipSpace rest with
    | ',' :: rest => readItems fuel depth (v :: acc) rest
    | ']' :: rest => some ((v :: acc).reverse, rest)
    | _ => none

/-- The members up to a closing brace, newest first in `acc`; none if a name has no text. -/
def readMembers (fuel depth : Nat) (acc : Option (List (String × Json))) (cs : List Char) :
    Option (Option (List (String × Json)) × List Char) :=
  match fuel with
  | 0 => none
  | fuel + 1 =>
    match skipSpace cs with
    | '"' :: rest => do
      let (name, rest) ← readString rest
      match skipSpace rest with
      | ':' :: rest =>
        let (v, rest) ← readValue fuel depth rest
        let acc := do some ((← name, v) :: (← acc))
        match skipSpace rest with
        | ',' :: rest => readMembers fuel depth acc rest
        | '\x7d' :: rest => some (acc.map List.reverse, rest)
        | _ => none
      | _ => none
    | _ => none

end

/-- The value of characters that hold one value and blanks. -/
def ofChars (cs : List Char) : Option Json := do
  let (v, rest) ← readValue (2 * cs.length + 2) 0 cs
  if (skipSpace rest).isEmpty then some v else none

/-- The value of a text that holds one value and blanks. -/
def parse (text : String) : Option Json := ofChars text.toList

/-- Two halves of surrogate pairs that join neither each other nor a neighbour. -/
def halves : List Char := "\\uD800\\uD800".toList

/-- The characters of a text in which some are broken. A broken one is spelled as
`halves`: a string may hold it, but then has no text, and it may stand nowhere else.
It is no escape either. -/
def spellBroken (escaped : Bool) : List (Option Char) → List Char
  | [] => []
  | some c :: rest => c :: spellBroken (c == '\\' && !escaped) rest
  | none :: rest =>
    if escaped then Text.replacement :: spellBroken false rest
    else halves ++ spellBroken false rest

/-- The value of bytes, which are UTF-8 except in strings that are passed over. -/
def parseUtf8 (bytes : Bytes) : Option Json :=
  match Bytes.toText? bytes with
  | some text => parse text
  | none => ofChars (spellBroken false (Text.decode bytes.length bytes))

end ClusterNode.Json
