import ClusterNode.Settings.Setting
import ClusterNode.Text.Identifier

/-!
# RON files

RON writes a record as named members in parentheses, with the name of its type in
front or not, a tuple as items in parentheses, a map in braces with any values as
names, and an optional value as `None` or `Some(…)`. A record and a map whose names
are texts are both tables here, a name that stands alone is an absent value, and of
members with one name the last one counts.

The readers take the rest of the text and give back what follows. Every step consumes
a character, so that the length of the text bounds their number.
-/

namespace ClusterNode.Ron

/-- The rest of a text. -/
abbrev Rest := List Char

/-! ## Blanks -/

/-- Whether a character is a blank. -/
def isBlank (c : Char) : Bool :=
  " \t\n\r\x0b\x0c\x85\u200E\u200F\u2028\u2029".toList.contains c

/-- What follows the end of a comment, inside of which `depth` others are open. -/
def afterComment? (depth : Nat) : Rest → Option Rest
  | '*' :: '/' :: rest =>
    match depth with
    | 0 => some rest
    | depth + 1 => afterComment? depth rest
  | '/' :: '*' :: rest => afterComment? (depth + 1) rest
  | _ :: rest => afterComment? depth rest
  | [] => none

/-- Drop blanks and comments. -/
def skipSpace? (fuel : Nat) (cs : Rest) : Option Rest :=
  match fuel, cs with
  | fuel + 1, '/' :: '/' :: rest => skipSpace? fuel (rest.dropWhile (· != '\n'))
  | fuel + 1, '/' :: '*' :: rest => afterComment? 0 rest >>= skipSpace? fuel
  | _ + 1, '/' :: _ => none
  | fuel + 1, c :: rest => if isBlank c then skipSpace? fuel rest else some (c :: rest)
  | _, cs => some cs

/-- Drop all blanks and comments in front. -/
def skip? (cs : Rest) : Option Rest := skipSpace? cs.length cs

/-! ## Names -/

/-- Letters that no name may start with, because they do not stay letters when they are
taken apart. -/
def unstable : List Nat :=
  [0x037A, 0x0E33, 0x0EB3, 0x2E2F, 0xFC5E, 0xFC5F, 0xFC60, 0xFC61, 0xFC62, 0xFC63, 0xFDFA,
    0xFDFB, 0xFE70, 0xFE72, 0xFE74, 0xFE76, 0xFE78, 0xFE7A, 0xFE7C, 0xFE7E, 0xFF9E, 0xFF9F]

/-- The letters among `unstable` that may stand in a name. -/
def unstableInside : List Nat := [0x0E33, 0x0EB3, 0xFF9E, 0xFF9F]

/-- Characters that are no letters, but may stand wherever letters may. -/
def likeLetters : List Nat := [0x1885, 0x1886, 0x2118, 0x212E]

/-- Characters that neither are letters nor follow them, but may stand in a name. -/
def likeFollowers : List Nat :=
  [0x00B7, 0x0387, 0x1369, 0x136A, 0x136B, 0x136C, 0x136D, 0x136E, 0x136F, 0x1370, 0x1371,
    0x19DA, 0x200C, 0x200D, 0x30FB, 0xFF65]

/-- Whether a name may start with a character. -/
def startsName (c : Char) : Bool :=
  let n := c.toNat
  c == '_' || (Text.isLetter c && !unstable.contains n) || likeLetters.contains n

/-- Whether a character may stand in a name. -/
def isNameChar (c : Char) : Bool :=
  let n := c.toNat
  startsName c || Text.isFollower c || unstableInside.contains n || likeFollowers.contains n

/-- Whether a character may stand in a name after its mark `r#`. -/
def isRawNameChar (c : Char) : Bool := c.isAlphanum || "_.+-".toList.contains c

/-- The name in front of a text, and what follows it. A string may start like one. -/
def name? (cs : Rest) : Option (String × Rest) :=
  match cs with
  | 'b' :: '"' :: _ => none
  | 'b' :: '\'' :: _ => none
  | 'b' :: 'r' :: '"' :: _ => none
  | 'b' :: 'r' :: '#' :: _ => none
  | 'r' :: '"' :: _ => none
  | 'r' :: '#' :: rest =>
    match rest.takeWhile isRawNameChar with
    | [] => none
    | name => some (String.ofList name, rest.dropWhile isRawNameChar)
  | c :: rest =>
    if startsName c then
      some (String.ofList (c :: rest.takeWhile isNameChar), rest.dropWhile isNameChar)
    else none
  | [] => none

/-- What follows a word in front of a text, unless a longer name stands there. -/
def afterWord? (word : String) (cs : Rest) : Option Rest :=
  let rest := cs.drop word.length
  if word.toList.isPrefixOf cs && !rest.head?.any isNameChar then some rest else none

/-! ## Texts -/

/-- The character that an escape stands for, and what follows it. -/
def escape? : Rest → Option (Char × Rest)
  | 'n' :: rest => some ('\n', rest)
  | 'r' :: rest => some ('\r', rest)
  | 't' :: rest => some ('\t', rest)
  | '0' :: rest => some ('\x00', rest)
  | '\\' :: rest => some ('\\', rest)
  | '"' :: rest => some ('"', rest)
  | '\'' :: rest => some ('\'', rest)
  | 'x' :: rest => Digits.charOf? 2 rest
  | 'u' :: '\x7b' :: rest =>
    let ds := rest.takeWhile (· != '\x7d')
    match rest.drop ds.length with
    | _ :: rest =>
      if 6 < ds.length then none
      else do some (← Digits.toNat? 16 ds >>= Digits.char?, rest)
    | [] => none
  | _ => none

/-- A string after its opening quote. -/
def readString (fuel : Nat) (acc : List Char) (cs : Rest) : Option (String × Rest) :=
  match fuel, cs with
  | _ + 1, '"' :: rest => some (String.ofList acc.reverse, rest)
  | fuel + 1, '\\' :: rest => do
    let (c, rest) ← escape? rest
    readString fuel (c :: acc) rest
  | fuel + 1, c :: rest => readString fuel (c :: acc) rest
  | _, _ => none

/-- A string without escapes, up to a quote that `marks` number signs follow. -/
def readRaw (marks : Nat) (acc : List Char) : Rest → Option (String × Rest)
  | [] => none
  | c :: rest =>
    if c = '"' ∧ (rest.take marks).length = marks ∧ (rest.take marks).all (· == '#') then
      some (String.ofList acc.reverse, rest.drop marks)
    else readRaw marks (c :: acc) rest

/-- A string of either form. -/
def text? : Rest → Option (String × Rest)
  | '"' :: rest => readString rest.length [] rest
  | 'r' :: rest =>
    let marks := (rest.takeWhile (· == '#')).length
    match rest.drop marks with
    | '"' :: rest => readRaw marks [] rest
    | _ => none
  | _ => none

/-- A character after its opening quote. -/
def character? (cs : Rest) : Option (Char × Rest) := do
  let (c, rest) ← match cs with
    | '\\' :: rest => escape? rest
    | c :: rest => some (c, rest)
    | [] => none
  match rest with
  | '\'' :: rest => some (c, rest)
  | _ => none

/-! ## Numbers -/

/-- Whether a character may stand in an integer of some base. -/
def isIntegerChar (c : Char) : Bool := Digits.isOf 16 c || c == '_'

/-- Whether a character may stand in a float. -/
def isFloatChar (c : Char) : Bool := c.isDigit || "eE.+-_".toList.contains c

/-- The bounds of the integers of a type. -/
def boundsOf : String → Option (Int × Int)
  | "u8" => some (0, 0xFF)
  | "u16" => some (0, 0xFFFF)
  | "u32" => some (0, 0xFFFFFFFF)
  | "u64" => some (0, 0xFFFFFFFFFFFFFFFF)
  | "i8" => some (-0x80, 0x7F)
  | "i16" => some (-0x8000, 0x7FFF)
  | "i32" => some (-0x80000000, 0x7FFFFFFF)
  | "i64" => some (-0x8000000000000000, 0x7FFFFFFFFFFFFFFF)
  | _ => none

/-- The base that stands in front of digits. -/
def base : Rest → Nat × Rest
  | '0' :: 'b' :: rest => (2, rest)
  | '0' :: 'o' :: rest => (8, rest)
  | '0' :: 'x' :: rest => (16, rest)
  | cs => (10, cs)

/-- An integer. Its type may follow it; without one it has 64 bits, with a sign if there
is a minus. -/
def integer? (cs : Rest) : Option (Setting × Rest) := do
  let (negative, rest) := Digits.sign cs
  let (base, rest) := base rest
  let ds := rest.takeWhile isIntegerChar
  let rest := rest.dropWhile isIntegerChar
  let n : Int ← if ds.head? = some '_' then none else Digits.toNat? base (ds.filter (· != '_'))
  let n := if negative then -n else n
  let (type, rest) := match name? rest with
    | some (name, after) => if (boundsOf name).isSome then (name, after) else ("", rest)
    | none => ("", rest)
  let (low, high) ← if type.isEmpty then boundsOf (if negative then "i64" else "u64")
    else boundsOf type
  if low ≤ n ∧ n ≤ high then some (.int n, rest) else none

/-- The characters of a float without its underscores, none of which may start it or
follow its point. -/
def joined? (afterDigit : Bool) : List Char → Option (List Char)
  | [] => some []
  | '_' :: cs => if afterDigit then joined? true cs else none
  | c :: cs =>
    let after := c.isDigit || c == 'e' || c == 'E' || (afterDigit && c != '.')
    (joined? after cs).map (c :: ·)

/-- A float, which its type may follow. -/
def float? (cs : Rest) : Option (Setting × Rest) :=
  let (negative, rest) := Digits.sign cs
  let word? (word : String) : Option Rest :=
    afterWord? word rest <|> afterWord? (word ++ "f32") rest <|> afterWord? (word ++ "f64") rest
  match word? "inf", word? "NaN" with
  | some rest, _ => some (.float (.infinite negative), rest)
  | _, some rest => some (.float .nan, rest)
  | none, none => do
    let ds ← joined? false (cs.takeWhile isFloatChar)
    let rest := cs.dropWhile isFloatChar
    match afterWord? "f32" rest with
    | some rest => some (.float (← Double.ofCharsSingle? ds), rest)
    | none => some (.float (← Double.ofChars? ds), (afterWord? "f64" rest).getD rest)

/-- A number: a float if that is the longer reading, otherwise an integer, and a float
again where it is no integer after all. -/
def number? (cs : Rest) : Option (Setting × Rest) :=
  let body := match cs with
    | '+' :: rest => rest
    | '-' :: rest => rest
    | _ => cs
  if (body.takeWhile isIntegerChar).length < (body.takeWhile isFloatChar).length then float? cs
  else integer? cs <|> float? cs

/-! ## Values -/

/-- How deep values nest. -/
def depthLimit : Nat := 128

/-- The value of a word, and what follows it. -/
def word? (cs : Rest) : Option (Setting × Rest) :=
  let float? (word : String) : Option Rest :=
    afterWord? word cs <|> afterWord? (word ++ "f32") cs <|> afterWord? (word ++ "f64") cs
  ((afterWord? "true" cs).map (.bool true, ·)) <|>
    ((afterWord? "false" cs).map (.bool false, ·)) <|>
    ((afterWord? "None" cs).map (.absent, ·)) <|>
    ((float? "inf").map (.float (.infinite false), ·)) <|>
    ((float? "NaN").map (.float .nan, ·))

/-- Whether the parentheses that were opened hold named members. -/
def holdsMembers (cs : Rest) : Bool :=
  match name? cs with
  | some (_, rest) => ((skip? rest).bind List.head?) == some ':'
  | none => false

/-- What is left of a depth inside of a value. -/
def deeper? : Nat → Option Nat
  | 0 => none
  | depth + 1 => some depth

mutual

/-- A value that may nest to a depth. -/
def readValue (fuel depth : Nat) (cs : Rest) : Option (Setting × Rest) :=
  match fuel with
  | 0 => none
  | fuel + 1 =>
    match word? cs, cs with
    | some found, _ => some found
    | none, '(' :: ')' :: rest => some (.absent, rest)
    | none, cs =>
      match afterWord? "Some" cs with
      | some rest => do
        let '(' :: rest ← skip? rest | none
        let (v, rest) ← readValue fuel (← deeper? depth) (← skip? rest)
        match ← skip? rest with
        | ',' :: rest => do
          let ')' :: rest ← skip? rest | none
          some (v, rest)
        | ')' :: rest => some (v, rest)
        | _ => none
      | none =>
        match name? cs with
        | some (_, rest) => do
          match ← skip? rest with
          | '(' :: rest => readParentheses fuel depth rest
          | rest => some (.absent, rest)
        | none =>
          match cs with
          | '(' :: rest => readParentheses fuel depth rest
          | '[' :: rest => do
            let (items, rest) ← readItems fuel depth ']' [] rest
            some (.list items, rest)
          | '\x7b' :: rest => do
            let (members, rest) ← readMembers fuel depth false [] rest
            some (.table members, rest)
          | '\'' :: rest => (character? rest).map fun (c, rest) => (.text c.toString, rest)
          | 'b' :: '\'' :: rest =>
            (character? rest).map fun (c, rest) => (.int c.toNat, rest)
          | c :: rest =>
            if c = '"' ∨ c = 'r' then (text? (c :: rest)).map fun (s, rest) => (.text s, rest)
            else number? (c :: rest)
          | [] => none

/-- What stands in the parentheses that were opened: members or items. -/
def readParentheses (fuel depth : Nat) (cs : Rest) : Option (Setting × Rest) :=
  match fuel with
  | 0 => none
  | fuel + 1 => do
    let cs ← skip? cs
    if holdsMembers cs then
      let (members, rest) ← readMembers fuel depth true [] cs
      some (.table members, rest)
    else
      let (items, rest) ← readItems fuel depth ')' [] cs
      some (.list items, rest)

/-- The items up to a closing character, newest first in `acc`. -/
def readItems (fuel depth : Nat) (close : Char) (acc : List Setting) (cs : Rest) :
    Option (List Setting × Rest) :=
  match fuel with
  | 0 => none
  | fuel + 1 => do
    let cs ← skip? cs
    if cs.head? = some close then some (acc.reverse, cs.drop 1)
    else
      let (v, rest) ← readValue fuel (← deeper? depth) cs
      let rest ← skip? rest
      if rest.head? = some ',' then readItems fuel depth close (v :: acc) (rest.drop 1)
      else if rest.head? = some close then some ((v :: acc).reverse, rest.drop 1)
      else none

/-- The members up to a closing character; of a record they have names, otherwise texts
in their place. -/
def readMembers (fuel depth : Nat) (isRecord : Bool) (acc : List (String × Setting))
    (cs : Rest) : Option (List (String × Setting) × Rest) :=
  match fuel with
  | 0 => none
  | fuel + 1 => do
    let close := if isRecord then ')' else '\x7d'
    let cs ← skip? cs
    if cs.head? = some close then some (acc, cs.drop 1)
    else
      let inner ← deeper? depth
      let (name, rest) ←
        if isRecord then name? cs
        else
          match readValue fuel inner cs with
          | some (.text s, rest) => some (s, rest)
          | _ => none
      let ':' :: rest ← skip? rest | none
      let (v, rest) ← readValue fuel inner (← skip? rest)
      let acc := Setting.assign name v acc
      let rest ← skip? rest
      if rest.head? = some ',' then readMembers fuel depth isRecord acc (rest.drop 1)
      else if rest.head? = some close then some (acc, rest.drop 1)
      else none

end

/-! ## Files -/

/-- What may be switched on in front of a value; none of it matters to settings. -/
def extensions : List String :=
  ["unwrap_newtypes", "implicit_some", "unwrap_variant_newtypes", "explicit_struct_names"]

/-- Drop words in front, with blanks between them. -/
def dropAll? : List Char → Rest → Option Rest
  | [], cs => some cs
  | c :: more, cs => do
    match ← skip? cs with
    | d :: rest => if c = d then dropAll? more rest else none
    | [] => none

/-- Drop the names of extensions with commas between them. -/
def dropNames? (fuel : Nat) (cs : Rest) : Option Rest :=
  match fuel with
  | 0 => none
  | fuel + 1 => do
    let (name, rest) ← name? (← skip? cs)
    if !extensions.contains name then none
    else
      match ← skip? rest with
      | ',' :: rest =>
        let rest ← skip? rest
        if rest.head?.any startsName then dropNames? fuel rest else some rest
      | rest => some rest

/-- Drop the switches in front of a value. -/
def dropSwitches? (fuel : Nat) (cs : Rest) : Option Rest :=
  match fuel, cs with
  | fuel + 1, '#' :: rest => do
    let '[' :: rest ← dropAll? ['!'] rest >>= skip? | none
    let rest ← afterWord? "enable" (← skip? rest)
    let rest ← dropAll? ['('] rest
    let rest ← dropNames? (rest.length + 1) rest
    dropSwitches? fuel (← dropAll? [')', ']'] rest >>= skip?)
  | _, cs => some cs

/-- The settings of a file. -/
def parse (text : String) : Option Setting := do
  let cs ← skip? text.toList >>= dropSwitches? text.length
  let (.table members, rest) ← readValue (4 * cs.length + 4) depthLimit cs | none
  if (← skip? rest).isEmpty then some (.ofRoot members) else none

end ClusterNode.Ron
