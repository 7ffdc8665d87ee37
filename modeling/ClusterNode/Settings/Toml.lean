import ClusterNode.Number.Digits
import ClusterNode.Settings.Setting

/-!
# TOML files

A file is read line by line into a tree of `Node`s. A table remembers how it came
to be, because only a table that was merely passed through by a header may still
get a header of its own, and only a table made by dotted keys may get more of them.

The readers take the rest of the text and give back what follows. Every step
consumes a character, so the length of the text is fuel enough for them.
-/

namespace ClusterNode.Toml

/-! ## Text -/

/-- The rest of a text. -/
abbrev Rest := List Char

/-- Whether a character is a blank within a line. -/
def isBlank (c : Char) : Bool := c == ' ' || c == '\t'

/-- Drop the blanks within a line. -/
def skipBlank (cs : Rest) : Rest := cs.dropWhile isBlank

/-- Whether a character may stand in a comment or a string as it is. -/
def isPlain (c : Char) : Bool := c == '\t' || (0x20 ≤ c.toNat && c.toNat != 0x7F)

/-- Drop the end of a line. -/
def dropBreak? : Rest → Option Rest
  | '\n' :: rest => some rest
  | '\r' :: '\n' :: rest => some rest
  | _ => none

/-- Drop a comment. -/
def skipComment? : Rest → Option Rest
  | '#' :: rest =>
    let rest := rest.dropWhile isPlain
    if rest.isEmpty || (dropBreak? rest).isSome then some rest else none
  | cs => some cs

/-- Drop blanks, comments and ends of lines. -/
def skipLines? (fuel : Nat) (cs : Rest) : Option Rest := do
  let cs ← skipComment? (skipBlank cs)
  match fuel, dropBreak? cs with
  | fuel + 1, some rest => skipLines? fuel rest
  | _, _ => some cs

/-- The character after a backslash. -/
def escape? : Rest → Option (Char × Rest)
  | 'b' :: rest => some ('\x08', rest)
  | 't' :: rest => some ('\t', rest)
  | 'n' :: rest => some ('\n', rest)
  | 'f' :: rest => some ('\x0c', rest)
  | 'r' :: rest => some ('\r', rest)
  | 'e' :: rest => some ('\x1b', rest)
  | '"' :: rest => some ('"', rest)
  | '\\' :: rest => some ('\\', rest)
  | 'x' :: rest => Digits.charOf? 2 rest
  | 'u' :: rest => Digits.charOf? 4 rest
  | 'U' :: rest => Digits.charOf? 8 rest
  | _ => none

/-- A string of one line, after its opening quote. -/
def readString (fuel : Nat) (escapes : Bool) (q : Char) (acc : List Char) (cs : Rest) :
    Option (String × Rest) :=
  match fuel, cs with
  | fuel + 1, c :: rest =>
    if c = q then some (String.ofList acc.reverse, rest)
    else if escapes && c == '\\' then do
      let (e, rest) ← escape? rest
      readString fuel escapes q (e :: acc) rest
    else if isPlain c then readString fuel escapes q (c :: acc) rest
    else none
  | _, _ => none

/-- Drop blanks and ends of lines. -/
def skipSpace : Rest → Rest
  | '\r' :: '\n' :: rest => skipSpace rest
  | c :: rest => if isBlank c || c == '\n' then skipSpace rest else c :: rest
  | [] => []

/-- What follows a backslash at the end of a line. -/
def joinLine? (cs : Rest) : Option Rest :=
  if (dropBreak? (skipBlank cs)).isSome then some (skipSpace cs) else none

/-- A string of several lines, after its opening quotes; up to two quotes may stand
in front of the three that close it. -/
def readLong (fuel : Nat) (escapes : Bool) (q : Char) (acc : List Char) (cs : Rest) :
    Option (String × Rest) :=
  match fuel, cs with
  | fuel + 1, c :: rest =>
    if c = q then
      let n := ((c :: rest).takeWhile (· == q)).length
      if n < 3 then readLong fuel escapes q (c :: acc) rest
      else if 5 < n then none
      else
        some (String.ofList ((List.replicate (n - 3) q ++ acc).reverse), (c :: rest).drop n)
    else if escapes && c == '\\' then
      match joinLine? rest with
      | some rest => readLong fuel escapes q acc rest
      | none => do
        let (e, rest) ← escape? rest
        readLong fuel escapes q (e :: acc) rest
    else if isPlain c then readLong fuel escapes q (c :: acc) rest
    else
      match c :: rest with
      | '\n' :: rest => readLong fuel escapes q ('\n' :: acc) rest
      | '\r' :: '\n' :: rest => readLong fuel escapes q ('\n' :: '\r' :: acc) rest
      | _ => none
  | _, _ => none

/-- A string of any form. -/
def string? (fuel : Nat) (cs : Rest) : Option (String × Rest) :=
  let opened (rest : Rest) : Rest := (dropBreak? rest).getD rest
  match cs with
  | '"' :: '"' :: '"' :: rest => readLong fuel true '"' [] (opened rest)
  | '\'' :: '\'' :: '\'' :: rest => readLong fuel false '\'' [] (opened rest)
  | '"' :: rest => readString fuel true '"' [] rest
  | '\'' :: rest => readString fuel false '\'' [] rest
  | _ => none

/-! ## Keys -/

/-- Whether a character may stand in a key without quotes. -/
def isKeyChar (c : Char) : Bool := c.isAlphanum || c == '_' || c == '-'

/-- One part of a key. -/
def keyPart? (fuel : Nat) : Rest → Option (String × Rest)
  | '"' :: rest => readString fuel true '"' [] rest
  | '\'' :: rest => readString fuel false '\'' [] rest
  | cs =>
    match cs.takeWhile isKeyChar with
    | [] => none
    | ds => some (String.ofList ds, cs.dropWhile isKeyChar)

/-- How deep values nest, and how many parts a key has at most. -/
def depthLimit : Nat := 80

/-- At most `count` parts of a key with dots between them. -/
def keyParts? (count : Nat) (cs : Rest) : Option (List String × Rest) :=
  match count with
  | 0 => none
  | count + 1 => do
    let (part, rest) ← keyPart? cs.length (skipBlank cs)
    match skipBlank rest with
    | '.' :: rest => do
      let (parts, rest) ← keyParts? count rest
      some (part :: parts, rest)
    | rest => some ([part], rest)

/-- A key. -/
def key? (cs : Rest) : Option (List String × Rest) := keyParts? depthLimit cs

/-! ## Numbers and times -/

/-- The digits of a number, of which neighbours may be parted by one underscore. -/
def joined? (isDigit : Char → Bool) : List Char → Option (List Char)
  | [] => none
  | [c] => if isDigit c then some [c] else none
  | c :: '_' :: rest => if isDigit c then (joined? isDigit rest).map (c :: ·) else none
  | c :: rest => if isDigit c then (joined? isDigit rest).map (c :: ·) else none

/-- Whether decimal digits have no zero in front of others. -/
def isCanonical : List Char → Bool
  | ['0'] => true
  | '0' :: _ => false
  | _ => true

/-- An integer. -/
def integer? (cs : List Char) : Option Setting := do
  match cs with
  | '0' :: 'x' :: ds => Setting.ofInt? (Digits.toNat 16 (← joined? (Digits.isOf 16) ds))
  | '0' :: 'o' :: ds => Setting.ofInt? (Digits.toNat 8 (← joined? (Digits.isOf 8) ds))
  | '0' :: 'b' :: ds => Setting.ofInt? (Digits.toNat 2 (← joined? (Digits.isOf 2) ds))
  | _ =>
    let (negative, ds) := Digits.sign cs
    let ds ← joined? Char.isDigit ds
    let n : Int := Digits.toNat 10 ds
    if isCanonical ds then Setting.ofInt? (if negative then -n else n) else none

/-- The exponent of a float. -/
def exponent? (cs : List Char) : Option Int := do
  let (negative, ds) := Digits.sign cs
  let n : Int := Digits.toNat 10 (← joined? Char.isDigit ds)
  some (if negative then -n else n)

/-- A float: a fraction, an exponent or both, or one of the words. -/
def float? (cs : List Char) : Option Setting := do
  let (negative, body) := Digits.sign cs
  if body = "inf".toList then some (.float (.infinite negative))
  else if body = "nan".toList then some (.float .nan)
  else
    let isMark (c : Char) := c == 'e' || c == 'E'
    let mantissa := body.takeWhile fun c => !isMark c
    let after := body.dropWhile fun c => !isMark c
    let whole ← joined? Char.isDigit (mantissa.takeWhile (· != '.'))
    let fraction ← match mantissa.dropWhile (· != '.') with
      | [] => some []
      | _ :: ds => joined? Char.isDigit ds
    let e ← match after with
      | [] => some 0
      | _ :: ds => exponent? ds
    if !isCanonical whole || (fraction.isEmpty && after.isEmpty) then none
    else
      match Double.ofDecimal negative (Digits.toNat 10 (whole ++ fraction)) (e - fraction.length) with
      | .infinite _ => none
      | x => some (.float x)

/-- A number of `n` digits in front of a text. -/
def digits? (n : Nat) (cs : List Char) : Option (Nat × List Char) :=
  let ds := cs.take n
  if ds.length = n ∧ ds.all Char.isDigit then some (Digits.toNat 10 ds, cs.drop n) else none

/-- The number of days of a month. -/
def daysOf (year month : Nat) : Nat :=
  if month = 2 then
    if year % 4 = 0 ∧ (year % 100 ≠ 0 ∨ year % 400 = 0) then 29 else 28
  else if month = 4 ∨ month = 6 ∨ month = 9 ∨ month = 11 then 30
  else 31

/-- A date, and what follows it. -/
def date? (cs : List Char) : Option (List Char × List Char) := do
  let (year, rest) ← digits? 4 cs
  let '-' :: rest := rest | none
  let (month, rest) ← digits? 2 rest
  let '-' :: rest := rest | none
  let (day, rest) ← digits? 2 rest
  if 1 ≤ month ∧ month ≤ 12 ∧ 1 ≤ day ∧ day ≤ daysOf year month then some (cs.take 10, rest)
  else none

/-- The fraction of a second, to the nanosecond and without zeros at its end. -/
def fraction? : List Char → Option (List Char × List Char)
  | '.' :: rest =>
    let ds := rest.takeWhile Char.isDigit
    if ds.isEmpty then none
    else
      let kept := ((ds.take 9).reverse.dropWhile (· == '0')).reverse
      some ('.' :: (if kept.isEmpty then ['0'] else kept), rest.dropWhile Char.isDigit)
  | cs => some ([], cs)

/-- A time of day, and what follows it. -/
def time? (cs : List Char) : Option (List Char × List Char) := do
  let (hour, rest) ← digits? 2 cs
  let ':' :: rest := rest | none
  let (minute, rest) ← digits? 2 rest
  if 23 < hour ∨ 59 < minute then none
  else
    match rest with
    | ':' :: rest => do
      let (second, rest) ← digits? 2 rest
      let (fraction, rest) ← fraction? rest
      if 60 < second then none else some (cs.take 8 ++ fraction, rest)
    | rest => some (cs.take 5, rest)

/-- The offset of a time from UTC; one of zero gets a plus sign. -/
def offset? : List Char → Option (List Char)
  | [] => some []
  | ['Z'] => some ['Z']
  | ['z'] => some ['Z']
  | s :: rest => do
    let (hour, rest') ← digits? 2 rest
    let ':' :: rest' := rest' | none
    let (minute, []) ← digits? 2 rest' | none
    let s' := if hour = 0 ∧ minute = 0 then '+' else s
    if (s = '+' ∨ s = '-') ∧ hour ≤ 23 ∧ minute ≤ 59 then some (s' :: rest) else none

/-- A date, a time or both, as a text. -/
def moment? (cs : List Char) : Option Setting :=
  match date? cs with
  | some (date, []) => some (.text (String.ofList date))
  | some (date, c :: rest) => do
    if c = 'T' ∨ c = 't' ∨ c = ' ' then
      let (time, rest) ← time? rest
      some (.text (String.ofList (date ++ 'T' :: time ++ (← offset? rest))))
    else none
  | none => do
    let (time, []) ← time? cs | none
    some (.text (String.ofList time))

/-- Whether a character may stand in a value without quotes. -/
def isAtomChar (c : Char) : Bool :=
  c.isAlphanum || c == '+' || c == '-' || c == '_' || c == '.' || c == ':'

/-- The characters of a value without quotes; a blank may stand between a date and
a time. -/
def atom (cs : Rest) : List Char × Rest :=
  let word := cs.takeWhile isAtomChar
  match cs.dropWhile isAtomChar with
  | ' ' :: c :: rest =>
    if c.isDigit && (date? word).any (·.2.isEmpty) then
      (word ++ ' ' :: (c :: rest).takeWhile isAtomChar, (c :: rest).dropWhile isAtomChar)
    else (word, ' ' :: c :: rest)
  | rest => (word, rest)

/-- A value without quotes. -/
def atom? (cs : Rest) : Option (Setting × Rest) := do
  let (word, rest) := atom cs
  let v ←
    if word = "true".toList then some (.bool true)
    else if word = "false".toList then some (.bool false)
    else integer? word <|> float? word <|> moment? word
  some (v, rest)

/-! ## Tables -/

/-- How a table came to be. -/
inductive Origin where
  /-- It has a header of its own. -/
  | header
  /-- A header of a table below it passed through. -/
  | passed
  /-- It was made by dotted keys. -/
  | dotted
  deriving DecidableEq

/-- A part of the tree of a file. -/
inductive Node where
  /-- A value that nothing can be added to. -/
  | value (v : Setting)
  | table (origin : Origin) (members : List (String × Node))
  /-- The tables of one doubly bracketed header, newest first. -/
  | tables (items : List (List (String × Node)))
  deriving Inhabited

mutual

/-- The setting of a node. -/
def Node.setting : Node → Setting
  | .value v => v
  | .table _ members => .table (settings members)
  | .tables items => .list (settingsOfTables [] items)

/-- The settings of members. -/
def settings : List (String × Node) → List (String × Setting)
  | [] => []
  | (k, n) :: rest => (k, n.setting) :: settings rest

/-- The settings of tables, put in front of others in reverse. -/
def settingsOfTables (acc : List Setting) : List (List (String × Node)) → List Setting
  | [] => acc
  | members :: rest => settingsOfTables (.table (settings members) :: acc) rest

end

/-- The node of a name. -/
def find? (name : String) (ms : List (String × Node)) : Option Node :=
  (ms.find? (·.1 == name)).map (·.2)

/-- Set the node of a name. -/
def put (name : String) (n : Node) : List (String × Node) → List (String × Node)
  | [] => [(name, n)]
  | (k, old) :: rest => if k = name then (k, n) :: rest else (k, old) :: put name n rest

/-- Change the table that a header names, from the tables above it. -/
def alter (change : List (String × Node) → Option (List (String × Node))) :
    List String → List (String × Node) → Option (List (String × Node))
  | [], ms => change ms
  | name :: path, ms =>
    match find? name ms with
    | none => do some (put name (.table .passed (← alter change path [])) ms)
    | some (.table origin below) => do
      some (put name (.table origin (← alter change path below)) ms)
    | some (.tables (newest :: older)) => do
      some (put name (.tables ((← alter change path newest) :: older)) ms)
    | some _ => none

/-- Open the table of a header. -/
def openTable : List String → List (String × Node) → Option (List (String × Node))
  | path, root =>
    match path.reverse with
    | [] => none
    | name :: above =>
      alter (fun ms =>
        match find? name ms with
        | none => some (put name (.table .header []) ms)
        | some (.table .passed below) => some (put name (.table .header below) ms)
        | some _ => none) above.reverse root

/-- Add a table to those of a doubly bracketed header. -/
def addTable (path : List String) (root : List (String × Node)) :
    Option (List (String × Node)) :=
  match path.reverse with
  | [] => none
  | name :: above =>
    alter (fun ms =>
      match find? name ms with
      | none => some (put name (.tables [[]]) ms)
      | some (.tables items) => some (put name (.tables ([] :: items)) ms)
      | some _ => none) above.reverse root

/-- Set a value below a table. The tables between them are made by dots; those that a
header passed through count as made by them from then on. -/
def setValue (v : Setting) : List String → List (String × Node) → Option (List (String × Node))
  | [], _ => none
  | [name], ms =>
    match find? name ms with
    | none => some (put name (.value v) ms)
    | some _ => none
  | name :: path, ms =>
    match find? name ms with
    | none => do some (put name (.table .dotted (← setValue v path [])) ms)
    | some (.table .header _) => none
    | some (.table _ below) => do
      some (put name (.table .dotted (← setValue v path below)) ms)
    | some (.tables (newest :: older)) =>
      match path with
      | [_] => none
      | _ => do some (put name (.tables ((← setValue v path newest) :: older)) ms)
    | some _ => none

/-! ## Values and lines -/

mutual

/-- A value that may nest to a depth. -/
def readValue (fuel depth : Nat) (cs : Rest) : Option (Setting × Rest) :=
  match fuel, cs with
  | fuel + 1, '[' :: rest =>
    match depth with
    | 0 => none
    | depth + 1 => do
      let (items, rest) ← readItems fuel depth [] rest
      some (.list items, rest)
  | fuel + 1, '\x7b' :: rest =>
    match depth with
    | 0 => none
    | depth + 1 => do
      let (members, rest) ← readMembers fuel depth [] rest
      some (.table (settings members), rest)
  | fuel + 1, c :: rest =>
    if c = '"' ∨ c = '\'' then
      (string? (fuel + 1) (c :: rest)).map fun (s, rest) => (.text s, rest)
    else atom? (c :: rest)
  | _, _ => none

/-- The items up to a closing bracket, newest first in `acc`. -/
def readItems (fuel depth : Nat) (acc : List Setting) (cs : Rest) :
    Option (List Setting × Rest) :=
  match fuel with
  | 0 => none
  | fuel + 1 => do
    match ← skipLines? cs.length cs with
    | ']' :: rest => some (acc.reverse, rest)
    | cs =>
      let (v, rest) ← readValue fuel depth cs
      match ← skipLines? rest.length rest with
      | ',' :: rest => readItems fuel depth (v :: acc) rest
      | ']' :: rest => some ((v :: acc).reverse, rest)
      | _ => none

/-- The members up to a closing brace. -/
def readMembers (fuel depth : Nat) (acc : List (String × Node)) (cs : Rest) :
    Option (List (String × Node) × Rest) :=
  match fuel with
  | 0 => none
  | fuel + 1 => do
    match ← skipLines? cs.length cs with
    | '\x7d' :: rest => some (acc, rest)
    | cs =>
      let (path, rest) ← key? cs
      let '=' :: rest ← skipLines? rest.length rest | none
      let (v, rest) ← readValue fuel depth (← skipLines? rest.length rest)
      let acc ← setValue v path acc
      match ← skipLines? rest.length rest with
      | ',' :: rest => readMembers fuel depth acc rest
      | '\x7d' :: rest => some (acc, rest)
      | _ => none

end

/-- The file so far: its tables, and the header of the lines to come. -/
structure Progress where
  root : List (String × Node)
  header : List String

/-- A header, after its first bracket. -/
def readHeader (p : Progress) (cs : Rest) : Option (Progress × Rest) :=
  match cs with
  | '[' :: rest => do
    let (path, ']' :: ']' :: rest) ← key? rest | none
    some (⟨← addTable path p.root, path⟩, rest)
  | cs => do
    let (path, ']' :: rest) ← key? cs | none
    some (⟨← openTable path p.root, path⟩, rest)

/-- A key with its value. -/
def readPair (p : Progress) (cs : Rest) : Option (Progress × Rest) := do
  let (path, '=' :: rest) ← key? cs | none
  let rest := skipBlank rest
  let (v, rest) ← readValue (rest.length + 1) depthLimit rest
  some ({ p with root := ← alter (setValue v path) p.header p.root }, rest)

/-- The lines of a file. -/
def readLines (fuel : Nat) (p : Progress) (cs : Rest) : Option (List (String × Node)) :=
  match fuel with
  | 0 => none
  | fuel + 1 => do
    match ← skipLines? cs.length cs with
    | [] => some p.root
    | cs =>
      let (p, rest) ← match cs with
        | '[' :: rest => readHeader p rest
        | cs => readPair p cs
      let rest ← skipComment? (skipBlank rest)
      if rest.isEmpty then some p.root
      else
        let rest ← dropBreak? rest
        readLines fuel p rest

/-- The settings of a file; a byte order mark in front is no part of it. -/
def parse (text : String) : Option Setting := do
  let cs := match text.toList with
    | '\uFEFF' :: rest => rest
    | cs => cs
  let root ← readLines (cs.length + 1) ⟨[], []⟩ cs
  some (.ofRoot (settings root))

end ClusterNode.Toml
