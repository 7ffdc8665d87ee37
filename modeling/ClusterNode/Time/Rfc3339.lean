import ClusterNode.Json.Wire
import ClusterNode.Number.Digits
import ClusterNode.Text.Blank
import ClusterNode.Time.Timestamp

/-!
# The written form of timestamps

A timestamp is written in UTC with as many of 0, 3, 6 or 9 fraction digits as it
needs. Reading is loose: blanks may stand between the fields, a field may lack
its leading zero, and any offset from UTC below a day is accepted and taken off.
-/

namespace ClusterNode.Rfc3339

/-- The digits of a number, with zeros in front up to a width. -/
def padded (width n : Nat) : List Char :=
  let ds := Nat.toDigits 10 n
  List.replicate (width - ds.length) '0' ++ ds

/-- A year: outside four digits it carries its sign. -/
def formatYear (year : Int) : List Char :=
  if 0 ≤ year ∧ year ≤ 9999 then padded 4 year.toNat
  else (if year < 0 then '-' else '+') :: padded 4 year.natAbs

/-- The fraction of a second, in the fewest groups of three digits. -/
def formatFraction (nanos : Nat) : List Char :=
  if nanos = 0 then []
  else if nanos % 1000000 = 0 then '.' :: padded 3 (nanos / 1000000)
  else if nanos % 1000 = 0 then '.' :: padded 6 (nanos / 1000)
  else '.' :: padded 9 nanos

/-- The written form of the fields of a time. -/
def formatCivil (t : CivilTime) : List Char :=
  formatYear t.year ++ '-' :: padded 2 t.month ++ '-' :: padded 2 t.day ++
    'T' :: padded 2 t.hour ++ ':' :: padded 2 t.minute ++ ':' :: padded 2 t.second ++
    formatFraction t.nanos ++ ['Z']

/-- The written form of a timestamp. -/
def format (t : Timestamp) : String := String.ofList (formatCivil t.civil)

/-- At least one digit and at most `width`, after blanks. -/
def number? (width : Nat) (cs : List Char) : Option (Nat × List Char) :=
  let cs := Text.trimStart cs
  let ds := (cs.take width).takeWhile Char.isDigit
  if ds.isEmpty then none
  else some (ds.foldl (fun n d => n * 10 + (d.toNat - '0'.toNat)) 0, cs.drop ds.length)

/-- A year: four digits at most, unless it carries a sign. -/
def year? (cs : List Char) : Option (Int × List Char) :=
  match Text.trimStart cs with
  | '-' :: c :: rest =>
    if c.isDigit then
      (number? (rest.length + 1) (c :: rest)).map fun (n, rest) => (-(n : Int), rest)
    else none
  | '+' :: c :: rest =>
    if c.isDigit then (number? (rest.length + 1) (c :: rest)).map fun (n, rest) => (n, rest)
    else none
  | cs => (number? 4 cs).map fun (n, rest) => (n, rest)

/-- A mark between two fields, after blanks. -/
def mark? (c : Char) (cs : List Char) : Option (List Char) :=
  match Text.trimStart cs with
  | d :: rest => if d = c then some rest else none
  | [] => none

/-- The nanoseconds of a fraction, if there is one; digits after the ninth are dropped. -/
def fraction? : List Char → Option (Nat × List Char)
  | '.' :: rest =>
    let ds := rest.takeWhile Char.isDigit
    if ds.isEmpty then none
    else
      let kept := ds.take 9
      let n := kept.foldl (fun n d => n * 10 + (d.toNat - '0'.toNat)) 0
      some (n * tenTo (9 - kept.length), rest.drop ds.length)
  | cs => some (0, cs)

/-- Two digits of an offset. -/
def twoDigits? : List Char → Option (Nat × List Char)
  | a :: b :: rest =>
    if a.isDigit && b.isDigit then
      some ((a.toNat - '0'.toNat) * 10 + (b.toNat - '0'.toNat), rest)
    else none
  | _ => none

/-- The hours and minutes of an offset, in minutes; a day or more is no offset. -/
def hoursMinutes? (cs : List Char) : Option (Nat × List Char) := do
  let (hours, cs) ← twoDigits? cs
  let (minutes, cs) ← twoDigits? (cs.dropWhile fun c => c == ':' || Text.isBlank c)
  if minutes < 60 ∧ hours < 24 then some (hours * 60 + minutes, cs) else none

/-- The minutes by which a local clock is ahead of UTC. -/
def offset? (cs : List Char) : Option (Int × List Char) :=
  match cs with
  | c :: rest =>
    if (cs.take 3).map Char.toLower = ['u', 't', 'c'] then some (0, cs.drop 3)
    else if c = 'Z' ∨ c = 'z' then some (0, rest)
    else if c = '+' then (hoursMinutes? rest).map fun (m, rest) => (m, rest)
    else if c = '-' ∨ c = '−' then (hoursMinutes? rest).map fun (m, rest) => (-(m : Int), rest)
    else none
  | [] => none

/-- The fields before an offset, and the offset. -/
def fields? (cs : List Char) : Option (CivilTime × Int × List Char) := do
  let (year, cs) ← year? cs
  let cs ← mark? '-' cs
  let (month, cs) ← number? 2 cs
  let cs ← mark? '-' cs
  let (day, cs) ← number? 2 cs
  let cs ← match cs with
    | 'T' :: rest => some rest
    | 't' :: rest => some rest
    | ' ' :: rest => some rest
    | _ => none
  let (hour, cs) ← number? 2 cs
  let cs ← mark? ':' cs
  let (minute, cs) ← number? 2 cs
  let cs ← mark? ':' cs
  let (second, cs) ← number? 2 cs
  let (nanos, cs) ← fraction? cs
  let (offset, cs) ← offset? (Text.trimStart cs)
  some (⟨year, month, day, hour, minute, second, nanos⟩, offset, cs)

/-- The timestamp of a written form. -/
def parse (s : String) : Option Timestamp := do
  let (t, offset, rest) ← fields? s.toList
  if (Text.trimStart rest).isEmpty ∧ t.Valid then Timestamp.ofCivil? (t.behind offset) else none

instance : Wire Timestamp where
  toJson t := .str (format t)
  ofJson? _
    | .str s => parse s
    | _ => none

end ClusterNode.Rfc3339
