import ClusterNode.Json.Value

/-!
# Writing JSON text

`Json.render` writes a value without blanks. Only what JSON forbids inside a
string is escaped: the quote, the backslash and the control characters.
-/

namespace ClusterNode.Json

/-- A digit of a number below sixteen, in lower case. -/
def hexDigit (n : Nat) : Char :=
  if n < 10 then Char.ofNat ('0'.toNat + n) else Char.ofNat ('a'.toNat + (n - 10))

/-- A character inside a string. -/
def escape (c : Char) : List Char :=
  if c = '"' then ['\\', '"']
  else if c = '\\' then ['\\', '\\']
  else if c = '\n' then ['\\', 'n']
  else if c = '\r' then ['\\', 'r']
  else if c = '\t' then ['\\', 't']
  else if c = '\x08' then ['\\', 'b']
  else if c = '\x0c' then ['\\', 'f']
  else if c.toNat < 0x20 then
    ['\\', 'u', '0', '0', hexDigit (c.toNat / 16), hexDigit (c.toNat % 16)]
  else [c]

/-- A string between quotes. -/
def renderString (s : String) : List Char :=
  '"' :: (s.toList.flatMap escape ++ ['"'])

/-- A number; a decimal keeps its mantissa and exponent. -/
def renderNumber : Number → List Char
  | .nat n => Nat.toDigits 10 n
  | .neg n => '-' :: Nat.toDigits 10 n
  | .decimal negative m e =>
    (if negative then ['-'] else []) ++ Nat.toDigits 10 m ++ 'e' :: (toString e).toList

mutual

/-- The characters of a value, in front of a text. -/
def renderOnto (tail : List Char) : Json → List Char
  | .null => 'n' :: 'u' :: 'l' :: 'l' :: tail
  | .bool true => 't' :: 'r' :: 'u' :: 'e' :: tail
  | .bool false => 'f' :: 'a' :: 'l' :: 's' :: 'e' :: tail
  | .num n => renderNumber n ++ tail
  | .str s => renderString s ++ tail
  | .arr items => '[' :: renderItems (']' :: tail) items
  | .obj members => '\x7b' :: renderMembers ('\x7d' :: tail) members
  | .skipped => 'n' :: 'u' :: 'l' :: 'l' :: tail

/-- Items with commas between them, in front of a text. -/
def renderItems (tail : List Char) : List Json → List Char
  | [] => tail
  | [v] => renderOnto tail v
  | v :: rest => renderOnto (',' :: renderItems tail rest) v

/-- Members with commas between them, in front of a text. -/
def renderMembers (tail : List Char) : List (String × Json) → List Char
  | [] => tail
  | [(name, v)] => renderString name ++ ':' :: renderOnto tail v
  | (name, v) :: rest =>
    renderString name ++ ':' :: renderOnto (',' :: renderMembers tail rest) v

end

/-- The text of a value. -/
def render (v : Json) : String := String.ofList (renderOnto [] v)

/-- The text of a value in UTF-8. -/
def renderUtf8 (v : Json) : List UInt8 := v.render.toUTF8.data.toList

end ClusterNode.Json
