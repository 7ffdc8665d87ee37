import ClusterNode.Text.Unprintable

/-!
# Quoted text in messages

A message names the text it refuses between double quotes, with a backslash
before what would end or break the quotation and with unprintable characters
spelled by code point.
-/

namespace ClusterNode.Text

/-- The digits of a number in lower case hexadecimal. -/
def hexDigits (n : Nat) : String := String.ofList (Nat.toDigits 16 n)

/-- One character inside a quotation. -/
def quoteChar (c : Char) : String :=
  if c = '"' then "\\\""
  else if c = '\\' then "\\\\"
  else if c = '\n' then "\\n"
  else if c = '\r' then "\\r"
  else if c = '\t' then "\\t"
  else if c = '\x00' then "\\0"
  else if isUnprintable c then "\\u\x7b" ++ hexDigits c.toNat ++ "\x7d"
  else c.toString

/-- A text between double quotes. -/
def quoted (s : String) : String :=
  "\"" ++ String.join (s.toList.map quoteChar) ++ "\""

end ClusterNode.Text
