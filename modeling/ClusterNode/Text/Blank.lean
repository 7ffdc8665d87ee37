/-!
# Blank characters

`isBlank` is the White_Space property of Unicode. Words of a node list and the
ends of a selector pattern are cut at these characters, where ASCII blanks
alone would leave a no-break space inside a name.
-/

namespace ClusterNode.Text

/-- The White_Space property. -/
def isBlank (c : Char) : Bool :=
  let n := c.toNat
  (0x09 ≤ n && n ≤ 0x0D) || n == 0x20 || n == 0x85 || n == 0xA0 || n == 0x1680 ||
    (0x2000 ≤ n && n ≤ 0x200A) || n == 0x2028 || n == 0x2029 || n == 0x202F ||
    n == 0x205F || n == 0x3000

/-- Drop the blanks in front. -/
def trimStart (cs : List Char) : List Char := cs.dropWhile isBlank

/-- Drop the blanks at both ends. -/
def trim (cs : List Char) : List Char :=
  (trimStart (trimStart cs).reverse).reverse

/-- A text without the blanks at its ends. -/
def trimmed (s : String) : String := String.ofList (trim s.toList)

end ClusterNode.Text
