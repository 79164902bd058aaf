/-!
# White space

The white space of Unicode (property `White_Space`) and the removal of it at both ends of a text.

## Main definitions

- `isWhiteSpace`: the twenty-five code points of the property;
- `trim`: a text without the white space at its two ends.
-/

namespace VulkanExec.Text

/-- Whether a character has the Unicode property `White_Space`. -/
def isWhiteSpace (c : Char) : Bool :=
  let n := c.toNat
  (0x9 ≤ n && n ≤ 0xd) || n == 0x20 || n == 0x85 || n == 0xa0 || n == 0x1680 ||
    (0x2000 ≤ n && n ≤ 0x200a) || n == 0x2028 || n == 0x2029 || n == 0x202f || n == 0x205f ||
    n == 0x3000

/-- The characters after the white space in front. -/
def trimStart (cs : List Char) : List Char := cs.dropWhile isWhiteSpace

/-- The characters before the white space behind. -/
def trimEnd (cs : List Char) : List Char := (cs.reverse.dropWhile isWhiteSpace).reverse

/-- The characters between the white space at both ends. -/
def trimBoth (cs : List Char) : List Char := trimEnd (trimStart cs)

/-- A text without the white space at both ends. -/
def trim (s : String) : String := String.ofList (trimBoth s.toList)

@[simp] theorem toList_trim (s : String) : (trim s).toList = trimBoth s.toList := by
  simp [trim]

end VulkanExec.Text
