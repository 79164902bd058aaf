import VulkanExec.Text.WhiteSpace

/-!
# Comma-separated lists

## Main definitions

- `items`: the entries of a comma-separated text, trimmed, the blank ones left out;
- `joined`: entries with commas between them;
- `listed`: entries with a comma and a space between them, as messages show lists.
-/

namespace VulkanExec.Text

/-- The entries between the commas, each without white space at its ends; an entry of which
nothing is left does not count. -/
def itemChars (cs : List Char) : List (List Char) :=
  ((cs.splitOn ',').map trimBoth).filter (!·.isEmpty)

/-- The entries of a comma-separated text. -/
def items (s : String) : List String := (itemChars s.toList).map String.ofList

/-- Entries with commas between them. -/
def joined (entries : List String) : String := ",".intercalate entries

/-- Entries as a message lists them. -/
def listed (entries : List String) : String := ", ".intercalate entries

end VulkanExec.Text
