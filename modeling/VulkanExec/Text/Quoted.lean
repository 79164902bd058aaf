import VulkanExec.Text.Printable
import VulkanExec.Text.GraphemeExtend

/-!
# Escaped text

Messages show names of unknown content in an escaped form, so that a reader can tell what is there:
the usual escapes by a backslash, and `\u` with the hexadecimal code point for a character that
does not show as itself.

## Main definitions

- `escaped`: both quotes are escaped, and a character that extends the one before only in front;
- `quoted`: between double quotes; the single quote stands as it is, and a character that extends
  the one before is escaped anywhere.
-/

namespace VulkanExec.Text

/-- A backslash and then `c`. -/
def backslashed (c : Char) : List Char := ['\x5c', c]

/-- The code point of `c` in hexadecimal, between braces. -/
def codePointEscape (c : Char) : List Char :=
  ['\x5c', 'u', '\x7b'] ++ Nat.toDigits 16 c.toNat ++ ['\x7d']

/-- The escaped form of one character. The flags say whether a single quote and whether a
character that extends the one before are escaped. -/
def escapeChar (singleQuote extending : Bool) (c : Char) : List Char :=
  if c = '\x00' then backslashed '0'
  else if c = '\t' then backslashed 't'
  else if c = '\r' then backslashed 'r'
  else if c = '\n' then backslashed 'n'
  else if c = '\x22' ∨ c = '\x5c' then backslashed c
  else if c = '\x27' then if singleQuote then backslashed c else [c]
  else if extending && extendsGrapheme c then codePointEscape c
  else if isPrintable c then [c]
  else codePointEscape c

/-- A text in escaped form, without quotes around it. -/
def escaped (s : String) : String :=
  match s.toList with
  | [] => ""
  | c :: rest => String.ofList (escapeChar true true c ++ rest.flatMap (escapeChar true false))

/-- A text in escaped form between double quotes. -/
def quoted (s : String) : String :=
  String.ofList ('\x22' :: s.toList.flatMap (escapeChar false true) ++ ['\x22'])

end VulkanExec.Text
