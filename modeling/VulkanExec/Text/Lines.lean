/-!
# Lines

## Main definitions

- `withoutReturn`: a line without the carriage return at its end;
- `lines`: the lines of a text.
-/

namespace VulkanExec.Text

/-- A line without the carriage return at its end. -/
def withoutReturn (line : List Char) : List Char :=
  if line.getLast? = some '\r' then line.dropLast else line

/-- The lines between the line feeds. A carriage return right before a line feed belongs to the end
of the line. What stands behind the last line feed is a line only if there is something. -/
def lineChars (cs : List Char) : List (List Char) :=
  let pieces := cs.splitOn '\n'
  pieces.dropLast.map withoutReturn ++ (pieces.getLast?.filter (!·.isEmpty)).toList

/-- The lines of a text. -/
def lines (s : String) : List String := (lineChars s.toList).map String.ofList

end VulkanExec.Text
