/-!
# Sets of code points

## Main definitions

- `CodePoints`: a set of code points, given by the first and last member of each run;
- `CodePoints.contains`: whether a character is in the set.
-/

namespace VulkanExec.Text

/-- A set of code points: the first and the last member of each run of members, in order. -/
abbrev CodePoints := List (Nat × Nat)

/-- Whether a character lies in one of the runs. -/
def CodePoints.contains (runs : CodePoints) (c : Char) : Bool :=
  runs.any fun run => run.1 ≤ c.toNat && c.toNat ≤ run.2

end VulkanExec.Text
