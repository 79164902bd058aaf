/-!
# Requirements

What is required is a list of items, and what is available is a predicate on items: the
capabilities that a feature structure has on, or the names in a list of extensions.

## Main definitions

- `supports`: whether everything required is available;
- `missing`: what is required and not available, each item once, in the order of the request.
-/

namespace VulkanExec

variable {α : Type}

/-- Every required item is available. The empty requirement always is. -/
def supports (available : α → Bool) (required : List α) : Bool := required.all available

/-- The required items that are not available, each at its first place only. -/
def missing [BEq α] (available : α → Bool) (required : List α) : List α :=
  (required.filter (!available ·)).eraseDups

/-- The names of a list are available. -/
def offers (names : List String) (name : String) : Bool := names.contains name

end VulkanExec
