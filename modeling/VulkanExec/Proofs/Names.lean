import Mathlib.Data.Set.Card
import VulkanExec.NameTable

/-!
# Counting names

A table has each name once, so what is counted among its values is counted among its names.

The main statement is `NameTable.countP_values`.
-/

namespace VulkanExec.NameTable

variable {α : Type}

/-- As many values satisfy a condition as there are names with such a value. -/
theorem countP_values (table : NameTable α) (p : α → Bool) :
    table.values.countP p = {name | ∃ a, table.get? name = some a ∧ p a}.ncard := by
  have hnodup : ((table.entries.filter (p ·.2)).map Prod.fst).Nodup :=
    table.nodup.sublist (List.filter_sublist.map _)
  have hnames : {name | ∃ a, table.get? name = some a ∧ p a} =
      (((table.entries.filter (p ·.2)).map Prod.fst).toFinset : Set String) := by
    ext name
    simp [get?_eq_some_iff]
  rw [hnames, Set.ncard_coe_finset, List.toFinset_card_of_nodup hnodup, List.length_map, values,
    List.countP_map, List.countP_eq_length_filter]
  rfl

/-- A table is as large as the number of names that it has. -/
theorem size_eq_ncard (table : NameTable α) :
    table.size = {name | table.contains name = true}.ncard := by
  have hcount := table.countP_values fun _ => true
  rw [List.countP_true, values, List.length_map] at hcount
  simpa [size, contains, Option.isSome_iff_exists] using hcount

end VulkanExec.NameTable
