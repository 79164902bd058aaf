import VulkanExec.Program.Basic
import VulkanExec.EntryPoint.Catalog
import VulkanExec.Error
import VulkanExec.NameTable

/-!
# Tables of entry points

A table binds the names of entry points to the addresses under which they were found. A scope is
resolved as a whole: when a required name is not found, the table stays as it was and the error
lists every required name that was not found.

## Main definitions

- `EntryTable`: the table;
- `EntryTable.resolve`: ask for every name of a scope and bind what was found;
- `EntryTable.resolveWith`: the same for a caller that asks a driver and gives up after an error;
- `EntryTable.demand`: the names that must be in the table.
-/

namespace VulkanExec

/-- The addresses of entry points under their names. -/
abbrev EntryTable := NameTable Address

namespace EntryTable

/-- The table before anything is resolved. -/
def empty : EntryTable := NameTable.empty

/-- What was found for the entry points of a scope, in their order. -/
abbrev Findings := List (EntryPoint × Option Address)

/-- The required names that were not found. -/
def unresolved (findings : Findings) : List String :=
  findings.filterMap fun (entry, found) =>
    if entry.required && found.isNone then some entry.name else none

/-- The names that were found, each with its address. -/
def located (findings : Findings) : List (String × Address) :=
  findings.filterMap fun (entry, found) => found.map (entry.name, ·)

/-- Bind every name that was found; refuse if a required one was not. The table is given back in
either case. -/
def record (table : EntryTable) (findings : Findings) : Except Error Unit × EntryTable :=
  match unresolved findings with
  | [] => (.ok (), table.insertAll (located findings))
  | names => (.error (.missingEntryPoints names), table)

/-- Ask for entry points one after the other, also after one was not found. -/
def search (find : String → Program (Option Address)) : List EntryPoint → Program Findings
  | [] => return []
  | entry :: entries => do
    let found ← find entry.name
    if found.isNone && !entry.required then
      .log .debug ("optional entry point " ++ Text.quoted entry.name ++ " not available")
    let findings ← search find entries
    return (entry, found) :: findings

/-- Resolve every entry point of a scope. -/
def resolve (table : EntryTable) (scope : EntryScope) (find : String → Program (Option Address)) :
    Program (Except Error Unit × EntryTable) := do
  let findings ← search find (EntryPoint.ofScope scope)
  return table.record findings

/-- The table after a resolution, for a caller that drops it together with an error. -/
def completed (outcome : Except Error Unit × EntryTable) : Except Error EntryTable :=
  outcome.1.map fun _ => outcome.2

/-- Resolve a scope by asking the driver with the handle `inst`, and give up after an error. -/
def resolveWith (table : EntryTable) (scope : EntryScope) (inst : InstanceHandle) :
    Program (Except Error EntryTable) := do
  return completed (← table.resolve scope fun name => .ask (.resolve inst name))

theorem completed_record (table : EntryTable) (findings : Findings) :
    completed (table.record findings) = match unresolved findings with
      | [] => .ok (table.insertAll (located findings))
      | names => .error (.missingEntryPoints names) := by
  unfold record
  split <;> rfl

/-- Refuse if one of the names is not in the table, and list all that are not. -/
def demand (table : EntryTable) (names : List String) : Except Error Unit :=
  match names.filter (!table.contains ·) with
  | [] => .ok ()
  | absent => .error (.missingEntryPoints absent)

/-- The table as debug output shows it. -/
def describe (table : EntryTable) : String :=
  "DispatchTable \x7b resolved: " ++ toString table.size ++ " \x7d"

end EntryTable

end VulkanExec
