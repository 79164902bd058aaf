import VulkanExec.Capability

/-!
# Feature structures

A feature structure holds a 32-bit word in each of its fields. A word of one means that the feature
is on; every other word, not only zero, means that it is off.

## Main definitions

- `Features`: the structure, with `Features.off`, where every word is zero;
- `Features.write`: the structure with another word in one field;
- `CapabilityRow.get`, `CapabilityRow.set`: read the field of a row, and switch it on;
- `Features.has`: whether a capability is on;
- `Features.enable`, `Features.enabling`: the structure with capabilities switched on;
- `Features.requesting`: the structure with exactly the given capabilities on;
- `Features.advertised`: the capabilities that are on, in the order of the table.
-/

namespace VulkanExec

/-- A word for every field. -/
@[ext]
structure Features where
  read : FeatureField → UInt32

namespace Features

/-- Put a word into one field. -/
def write (features : Features) (field : FeatureField) (value : UInt32) : Features :=
  ⟨fun other => if other = field then value else features.read other⟩

end Features

/-- Read the field of a row. -/
def CapabilityRow.get (row : CapabilityRow) (features : Features) : UInt32 :=
  features.read row.field

/-- Switch the field of a row on. -/
def CapabilityRow.set (row : CapabilityRow) (features : Features) : Features :=
  features.write row.field 1

namespace Features

/-- Structures are compared field by field, along the rows of the table. -/
instance : DecidableEq Features := fun features other =>
  decidable_of_iff (∀ row ∈ Capability.table, row.get features = row.get other) <| by
    refine ⟨fun h => ?_, fun h row _ => h ▸ rfl⟩
    ext field : 2
    obtain ⟨row, hrow, rfl⟩ := List.mem_map.1 (Capability.mem_fields field)
    exact h row hrow

/-- Every word is zero. -/
def off : Features := ⟨fun _ => 0⟩

/-- Every word is one. -/
def allOn : Features := ⟨fun _ => 1⟩

/-- The word of a capability, read by way of its row. -/
def word (features : Features) (c : Capability) : UInt32 := c.entry.get features

/-- Whether the capability is on: its word is exactly one. -/
def has (features : Features) (c : Capability) : Bool := features.word c == 1

/-- Switch one capability on, by way of its row. -/
def enable (features : Features) (c : Capability) : Features := c.entry.set features

/-- Switch capabilities on, one after the other. -/
def enabling (features : Features) (cs : List Capability) : Features := cs.foldl enable features

/-- Exactly the given capabilities are on; one that is on offer but not asked for stays off. -/
def requesting (cs : List Capability) : Features := off.enabling cs

/-- The capabilities that are on. -/
def advertised (features : Features) : List Capability := Capability.all.filter features.has

/-- The words given for field names; a field that is not named is zero. -/
def ofWords (words : List (String × UInt32)) : Features where
  read field :=
    ((Capability.table.find? (·.field == field)).bind fun row => words.lookup row.name).getD 0

/-- Every field that is not zero, with its word. -/
def words (features : Features) : List (String × UInt32) :=
  (Capability.table.filter fun row => row.get features != 0).map fun row =>
    (row.name, row.get features)

end Features

end VulkanExec
