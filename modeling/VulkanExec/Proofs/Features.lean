import VulkanExec.Proofs.Requirements

/-!
# Requests and checks of features

A capability is read and switched on by way of its row in the table. The rows stand in the order of
the declaration, each with a field of its own, and no field is without a row. So to switch a
capability on is to write a one into its field and to leave every other field as it is, and a
request has ones in the fields of what is asked for and zeros in the rest, whatever the order and
however often a capability is named. The check of a feature structure asks for a one wherever the
request has one.

## Main definitions

- `Capability.field`: the field that the row of a capability gives;
- `Capability.InTable`: the place of a capability in the table, with its field;
- `Features.RequestAgrees`: what a request is, and what it says of a feature structure.

The main statement is `Features.request_agrees`.
-/

namespace VulkanExec

/-! ## The table -/

namespace Capability

variable {c d : Capability} {i : Nat}

/-- The field in which a capability is read and switched on. -/
def field (c : Capability) : FeatureField := c.entry.field

theorem getElem?_table (c : Capability) : table[c.index]? = some c.entry :=
  List.getElem?_eq_getElem c.index_lt_length

theorem nodup_all : all.Nodup := by decide

theorem getElem?_all_eq_some_iff : all[i]? = some c ↔ i = c.index := by
  have hplace (d : Capability) : all[d.index]? = some d := by
    rw [all, List.getElem?_map, d.getElem?_table, Option.map_some, d.capability_entry]
  constructor
  · intro h
    obtain ⟨hi, -⟩ := List.getElem?_eq_some_iff.1 h
    exact (List.getElem?_inj hi nodup_all).1 (h.trans (hplace c).symm)
  · rintro rfl
    exact hplace c

theorem pairwise_index_all : all.Pairwise fun c d => c.index < d.index := by decide

/-- Rows and fields are in the same order. -/
theorem ctorIdx_field (c : Capability) : c.field.ctorIdx = c.index := by
  cases c <;> rfl

/-- No two capabilities have one field. -/
theorem field_inj : c.field = d.field ↔ c = d := by
  refine ⟨fun h => ?_, congrArg field⟩
  have hindex : c.index = d.index := by rw [← ctorIdx_field, h, ctorIdx_field]
  have hplace := getElem?_all_eq_some_iff.2 (rfl : c.index = c.index)
  rw [hindex, getElem?_all_eq_some_iff.2 (rfl : d.index = d.index)] at hplace
  exact (Option.some.inj hplace).symm

theorem mem_map_field {cs : List Capability} : c.field ∈ cs.map field ↔ c ∈ cs := by
  simp only [List.mem_map, field_inj, exists_eq_right]

/-- Every field is that of some capability. -/
theorem exists_field (f : FeatureField) : ∃ c : Capability, c.field = f := by
  obtain ⟨row, hrow, rfl⟩ := List.mem_map.1 (mem_fields f)
  exact ⟨row.capability, congrArg CapabilityRow.field (entry_of_mem_table row hrow)⟩

/-- The place of a capability in the table, and that of its field in the feature structure. -/
structure InTable (c : Capability) : Prop where
  /-- It has one row, the one that its place in the declaration gives. -/
  row : ∀ i, (table.map CapabilityRow.capability)[i]? = some c ↔ i = c.ctorIdx
  entry : table[c.ctorIdx]? = some c.entry
  /-- Fields are in the order of rows. -/
  field : c.field.ctorIdx = c.ctorIdx
  /-- No other capability is read or switched on in its field. -/
  alone : ∀ d : Capability, d.field = c.field → d = c

theorem inTable (c : Capability) : c.InTable where
  row _ := getElem?_all_eq_some_iff
  entry := c.getElem?_table
  field := c.ctorIdx_field
  alone _ h := field_inj.1 h

end Capability

namespace Features

variable {features : Features} {c : Capability} {required other : List Capability}

/-! ## One field -/

theorem read_enable (features : Features) (c : Capability) (f : FeatureField) :
    (features.enable c).read f = if f = c.field then 1 else features.read f := rfl

/-- What is switched on by way of a row is read by way of that row, and of no other. -/
theorem word_enable (features : Features) (c d : Capability) :
    (features.enable c).word d = if d = c then 1 else features.word d := by
  simp only [← Capability.field_inj (c := d)]
  exact read_enable features c d.field

/-! ## Many fields -/

theorem enabling_cons (features : Features) (c : Capability) (required : List Capability) :
    features.enabling (c :: required) = (features.enable c).enabling required := rfl

theorem read_enabling (features : Features) (cs : List Capability) (f : FeatureField) :
    (features.enabling cs).read f = if f ∈ cs.map Capability.field then 1 else features.read f := by
  induction cs generalizing features with
  | nil => rfl
  | cons c cs ih =>
    rw [enabling_cons, ih, read_enable]
    by_cases hc : f = c.field <;> by_cases hcs : f ∈ cs.map Capability.field <;> simp [hc, hcs]

theorem read_requesting (cs : List Capability) (f : FeatureField) :
    (requesting cs).read f = if f ∈ cs.map Capability.field then 1 else 0 :=
  read_enabling off cs f

/-- Exactly what is asked for is on. -/
theorem word_requesting (cs : List Capability) (c : Capability) :
    (requesting cs).word c = if c ∈ cs then 1 else 0 := by
  simp only [← Capability.mem_map_field (c := c)]
  exact read_requesting cs c.field

theorem word_requesting_eq_one_iff : (requesting required).word c = 1 ↔ c ∈ required := by
  rw [word_requesting]
  split <;> simp [*]

/-- Every field is that of some capability, so two structures are equal in which all capabilities
have the same words. -/
theorem ext_word {features other : Features} (h : ∀ c, features.word c = other.word c) :
    features = other := by
  ext f : 2
  obtain ⟨c, rfl⟩ := Capability.exists_field f
  exact h c

theorem requesting_eq_iff :
    requesting other = requesting required ↔ ∀ c, c ∈ other ↔ c ∈ required := by
  constructor
  · intro h c
    rw [← word_requesting_eq_one_iff, h, word_requesting_eq_one_iff]
  · intro h
    refine ext_word fun c => ?_
    simp only [word_requesting, h]

/-! ## What is advertised -/

theorem mem_advertised : c ∈ features.advertised ↔ features.word c = 1 := by
  rw [advertised, List.mem_filter, has_iff]
  exact and_iff_right c.mem_all

theorem nodup_advertised (features : Features) : features.advertised.Nodup :=
  Capability.nodup_all.filter _

theorem pairwise_index_advertised (features : Features) :
    features.advertised.Pairwise fun c d => c.index < d.index :=
  Capability.pairwise_index_all.filter _

/-- The check asks for a one in each field in which the request has one. -/
theorem supports_iff_requested : supports features.has required = true ↔
    ∀ f, (requesting required).read f = 1 → features.read f = 1 := by
  rw [supports_has_iff]
  constructor
  · intro h f hf
    obtain ⟨c, rfl⟩ := Capability.exists_field f
    exact h c (word_requesting_eq_one_iff.1 hf)
  · intro h c hc
    exact h c.field (word_requesting_eq_one_iff.2 hc)

/-- To ask for what is advertised is to keep the words that are one. -/
theorem requesting_advertised (features : Features) : requesting features.advertised =
    ⟨fun f => if features.read f = 1 then 1 else 0⟩ := by
  refine ext_word fun c => ?_
  simp only [word_requesting, mem_advertised]
  rfl

/-- What a request is, and what it says of a feature structure. -/
structure RequestAgrees (features : Features) (required : List Capability) : Prop where
  /-- The check asks for a one in each field in which the request has one. -/
  supports_iff : supports features.has required = true ↔
    ∀ f, (requesting required).read f = 1 → features.read f = 1
  requested : ∀ f, (requesting required).read f =
    if f ∈ required.map Capability.field then 1 else 0
  /-- The order of what is asked for makes no difference, nor how often it is asked for. -/
  same_request_iff : ∀ other, requesting other = requesting required ↔
    ∀ c, c ∈ other ↔ c ∈ required
  /-- A request advertises what is asked for, each capability once and in the order of the table. -/
  mem_advertised_iff : ∀ c, c ∈ (requesting required).advertised ↔ c ∈ required
  nodup : (requesting required).advertised.Nodup
  ordered : (requesting required).advertised.Pairwise fun c d => c.index < d.index
  /-- Asking for all that is advertised puts zeros in the place of words that are not one. -/
  cleaned : requesting features.advertised = ⟨fun f => if features.read f = 1 then 1 else 0⟩
  enabled : ∀ f ∈ required.map Capability.field, (features.enabling required).read f = 1
  frame : ∀ f ∉ required.map Capability.field,
    (features.enabling required).read f = features.read f
  /-- All of this goes by way of rows with a field for each capability and no field left over. -/
  inTable : ∀ c : Capability, c.InTable
  covered : ∀ f, ∃ c : Capability, c.field = f
  /-- What is switched on by way of a row is read by way of that row, and of no other. -/
  own_row : ∀ c d, (features.enable c).word d = if d = c then 1 else features.word d

/-- Requests for features and checks of them agree on every feature structure, whatever words it
holds. -/
theorem request_agrees (features : Features) (required : List Capability) :
    RequestAgrees features required where
  supports_iff := supports_iff_requested
  requested := read_requesting required
  same_request_iff _ := requesting_eq_iff
  mem_advertised_iff c := by rw [mem_advertised, word_requesting_eq_one_iff]
  nodup := nodup_advertised _
  ordered := pairwise_index_advertised _
  cleaned := requesting_advertised features
  enabled f hf := by rw [read_enabling, if_pos hf]
  frame f hf := by rw [read_enabling, if_neg hf]
  inTable := Capability.inTable
  covered := Capability.exists_field
  own_row := word_enable features

/-- A word of two is not on, and it is not asked for with what is advertised. -/
example : supports (Features.has ⟨fun _ => 2⟩) [.depthClamp] = false ∧
    advertised ⟨fun f => if f = .logicOp then 1 else 2⟩ = [.logicOp] := by
  decide

end Features

end VulkanExec
