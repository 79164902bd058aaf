import VulkanExec.Config
import VulkanExec.Proofs.Text.Items

/-!
# Names of capabilities

No two capabilities have one name, and every name can be an item of a list. So a text names at most
one capability, and a list of names is read as the capabilities that have them, one by one and in
order, up to the first name that no capability has.

The main statements are `Capability.parse?_eq_some_iff`, `Config.readCapabilities_eq_ok_iff` and
`Config.readCapabilities_eq_error_iff`.
-/

namespace VulkanExec

namespace Capability

variable {c d : Capability} {text : String}

theorem ofName?_name (c : Capability) : ofName? c.name = some c := by
  have hall : ∀ c ∈ all, ofName? c.name = some c := by decide +kernel
  exact hall c c.mem_all

theorem ofName?_eq_some_iff : ofName? text = some c ↔ text = c.name := by
  constructor
  · intro h
    obtain ⟨row, hrow, rfl⟩ := Option.map_eq_some_iff.1 h
    rw [name, entry_of_mem_table row (List.mem_of_find?_eq_some hrow)]
    exact (beq_iff_eq.1 (List.find?_some hrow :)).symm
  · rintro rfl
    exact ofName?_name c

theorem name_injective : Function.Injective name := fun c d h => by
  have heq : some c = some d := by rw [← ofName?_name c, ← ofName?_name d, h]
  exact Option.some.inj heq

theorem isItem_name (c : Capability) : Text.IsItem c.name := by
  have hall : ∀ c ∈ all, Text.IsItem c.name := by decide +kernel
  exact hall c c.mem_all

theorem parse?_name (c : Capability) : parse? c.name = some c := by
  rw [parse?, Text.trim_eq_self c.isItem_name.trimmed]
  exact ofName?_name c

/-- A text is read as the capability whose name is left of it after trimming. -/
theorem parse?_eq_some_iff : parse? text = some c ↔ Text.trim text = c.name :=
  ofName?_eq_some_iff

theorem parse?_eq_none_iff : parse? text = none ↔ ∀ c : Capability, c.name ≠ Text.trim text := by
  rw [Option.eq_none_iff_forall_ne_some]
  exact forall_congr' fun c => not_congr (parse?_eq_some_iff.trans eq_comm)

end Capability

namespace Config

variable {known caps : List Capability} {names after : List String} {name : String}
  {fault : ConfigFault}

theorem readCapabilities_map_name (caps : List Capability) :
    readCapabilities (caps.map Capability.name) = .ok caps := by
  induction caps with
  | nil => rfl
  | cons c caps ih =>
    rw [List.map_cons, readCapabilities, Capability.parse?_name]
    simp only [ih]
    rfl

/-- The first name that no capability has is the fault. -/
theorem readCapabilities_of_unknown (known : List Capability) (htrimmed : Text.trim name = name)
    (hname : ∀ c : Capability, c.name ≠ name) :
    readCapabilities (known.map Capability.name ++ name :: after) =
      .error (.unknownCapability name) := by
  induction known with
  | nil =>
    have hnone : Capability.parse? name = none :=
      Capability.parse?_eq_none_iff.2 fun c => htrimmed.symm ▸ hname c
    rw [List.map_nil, List.nil_append, readCapabilities, hnone]
    simp only [htrimmed]
  | cons c known ih =>
    rw [List.map_cons, List.cons_append, readCapabilities, Capability.parse?_name]
    simp only [ih]
    rfl

/-- Names are those of capabilities, or there is a first one that no capability has. -/
theorem known_or_unknown (names : List String) :
    (∃ caps : List Capability, names = caps.map Capability.name) ∨
    ∃ (known : List Capability) (name : String) (after : List String),
      names = known.map Capability.name ++ name :: after ∧ ∀ c : Capability, c.name ≠ name := by
  induction names with
  | nil => exact .inl ⟨[], rfl⟩
  | cons name names ih =>
    by_cases hname : ∃ c : Capability, c.name = name
    · obtain ⟨c, rfl⟩ := hname
      rcases ih with ⟨caps, rfl⟩ | ⟨known, unknown, after, rfl, hunknown⟩
      · exact .inl ⟨c :: caps, rfl⟩
      · exact .inr ⟨c :: known, unknown, after, rfl, hunknown⟩
    · exact .inr ⟨[], name, names, rfl, fun c hc => hname ⟨c, hc⟩⟩

variable (htrimmed : ∀ name ∈ names, Text.trim name = name)
include htrimmed

/-- Names are read as the capabilities that have them, in order. -/
theorem readCapabilities_eq_ok_iff :
    readCapabilities names = .ok caps ↔ names = caps.map Capability.name := by
  refine ⟨fun h => ?_, fun h => h ▸ readCapabilities_map_name caps⟩
  rcases known_or_unknown names with ⟨others, rfl⟩ | ⟨known, name, after, rfl, hname⟩
  · rw [readCapabilities_map_name] at h
    cases h
    rfl
  · rw [readCapabilities_of_unknown known (htrimmed name (by simp)) hname] at h
    cases h

/-- The fault is that a name after those of capabilities is none of theirs. -/
theorem readCapabilities_eq_error_iff :
    readCapabilities names = .error fault ↔
      ∃ (known : List Capability) (name : String) (after : List String),
        names = known.map Capability.name ++ name :: after ∧ (∀ c : Capability, c.name ≠ name) ∧
          fault = .unknownCapability name := by
  constructor
  · intro h
    rcases known_or_unknown names with ⟨caps, rfl⟩ | ⟨known, name, after, rfl, hname⟩
    · rw [readCapabilities_map_name] at h
      cases h
    · rw [readCapabilities_of_unknown known (htrimmed name (by simp)) hname] at h
      cases h
      exact ⟨known, name, after, rfl, hname, rfl⟩
  · rintro ⟨known, name, after, rfl, hname, rfl⟩
    exact readCapabilities_of_unknown known (htrimmed name (by simp)) hname

end Config

end VulkanExec
