import VulkanExec.Proofs.Config.Capabilities
import VulkanExec.Proofs.Config.Composition
import VulkanExec.Proofs.Text.Numerals

/-!
# What the values of an environment say

A value of an environment says what a setting is, or it is malformed. The first malformed value, in
the order of the keys, is the error; without one, the settings are what the values say, and what
they were where there is no value.

## Main definitions

- `Config.SaysSwitch`: what a switch says;
- `Config.Malformed`: a value that cannot be read, and what is wrong with it;
- `Config.FirstMalformed`: the first such value of an environment;
- `Config.Reflects`: the settings are what the values of an environment say.

The main statement is `environment_judged`.
-/

namespace VulkanExec.Config

/-- What a switch says: one word of a few, in small or capital letters, with or without white space
around it. -/
inductive SaysSwitch : String → Bool → Prop where
  | on {text : String} (h : foldCase (Text.trim text) ∈ ["1", "true", "on", "yes"]) :
      SaysSwitch text true
  | off {text : String} (h : foldCase (Text.trim text) ∈ ["0", "false", "off", "no", ""]) :
      SaysSwitch text false

/-- A value that cannot be read, and what is wrong with it: a switch that is none of the words, a
text that holds no number, or a list in which some names of capabilities, perhaps none, are followed
by one that is no capability's name. -/
inductive Malformed : Key → String → ConfigFault → Prop where
  | switch {text : String}
      (h : foldCase (Text.trim text) ∉ ["1", "true", "on", "yes", "0", "false", "off", "no", ""]) :
      Malformed .validation text (.noSwitch (foldCase (Text.trim text)))
  | number {text : String} {fault : Text.Decimal.Fault}
      (h : Text.Decimal.Faulty (Text.trim text).toList fault) :
      Malformed .fenceTimeout text (.noNumber fault)
  | capability {text name : String} {known : List Capability} {after : List String}
      (hitems : Text.items text = known.map Capability.name ++ name :: after)
      (hname : ∀ c : Capability, c.name ≠ name) :
      Malformed .capabilities text (.unknownCapability name)

/-- The place of a key in the order of reading. -/
def Key.rank : Key → Nat
  | .validation => 0
  | .fenceTimeout => 1
  | .capabilities => 2
  | .extensions => 3
  | .layers => 4

/-- The value that an environment has for a key is malformed. -/
def Spoils (env : String → Option String) (key : Key) (fault : ConfigFault) : Prop :=
  ∃ text, env key.name = some text ∧ Malformed key text fault

/-- The value of a key is malformed, and no key before it has a malformed value. -/
structure FirstMalformed (env : String → Option String) (key : Key) (fault : ConfigFault) :
    Prop where
  spoils : Spoils env key fault
  earlier : ∀ other fault', other.rank < key.rank → ¬ Spoils env other fault'

/-- A setting is what the value of its key says, and what it was if there is no value. -/
def Takes {α : Type} (value : Option String) (means : String → α → Prop) (before after : α) :
    Prop :=
  match value with
  | none => after = before
  | some text => means text after

/-- The settings are what the values of an environment say, and what they were for the rest. -/
@[mk_iff]
structure Reflects (config : Config) (env : String → Option String) (after : Config) : Prop where
  validation : Takes (env Key.validation.name) SaysSwitch config.validation after.validation
  fenceTimeout : Takes (env Key.fenceTimeout.name)
    (fun text n => Text.Decimal.Numeral (Text.trim text).toList n.toNat)
    config.fenceTimeout after.fenceTimeout
  capabilities : Takes (env Key.capabilities.name)
    (fun text caps => Text.items text = caps.map Capability.name)
    config.capabilities after.capabilities
  extensions : Takes (env Key.extensions.name) (fun text names => Text.items text = names)
    config.extensions after.extensions
  layers : Takes (env Key.layers.name) (fun text names => Text.items text = names)
    config.layers after.layers
  appName : after.appName = config.appName
  apiVersion : after.apiVersion = config.apiVersion
  diagnosticExtension : after.diagnosticExtension = config.diagnosticExtension

variable {α : Type} {env other : String → Option String} {key key' : Key} {text : String}
  {fault fault' : ConfigFault} {config after : Config} {e : Error}

/-! ## One value -/

theorem readSwitch_eq_ok_iff {b : Bool} : readSwitch text = .ok b ↔ SaysSwitch text b := by
  unfold readSwitch
  dsimp only
  constructor
  · intro h
    split at h
    case isTrue hon =>
      cases h
      exact .on hon
    case isFalse =>
      split at h
      case isTrue hoff =>
        cases h
        exact .off hoff
      case isFalse => cases h
  · intro h
    cases h with
    | on hon => exact if_pos hon
    | off hoff =>
      -- No word is both.
      have hwords : ∀ word ∈ ["0", "false", "off", "no", ""],
          word ∉ ["1", "true", "on", "yes"] := by decide
      rw [if_neg (hwords _ hoff), if_pos hoff]

theorem readSwitch_eq_error_iff :
    readSwitch text = .error fault ↔ Malformed .validation text fault := by
  unfold readSwitch
  dsimp only
  constructor
  · intro h
    split at h
    case isTrue => cases h
    case isFalse hon =>
      split at h
      case isTrue => cases h
      case isFalse hoff =>
        cases h
        exact .switch (List.not_mem_append hon hoff)
  · intro h
    cases h with
    | switch h =>
      rw [if_neg fun hon => h (List.mem_append_left ["0", "false", "off", "no", ""] hon),
        if_neg fun hoff => h (List.mem_append_right ["1", "true", "on", "yes"] hoff)]

theorem mapError_eq_ok_iff {ε ε' : Type} {x : Except ε α} {f : ε → ε'} {a : α} :
    x.mapError f = .ok a ↔ x = .ok a := by
  cases x <;> simp [Except.mapError]

theorem mapError_eq_error_iff {ε ε' : Type} {x : Except ε α} {f : ε → ε'} {e : ε'} :
    x.mapError f = .error e ↔ ∃ e', x = .error e' ∧ f e' = e := by
  cases x <;> simp [Except.mapError]

theorem readTimeout_eq_ok_iff {n : UInt32} :
    readTimeout text = .ok n ↔ Text.Decimal.Numeral (Text.trim text).toList n.toNat := by
  rw [readTimeout, mapError_eq_ok_iff, Text.Decimal.read_eq_ok_iff]

theorem readTimeout_eq_error_iff :
    readTimeout text = .error fault ↔ Malformed .fenceTimeout text fault := by
  rw [readTimeout, mapError_eq_error_iff]
  constructor
  · rintro ⟨f, h, rfl⟩
    exact .number (Text.Decimal.read_eq_error_iff.1 h)
  · intro h
    cases h with
    | number h => exact ⟨_, Text.Decimal.read_eq_error_iff.2 h, rfl⟩

/-- The names of a list have no white space at their ends any more. -/
theorem trim_item : ∀ name ∈ Text.items text, Text.trim name = name :=
  fun _ h => Text.trim_eq_self (Text.isItem_of_mem_items h).trimmed

theorem readCapabilities_items_eq_error_iff :
    readCapabilities (Text.items text) = .error fault ↔ Malformed .capabilities text fault := by
  rw [readCapabilities_eq_error_iff trim_item]
  constructor
  · rintro ⟨known, name, after, hitems, hname, rfl⟩
    exact .capability hitems hname
  · intro h
    cases h with
    | capability hitems hname => exact ⟨_, _, _, hitems, hname, rfl⟩

/-- Only three keys can have malformed values. -/
theorem Malformed.key_mem (h : Malformed key text fault) :
    key ∈ [Key.validation, .fenceTimeout, .capabilities] := by
  cases h with
  | switch | number | capability => simp

/-- One thing is wrong with a value. -/
theorem Malformed.unique (h : Malformed key text fault) (h' : Malformed key text fault') :
    fault = fault' := by
  cases key with
  | validation =>
    rw [← readSwitch_eq_error_iff] at h h'
    exact Except.error.inj (h.symm.trans h')
  | fenceTimeout =>
    rw [← readTimeout_eq_error_iff] at h h'
    exact Except.error.inj (h.symm.trans h')
  | capabilities =>
    rw [← readCapabilities_items_eq_error_iff] at h h'
    exact Except.error.inj (h.symm.trans h')
  | extensions | layers => cases h

/-! ## One key -/

section Key

variable {a b : α} {read : String → Except ConfigFault α} {means : String → α → Prop}

theorem readKey_eq_ok_iff (hread : ∀ {text : String} {b : α}, read text = .ok b ↔ means text b) :
    readKey env key a read = .ok b ↔ Takes (env key.name) means a b := by
  cases hvalue : env key.name with
  | none =>
    rw [readKey_of_none hvalue, Takes]
    exact ⟨fun h => (Except.ok.inj h).symm, fun h => congrArg _ h.symm⟩
  | some text => rw [readKey_of_some hvalue, mapError_eq_ok_iff, hread, Takes]

theorem readKey_eq_error_iff
    (hread : ∀ {text : String} {fault : ConfigFault},
      read text = .error fault ↔ Malformed key text fault) :
    readKey env key a read = .error e ↔
      ∃ fault, Spoils env key fault ∧ e = .invalidConfig key.name fault := by
  cases hvalue : env key.name with
  | none =>
    rw [readKey_of_none hvalue]
    refine ⟨nofun, ?_⟩
    rintro ⟨fault, ⟨text, htext, -⟩, -⟩
    rw [hvalue] at htext
    cases htext
  | some text =>
    rw [readKey_of_some hvalue, mapError_eq_error_iff]
    constructor
    · rintro ⟨fault, hfault, rfl⟩
      exact ⟨fault, ⟨text, hvalue, hread.1 hfault⟩, rfl⟩
    · rintro ⟨fault, ⟨text', htext, hmalformed⟩, rfl⟩
      rw [hvalue] at htext
      cases htext
      exact ⟨fault, hread.2 hmalformed, rfl⟩

/-- A key whose value is read has no malformed value. -/
theorem not_spoils_of_readKey
    (hread : ∀ {text : String} {fault : ConfigFault},
      read text = .error fault ↔ Malformed key text fault)
    (h : readKey env key a read = .ok b) (fault : ConfigFault) : ¬ Spoils env key fault := by
  intro hspoils
  have herror : readKey env key a read = .error (.invalidConfig key.name fault) :=
    (readKey_eq_error_iff hread).2 ⟨fault, hspoils, rfl⟩
  rw [h] at herror
  cases herror

end Key

theorem exists_readKey_items (env : String → Option String) (key : Key) (names : List String) :
    ∃ after, readKey env key names (.ok <| Text.items ·) = .ok after := by
  cases hvalue : env key.name with
  | none => exact ⟨_, readKey_of_none hvalue⟩
  | some text => exact ⟨_, readKey_of_some hvalue⟩

/-! ## All keys -/

/-- The settings that come of an environment key by key are what its values say. -/
theorem settled_iff_reflects : Settled config env after ↔ Reflects config env after := by
  have hitems {text : String} {names : List String} :
      (Except.ok (Text.items text) : Except ConfigFault _) = .ok names ↔ Text.items text = names :=
    (Except.ok.injEq ..).to_iff
  rw [settled_iff, reflects_iff, readKey_eq_ok_iff readSwitch_eq_ok_iff,
    readKey_eq_ok_iff readTimeout_eq_ok_iff,
    readKey_eq_ok_iff (readCapabilities_eq_ok_iff trim_item), readKey_eq_ok_iff hitems,
    readKey_eq_ok_iff hitems]

theorem Key.rank_injective : Function.Injective Key.rank := by
  intro key key' h
  cases key <;> cases key' <;> first | rfl | cases h

/-- At most one malformed value is the first. -/
theorem FirstMalformed.unique (h : FirstMalformed env key fault)
    (h' : FirstMalformed env key' fault') : key = key' ∧ fault = fault' := by
  rcases Nat.lt_trichotomy key.rank key'.rank with hlt | heq | hlt
  · exact absurd h.spoils (h'.earlier _ _ hlt)
  · obtain rfl := Key.rank_injective heq
    obtain ⟨text, htext, hmalformed⟩ := h.spoils
    obtain ⟨text', htext', hmalformed'⟩ := h'.spoils
    rw [htext] at htext'
    cases htext'
    exact ⟨rfl, hmalformed.unique hmalformed'⟩
  · exact absurd h'.spoils (h.earlier _ _ hlt)

/-- The settings are read key by key, or the first malformed value is the error. -/
theorem withEnvironment_cases (config : Config) (env : String → Option String) :
    (∃ after, Settled config env after) ∨
    ∃ key fault, FirstMalformed env key fault ∧
      config.withEnvironment env = .error (.invalidConfig key.name fault) := by
  cases hvalidation : readKey env .validation config.validation readSwitch with
  | error e =>
    obtain ⟨fault, hspoils, rfl⟩ := (readKey_eq_error_iff readSwitch_eq_error_iff).1 hvalidation
    refine .inr ⟨_, fault, ⟨hspoils, fun _ _ hrank => absurd hrank (Nat.not_lt_zero _)⟩, ?_⟩
    rw [withEnvironment, hvalidation]
    rfl
  | ok validation =>
    have hswitch := not_spoils_of_readKey readSwitch_eq_error_iff hvalidation
    cases htimeout : readKey env .fenceTimeout config.fenceTimeout readTimeout with
    | error e =>
      obtain ⟨fault, hspoils, rfl⟩ := (readKey_eq_error_iff readTimeout_eq_error_iff).1 htimeout
      refine .inr ⟨_, fault, ⟨hspoils, fun other fault' hrank => ?_⟩, ?_⟩
      · cases other with
        | validation => exact hswitch fault'
        | fenceTimeout | capabilities | extensions | layers => simp [Key.rank] at hrank
      · rw [withEnvironment, hvalidation, htimeout]
        rfl
    | ok fenceTimeout =>
      have hnumber := not_spoils_of_readKey readTimeout_eq_error_iff htimeout
      cases hcapabilities : readKey env .capabilities config.capabilities
          (readCapabilities <| Text.items ·) with
      | error e =>
        obtain ⟨fault, hspoils, rfl⟩ :=
          (readKey_eq_error_iff readCapabilities_items_eq_error_iff).1 hcapabilities
        refine .inr ⟨_, fault, ⟨hspoils, fun other fault' hrank => ?_⟩, ?_⟩
        · cases other with
          | validation => exact hswitch fault'
          | fenceTimeout => exact hnumber fault'
          | capabilities | extensions | layers => simp [Key.rank] at hrank
        · rw [withEnvironment, hvalidation, htimeout, hcapabilities]
          rfl
      | ok capabilities =>
        obtain ⟨extensions, hextensions⟩ := exists_readKey_items env .extensions config.extensions
        obtain ⟨layers, hlayers⟩ := exists_readKey_items env .layers config.layers
        exact .inl ⟨{ config with validation, fenceTimeout, capabilities, extensions, layers },
          hvalidation, htimeout, hcapabilities, hextensions, hlayers, rfl, rfl, rfl⟩

/-- Settings that are read have no malformed value behind them. -/
theorem Settled.not_spoils (h : Settled config env after) (key : Key) (fault : ConfigFault) :
    ¬ Spoils env key fault := by
  cases key with
  | validation => exact not_spoils_of_readKey readSwitch_eq_error_iff h.validation fault
  | fenceTimeout => exact not_spoils_of_readKey readTimeout_eq_error_iff h.fenceTimeout fault
  | capabilities =>
    exact not_spoils_of_readKey readCapabilities_items_eq_error_iff h.capabilities fault
  | extensions | layers =>
    rintro ⟨text, -, hmalformed⟩
    cases hmalformed

theorem withEnvironment_eq_error_iff :
    config.withEnvironment env = .error e ↔
      ∃ key fault, FirstMalformed env key fault ∧ e = .invalidConfig key.name fault := by
  constructor
  · intro h
    rcases config.withEnvironment_cases env with ⟨after, hafter⟩ | ⟨key, fault, hfirst, herror⟩
    · rw [withEnvironment_eq_ok_iff.2 hafter] at h
      cases h
    · rw [herror] at h
      cases h
      exact ⟨key, fault, hfirst, rfl⟩
  · rintro ⟨key, fault, hfirst, rfl⟩
    rcases config.withEnvironment_cases env with ⟨after, hafter⟩ | ⟨key', fault', hfirst', herror⟩
    · exact absurd hfirst.spoils (hafter.not_spoils key fault)
    · obtain ⟨rfl, rfl⟩ := hfirst.unique hfirst'
      exact herror

theorem FirstMalformed.congr
    (h : ∀ key ∈ [Key.validation, .fenceTimeout, .capabilities], other key.name = env key.name)
    (hfirst : FirstMalformed env key fault) : FirstMalformed other key fault := by
  refine ⟨?_, ?_⟩
  · obtain ⟨text, htext, hmalformed⟩ := hfirst.spoils
    exact ⟨text, (h key hmalformed.key_mem).trans htext, hmalformed⟩
  · rintro key' fault' hrank ⟨text, htext, hmalformed⟩
    exact hfirst.earlier key' fault' hrank
      ⟨text, (h key' hmalformed.key_mem).symm.trans htext, hmalformed⟩

/-- What becomes of settings with an environment on top of them. -/
structure Judged (config : Config) (env : String → Option String) : Prop where
  /-- Three values decide on an error and on which it is, whatever the settings were before. -/
  decided : ∀ (base : Config) other,
    (∀ key ∈ [Key.validation, .fenceTimeout, .capabilities], other key.name = env key.name) →
    ∀ e, base.withEnvironment other = .error e ↔ config.withEnvironment env = .error e
  fails_iff : (∃ e, config.withEnvironment env = .error e) ↔
    ∃ key text fault, env key.name = some text ∧ Malformed key text fault
  /-- The first malformed value is the error. -/
  error_iff : ∀ e, config.withEnvironment env = .error e ↔
    ∃ key fault, FirstMalformed env key fault ∧ e = .invalidConfig key.name fault
  settings_iff : ∀ after, config.withEnvironment env = .ok after ↔ Reflects config env after

end VulkanExec.Config
