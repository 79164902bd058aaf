import Mathlib.Tactic.MkIffOfInductiveProp
import VulkanExec.Config

/-!
# Environments on top of each other

The settings are read key by key, and what is there already counts for a key only where the
environment has no value. So two environments on top of each other are one, in which the later value
of a key comes first.

## Main definitions

- `Config.Settled`: the settings that come of an environment, key by key;
- `Config.onTop`: two environments in one;
- `Config.only`, `Config.without`: an environment with one value, and one without it.

The main statement is `environments_compose`.
-/

namespace VulkanExec.Config

variable {α : Type} {env earlier later : String → Option String} {key : Key} {a b : α}
  {read : String → Except ConfigFault α} {config after : Config}

/-! ## One key -/

theorem readKey_of_none (h : env key.name = none) : readKey env key a read = .ok a := by
  rw [readKey, h]

theorem readKey_of_some {text : String} (h : env key.name = some text) :
    readKey env key a read = (read text).mapError (.invalidConfig key.name) := by
  rw [readKey, h]

/-- Whether a value can be read has nothing to do with what was there before. -/
theorem exists_readKey (h : readKey env key a read = .ok b) (a' : α) :
    ∃ b', readKey env key a' read = .ok b' := by
  cases hvalue : env key.name with
  | none => exact ⟨a', readKey_of_none hvalue⟩
  | some text =>
    rw [readKey_of_some hvalue] at h ⊢
    exact ⟨b, h⟩

theorem readKey_congr (h : later key.name = earlier key.name) :
    readKey later key a read = readKey earlier key a read := by
  rw [readKey, readKey, h]

/-! ## All keys -/

/-- The settings that come of an environment on top of others: each is read from the value of its
key, and the rest are those of before. -/
@[mk_iff]
structure Settled (config : Config) (env : String → Option String) (after : Config) : Prop where
  validation : readKey env .validation config.validation readSwitch = .ok after.validation
  fenceTimeout : readKey env .fenceTimeout config.fenceTimeout readTimeout = .ok after.fenceTimeout
  capabilities : readKey env .capabilities config.capabilities (readCapabilities <| Text.items ·) =
    .ok after.capabilities
  extensions : readKey env .extensions config.extensions (.ok <| Text.items ·) =
    .ok after.extensions
  layers : readKey env .layers config.layers (.ok <| Text.items ·) = .ok after.layers
  appName : after.appName = config.appName
  apiVersion : after.apiVersion = config.apiVersion
  diagnosticExtension : after.diagnosticExtension = config.diagnosticExtension

theorem bind_eq_ok_iff {ε β : Type} {x : Except ε α} {f : α → Except ε β} {b : β} :
    x >>= f = .ok b ↔ ∃ a, x = .ok a ∧ f a = .ok b := by
  cases x with
  | ok a => exact ⟨fun h => ⟨a, rfl, h⟩, fun ⟨_, ha, h⟩ => by cases ha; exact h⟩
  | error e => exact ⟨nofun, fun ⟨_, ha, _⟩ => nomatch ha⟩

/-- The settings with those of an environment on top are the ones that are read key by key. -/
theorem withEnvironment_eq_ok_iff :
    config.withEnvironment env = .ok after ↔ Settled config env after := by
  simp only [withEnvironment, bind_eq_ok_iff]
  constructor
  · rintro ⟨validation, hvalidation, fenceTimeout, htimeout, capabilities, hcapabilities,
      extensions, hextensions, layers, hlayers, hafter⟩
    cases hafter
    exact ⟨hvalidation, htimeout, hcapabilities, hextensions, hlayers, rfl, rfl, rfl⟩
  · intro h
    refine ⟨_, h.validation, _, h.fenceTimeout, _, h.capabilities, _, h.extensions, _, h.layers, ?_⟩
    rw [← h.appName, ← h.apiVersion, ← h.diagnosticExtension]
    rfl

/-- Whether an environment can be read has nothing to do with the settings that it is put on. -/
theorem exists_withEnvironment (h : Settled config env after) (base : Config) :
    ∃ other, base.withEnvironment env = .ok other := by
  obtain ⟨validation, hvalidation⟩ := exists_readKey h.validation base.validation
  obtain ⟨fenceTimeout, htimeout⟩ := exists_readKey h.fenceTimeout base.fenceTimeout
  obtain ⟨capabilities, hcapabilities⟩ := exists_readKey h.capabilities base.capabilities
  obtain ⟨extensions, hextensions⟩ := exists_readKey h.extensions base.extensions
  obtain ⟨layers, hlayers⟩ := exists_readKey h.layers base.layers
  exact ⟨{ base with validation, fenceTimeout, capabilities, extensions, layers },
    withEnvironment_eq_ok_iff.2
      ⟨hvalidation, htimeout, hcapabilities, hextensions, hlayers, rfl, rfl, rfl⟩⟩

/-- Only the values of the keys count in an environment. -/
theorem withEnvironment_congr (h : ∀ key : Key, later key.name = earlier key.name) :
    config.withEnvironment later = config.withEnvironment earlier := by
  simp only [withEnvironment, readKey_congr (h _)]

/-! ## Two environments -/

/-- Two environments in one. The value of the later one comes first. -/
def onTop (later earlier : String → Option String) : String → Option String :=
  fun name => (later name).or (earlier name)

/-- An environment with one value. -/
def only (key : Key) (text : String) : String → Option String :=
  fun name => if name = key.name then some text else none

/-- An environment without the value of a key. -/
def without (key : Key) (env : String → Option String) : String → Option String :=
  fun name => if name = key.name then none else env name

theorem onTop_self (env : String → Option String) : onTop env env = env :=
  funext fun _ => Option.or_self

/-- What the later environment does not have is read from the earlier one. -/
theorem readKey_onTop (h : readKey earlier key a read = .ok b) :
    readKey later key b read = readKey (onTop later earlier) key a read := by
  cases hvalue : later key.name with
  | none =>
    have htop : onTop later earlier key.name = earlier key.name := by
      rw [onTop, hvalue, Option.none_or]
    rw [readKey_of_none hvalue, readKey_congr htop, h]
  | some text =>
    have htop : onTop later earlier key.name = some text := by rw [onTop, hvalue, Option.some_or]
    rw [readKey_of_some hvalue, readKey_of_some htop]

theorem Settled.withEnvironment_onTop (h : Settled config earlier after) :
    after.withEnvironment later = config.withEnvironment (onTop later earlier) := by
  rw [withEnvironment, withEnvironment, readKey_onTop h.validation, readKey_onTop h.fenceTimeout,
    readKey_onTop h.capabilities, readKey_onTop h.extensions, readKey_onTop h.layers, h.appName,
    h.apiVersion, h.diagnosticExtension]

/-- Environments that have no key in common are the same in either order. -/
theorem withEnvironment_onTop_comm
    (h : ∀ key : Key, earlier key.name = none ∨ later key.name = none) :
    config.withEnvironment (onTop later earlier) =
      config.withEnvironment (onTop earlier later) := by
  refine withEnvironment_congr fun key => ?_
  rcases h key with hnone | hnone
  · rw [onTop, onTop, hnone, Option.or_none, Option.none_or]
  · rw [onTop, onTop, hnone, Option.or_none, Option.none_or]

/-- An environment that can be read, and then another one, come to the same as both in one, the
same error included; once more the same environment changes nothing; and two environments that can
be read and have no key in common can be put on in either order. -/
theorem environments_compose (config : Config) (earlier later : String → Option String) :
    (∀ after, config.withEnvironment earlier = .ok after →
      after.withEnvironment later = config.withEnvironment (onTop later earlier)) ∧
    (config.withEnvironment earlier >>= fun after => after.withEnvironment earlier) =
      config.withEnvironment earlier ∧
    ∀ after other, config.withEnvironment earlier = .ok after →
      config.withEnvironment later = .ok other →
      (∀ key : Key, earlier key.name = none ∨ later key.name = none) →
      ∃ both, after.withEnvironment later = .ok both ∧
        other.withEnvironment earlier = .ok both := by
  refine ⟨fun after h => (withEnvironment_eq_ok_iff.1 h).withEnvironment_onTop, ?_, ?_⟩
  · cases h : config.withEnvironment earlier with
    | error e => rfl
    | ok after =>
      have hagain : after.withEnvironment earlier =
          config.withEnvironment (onTop earlier earlier) :=
        (withEnvironment_eq_ok_iff.1 h).withEnvironment_onTop
      rw [onTop_self, h] at hagain
      exact hagain
  · intro after other hafter hother hdisjoint
    have hsettled := withEnvironment_eq_ok_iff.1 hafter
    have hsettled' := withEnvironment_eq_ok_iff.1 hother
    obtain ⟨both, hboth⟩ := exists_withEnvironment hsettled' after
    refine ⟨both, hboth, ?_⟩
    rw [hsettled'.withEnvironment_onTop, ← withEnvironment_onTop_comm hdisjoint,
      ← hsettled.withEnvironment_onTop]
    exact hboth

/-- A switch and a number that come in two environments are the same in either order, and a number
that cannot be read is an error on top of the switch as it is without it. -/
theorem switch_and_number_compose :
    (∃ both, { Config.default with validation := false }.withEnvironment
        (only .fenceTimeout "250") = .ok both ∧
      { Config.default with fenceTimeout := 250 }.withEnvironment (only .validation "Off") =
        .ok both) ∧
    { Config.default with validation := false }.withEnvironment (only .fenceTimeout "-1") =
      Config.default.withEnvironment (onTop (only .fenceTimeout "-1") (only .validation "Off")) := by
  have hswitch : Config.default.withEnvironment (only .validation "Off") =
      .ok { Config.default with validation := false } := rfl
  have hnumber : Config.default.withEnvironment (only .fenceTimeout "250") =
      .ok { Config.default with fenceTimeout := 250 } := rfl
  refine ⟨?_, (environments_compose Config.default _ _).1 _ hswitch⟩
  refine (environments_compose Config.default _ _).2.2 _ _ hswitch hnumber fun key => ?_
  cases key with
  | fenceTimeout => exact .inl (by decide)
  | validation | capabilities | extensions | layers => exact .inr (by decide)

end VulkanExec.Config
