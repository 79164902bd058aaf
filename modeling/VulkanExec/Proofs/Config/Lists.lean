import VulkanExec.Proofs.Config.Values

/-!
# Lists in an environment

A list that is written into an environment, with commas between the names and with white space and
blank pieces in any place, comes out as it was, and nothing else that the environment has makes a
difference to that.

## Main definitions

- `Config.Sets`: what the value of one key does to the settings;
- `Config.ListsReadBack`: the lists that come out of an environment are those that are written.

The main statement is `lists_read_back`.
-/

namespace VulkanExec.Config

/-- The value of a key changes the settings in one way, whatever else an environment has: the rest
of it is read, or fails, as without the value. -/
def Sets (config : Config) (key : Key) (text : String) (change : Config → Config) : Prop :=
  ∀ env, env key.name = some text →
    config.withEnvironment env = (config.withEnvironment (without key env)).map change

variable {α : Type} {env : String → Option String} {key key' : Key} {text : String} {a b : α}
  {means : String → α → Prop} {change : Config → Config} {names : List String}
  {caps : List Capability}

/-! ## One value among others -/

/-- An environment is one of its values and the rest, whichever of them comes first. -/
theorem onTop_only_without (h : env key.name = some text) :
    onTop (only key text) (without key env) = env ∧
      onTop (without key env) (only key text) = env := by
  refine ⟨funext fun name => ?_, funext fun name => ?_⟩
  · by_cases hname : name = key.name
    · rw [onTop, only, if_pos hname, Option.some_or, hname, h]
    · rw [onTop, only, without, if_neg hname, if_neg hname, Option.none_or]
  · by_cases hname : name = key.name
    · rw [onTop, only, without, if_pos hname, if_pos hname, Option.none_or, hname, h]
    · rw [onTop, only, without, if_neg hname, if_neg hname, Option.or_none]

/-- A value that is read alone is read among others. -/
theorem sets_of_only (config : Config)
    (honly : ∀ base : Config, base.withEnvironment (only key text) = .ok (change base)) :
    config.Sets key text change := by
  intro env henv
  obtain ⟨hlast, hfirst⟩ := onTop_only_without henv
  cases hrest : config.withEnvironment (without key env) with
  | ok rest =>
    have htop : rest.withEnvironment (only key text) =
        config.withEnvironment (onTop (only key text) (without key env)) :=
      (withEnvironment_eq_ok_iff.1 hrest).withEnvironment_onTop
    rw [hlast, honly] at htop
    exact htop.symm
  | error e =>
    -- The rest fails alike on top of the value.
    have hfails : (change config).withEnvironment (without key env) = .error e :=
      withEnvironment_eq_error_iff.2 (withEnvironment_eq_error_iff.1 hrest)
    rw [(withEnvironment_eq_ok_iff.1 (honly config)).withEnvironment_onTop, hfirst] at hfails
    exact hfails

theorem Key.name_injective : Function.Injective Key.name := by
  intro key key' h
  cases key <;> cases key' <;> first | rfl | exact absurd h (by decide)

theorem takes_only_of_ne (h : key' ≠ key) : Takes (only key text key'.name) means a a := by
  rw [only, if_neg fun hname => h (Key.name_injective hname)]
  rfl

theorem takes_only_self (h : means text b) : Takes (only key text key.name) means a b := by
  rw [only, if_pos rfl]
  exact h

/-! ## Lists -/

theorem withEnvironment_only_capabilities (h : Text.items text = caps.map Capability.name)
    (config : Config) : config.withEnvironment (only .capabilities text) =
      .ok { config with capabilities := caps } :=
  withEnvironment_eq_ok_iff.2 <| settled_iff_reflects.2
    ⟨takes_only_of_ne nofun, takes_only_of_ne nofun, takes_only_self h, takes_only_of_ne nofun,
      takes_only_of_ne nofun, rfl, rfl, rfl⟩

theorem withEnvironment_only_extensions (h : Text.items text = names) (config : Config) :
    config.withEnvironment (only .extensions text) = .ok { config with extensions := names } :=
  withEnvironment_eq_ok_iff.2 <| settled_iff_reflects.2
    ⟨takes_only_of_ne nofun, takes_only_of_ne nofun, takes_only_of_ne nofun, takes_only_self h,
      takes_only_of_ne nofun, rfl, rfl, rfl⟩

theorem withEnvironment_only_layers (h : Text.items text = names) (config : Config) :
    config.withEnvironment (only .layers text) = .ok { config with layers := names } :=
  withEnvironment_eq_ok_iff.2 <| settled_iff_reflects.2
    ⟨takes_only_of_ne nofun, takes_only_of_ne nofun, takes_only_of_ne nofun,
      takes_only_of_ne nofun, takes_only_self h, rfl, rfl, rfl⟩

/-- The lists that come out of an environment are those that are written into it. -/
structure ListsReadBack (config : Config) : Prop where
  capabilities : ∀ (caps : List Capability) pieces,
    Text.Spells (caps.map Capability.name) pieces →
    config.Sets .capabilities (Text.joined pieces) ({ · with capabilities := caps })
  extensions : ∀ names pieces, (∀ name ∈ names, Text.IsItem name) → Text.Spells names pieces →
    config.Sets .extensions (Text.joined pieces) ({ · with extensions := names })
  layers : ∀ names pieces, (∀ name ∈ names, Text.IsItem name) → Text.Spells names pieces →
    config.Sets .layers (Text.joined pieces) ({ · with layers := names })
  /-- Nothing else than what can be written comes out, whatever the text is. -/
  isItem : ∀ text, ∀ name ∈ Text.items text, Text.IsItem name
  again : ∀ text, Text.items (Text.joined (Text.items text)) = Text.items text
  parsed_iff : ∀ text c, Capability.parse? text = some c ↔ Text.trim text = c.name
  /-- A text that is read as a capability is the name of one only. -/
  parsed_unique : ∀ text,
    (Capability.parse? text).isSome ↔ ∃! c : Capability, Text.trim text = c.name

theorem lists_read_back (config : Config) : ListsReadBack config where
  capabilities caps pieces hspells := by
    have hnames : ∀ name ∈ caps.map Capability.name, Text.IsItem name := by
      intro name hname
      obtain ⟨c, -, rfl⟩ := List.mem_map.1 hname
      exact c.isItem_name
    exact config.sets_of_only (withEnvironment_only_capabilities (hspells.items_eq hnames))
  extensions names pieces hnames hspells :=
    config.sets_of_only (withEnvironment_only_extensions (hspells.items_eq hnames))
  layers names pieces hnames hspells :=
    config.sets_of_only (withEnvironment_only_layers (hspells.items_eq hnames))
  isItem _ _ := Text.isItem_of_mem_items
  again := Text.items_joined_items
  parsed_iff _ _ := Capability.parse?_eq_some_iff
  parsed_unique text := by
    rw [Option.isSome_iff_exists]
    constructor
    · rintro ⟨c, hc⟩
      have hname := Capability.parse?_eq_some_iff.1 hc
      exact ⟨c, hname, fun d hd => Capability.name_injective (hd.symm.trans hname)⟩
    · rintro ⟨c, hc, -⟩
      exact ⟨c, Capability.parse?_eq_some_iff.2 hc⟩

/-- A list with white space, a blank piece and a name that comes twice. -/
theorem written_capabilities_read_back :
    Config.default.withEnvironment
        (only .capabilities " shaderInt64,,\u00a0depthClamp ,\u2003,shaderInt64") =
      .ok { Config.default with capabilities := [.shaderInt64, .depthClamp, .shaderInt64] } := by
  have hspells : Text.Spells
      ([Capability.shaderInt64, .depthClamp, .shaderInt64].map Capability.name)
      [" " ++ "shaderInt64" ++ "", "", "\u00a0" ++ "depthClamp" ++ " ", "\u2003",
        "" ++ "shaderInt64" ++ ""] :=
    .name (by decide) (by decide) <| .blank (by decide) <| .name (by decide) (by decide) <|
      .blank (by decide) <| .name (by decide) (by decide) .nil
  exact (lists_read_back Config.default).capabilities _ _ hspells _ (by decide)

end VulkanExec.Config
