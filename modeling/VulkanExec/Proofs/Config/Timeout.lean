import VulkanExec.Proofs.Config.Lists
import VulkanExec.Proofs.Text.LeadingDigits

/-!
# The bound on waits in an environment

The bound is a number of milliseconds. Its value in an environment is taken exactly when it writes a
decimal number of 32 bits, and then the bound is that number. Any other value is an error under the
key of the bound, with the reason that reading from the left comes to.

## Main definitions

- `Config.TimeoutsRead`: what becomes of the values of the bound.

The main statement is `timeouts_read`.
-/

namespace VulkanExec.Config

open Text.Decimal (Numeral faultOf value leading unsigned)

variable {env : String → Option String} {text : String} {config after : Config} {n : UInt32}
  {fault : ConfigFault}

theorem withEnvironment_only_fenceTimeout (h : Numeral (Text.trim text).toList n.toNat)
    (config : Config) :
    config.withEnvironment (only .fenceTimeout text) = .ok { config with fenceTimeout := n } :=
  withEnvironment_eq_ok_iff.2 <| settled_iff_reflects.2
    ⟨takes_only_of_ne nofun, takes_only_self h, takes_only_of_ne nofun, takes_only_of_ne nofun,
      takes_only_of_ne nofun, rfl, rfl, rfl⟩

/-- A number that fits is the bound, whatever else an environment has. -/
theorem sets_fenceTimeout (h : Numeral (Text.trim text).toList n.toNat) (config : Config) :
    config.Sets .fenceTimeout text ({ · with fenceTimeout := n }) :=
  config.sets_of_only (withEnvironment_only_fenceTimeout h)

/-- The number of a value that was taken. -/
theorem numeral_of_withEnvironment (henv : env Key.fenceTimeout.name = some text)
    (h : config.withEnvironment env = .ok after) :
    Numeral (Text.trim text).toList after.fenceTimeout.toNat := by
  have htakes := (settled_iff_reflects.1 (withEnvironment_eq_ok_iff.1 h)).fenceTimeout
  rwa [henv] at htakes

/-- An environment can be read when the value is a number that fits and the rest can be read. -/
theorem withEnvironment_eq_ok_iff_numeral (henv : env Key.fenceTimeout.name = some text) :
    config.withEnvironment env = .ok after ↔ ∃ (rest : Config) (n : UInt32),
      config.withEnvironment (without .fenceTimeout env) = .ok rest ∧
        Numeral (Text.trim text).toList n.toNat ∧ after = { rest with fenceTimeout := n } := by
  constructor
  · intro h
    have hnumeral := numeral_of_withEnvironment henv h
    rw [sets_fenceTimeout hnumeral config env henv] at h
    cases hrest : config.withEnvironment (without .fenceTimeout env) with
    | error e =>
      rw [hrest] at h
      cases h
    | ok rest =>
      rw [hrest] at h
      exact ⟨rest, _, rfl, hnumeral, (Except.ok.inj h).symm⟩
  · rintro ⟨rest, n, hrest, hnumeral, rfl⟩
    rw [sets_fenceTimeout hnumeral config env henv, hrest]
    rfl

/-- The value is the error unless it is a number that fits, or the value of the switch is wrong,
which is read before it. -/
theorem withEnvironment_eq_timeout_error_iff (henv : env Key.fenceTimeout.name = some text)
    (hswitch : ∀ fault, ¬ Spoils env .validation fault) :
    config.withEnvironment env = .error (.invalidConfig Key.fenceTimeout.name fault) ↔
      (¬ ∃ n < 2 ^ 32, Numeral (Text.trim text).toList n) ∧
        fault = .noNumber (faultOf (Text.trim text).toList) := by
  rw [withEnvironment_eq_error_iff]
  constructor
  · rintro ⟨key, fault', hfirst, heq⟩
    obtain ⟨hname, rfl⟩ := Error.invalidConfig.inj heq
    obtain rfl := Key.name_injective hname
    obtain ⟨text', htext, hmalformed⟩ := hfirst.spoils
    obtain rfl : text = text' := Option.some.inj (henv.symm.trans htext)
    cases hmalformed with
    | number hfaulty =>
      obtain ⟨hnot, rfl⟩ := Text.Decimal.faulty_iff.1 hfaulty
      exact ⟨hnot, rfl⟩
  · rintro ⟨hnot, rfl⟩
    have hmalformed : Malformed .fenceTimeout text (.noNumber (faultOf (Text.trim text).toList)) :=
      .number (Text.Decimal.faulty_iff.2 ⟨hnot, rfl⟩)
    refine ⟨.fenceTimeout, _, ⟨⟨text, henv, hmalformed⟩, fun other fault' hrank => ?_⟩, rfl⟩
    cases other with
    | validation => exact hswitch fault'
    | fenceTimeout | capabilities | extensions | layers => simp [Key.rank] at hrank

/-- What becomes of the values of the bound. -/
structure TimeoutsRead (config : Config) : Prop where
  /-- Where all else can be read, a value is taken exactly when it is a number that fits, and then
  the bound is the number. -/
  accepted_iff : ∀ env text, env "VKCORE_FENCE_TIMEOUT_MS" = some text →
    ∀ after, config.withEnvironment env = .ok after ↔ ∃ rest n,
      config.withEnvironment (without .fenceTimeout env) = .ok rest ∧
      n ≤ 4294967295 ∧ Numeral (Text.trim text).toList n ∧
        after.fenceTimeout.toNat = n ∧ after = { rest with fenceTimeout := after.fenceTimeout }
  /-- Any other value is the error, unless the switch, which is read before, has a wrong value. -/
  refused_iff : ∀ env text, env "VKCORE_FENCE_TIMEOUT_MS" = some text →
    (∀ fault, ¬ Spoils env .validation fault) →
    ∀ fault, config.withEnvironment env =
        .error (.invalidConfig "VKCORE_FENCE_TIMEOUT_MS" fault) ↔
      (¬ ∃ n ≤ 4294967295, Numeral (Text.trim text).toList n) ∧
        fault = .noNumber (faultOf (Text.trim text).toList)
  /-- The digits in front decide between a number that is too large and a wrong digit. -/
  reason : ∀ cs, (ConfigFault.noNumber (faultOf cs)).message =
    if cs = [] then "cannot parse integer from empty string"
    else if 4294967295 < value (leading (unsigned cs)) then
      "number too large to fit in target type"
    else "invalid digit found in string"
  /-- Zeros in front of a number change nothing. -/
  zeros : ∀ k digits, value (List.replicate k '0' ++ digits) = value digits

theorem timeouts_read (config : Config) : TimeoutsRead config where
  accepted_iff env text henv after := by
    rw [withEnvironment_eq_ok_iff_numeral henv]
    constructor
    · rintro ⟨rest, n, hrest, hnumeral, rfl⟩
      exact ⟨rest, _, hrest, Nat.le_of_lt_succ n.toNat_lt, hnumeral, rfl, rfl⟩
    · rintro ⟨rest, n, hrest, -, hnumeral, rfl, hafter⟩
      exact ⟨rest, _, hrest, hnumeral, hafter⟩
  refused_iff env text henv hswitch fault := by
    have hfits (n : Nat) : n ≤ 4294967295 ↔ n < 2 ^ 32 := Nat.lt_succ_iff.symm
    simp only [hfits]
    exact withEnvironment_eq_timeout_error_iff henv hswitch
  reason cs := by
    have hlarge (n : Nat) : 4294967295 < n ↔ 2 ^ 32 ≤ n := Nat.lt_iff_add_one_le
    simp only [faultOf, hlarge]
    split
    · rfl
    · split <;> rfl
  zeros := Text.Decimal.value_zeros_append

/-- The largest number is read with zeros in front of it, and one more is too large, whatever comes
after it. -/
theorem largest_timeout_read :
    Config.default.withEnvironment (only .fenceTimeout " +0004294967295\u00a0") =
        .ok { Config.default with fenceTimeout := 4294967295 } ∧
      Config.default.withEnvironment (only .fenceTimeout "4294967296x") =
        .error (.invalidConfig "VKCORE_FENCE_TIMEOUT_MS" (.noNumber .tooLarge)) := by
  have hread := timeouts_read Config.default
  have hrest : Config.default.withEnvironment (without .fenceTimeout
      (only .fenceTimeout " +0004294967295\u00a0")) = .ok Config.default := rfl
  constructor
  · have hnumeral : Numeral (Text.trim " +0004294967295\u00a0").toList
        (4294967295 : UInt32).toNat := Text.Decimal.read_eq_ok_iff.1 (by decide)
    exact (hread.accepted_iff _ _ (by decide) _).2
      ⟨_, 4294967295, hrest, le_rfl, hnumeral, rfl, rfl⟩
  · have hfaulty : Text.Decimal.Faulty (Text.trim "4294967296x").toList .tooLarge :=
      Text.Decimal.read_eq_error_iff.1 (by decide)
    have hnot := (Text.Decimal.faulty_iff.1 hfaulty).1
    refine (hread.refused_iff _ "4294967296x" (by decide) ?_ _).2 ⟨?_, by decide⟩
    · rintro fault ⟨text, htext, -⟩
      cases htext
    · rintro ⟨n, hn, hnumeral⟩
      exact hnot ⟨n, Nat.lt_succ_of_le hn, hnumeral⟩

end VulkanExec.Config
