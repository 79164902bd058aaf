import VulkanExec.Proofs.Establishment.FirstMatch
import VulkanExec.Proofs.Requirements

/-!
# Two ways to the same verdict

The selection asks of a candidate whether it meets the requirements. The check of a device that the
caller has chosen lists what is missing. Both come to the same verdict on the same features and
extensions, whatever words the features hold and however often an item is asked for.

## Main definitions

- `Covers`: features and extensions that are all that is required of them;
- `AdvertisedCheck`: what is said of the check.

The main statement is `advertised_checked`.
-/

namespace VulkanExec

variable {features : Features} {available : List String} {capabilities : List Capability}
  {extensions : List String}

/-- The required capabilities are on, and the required extensions are available. -/
structure Covers (features : Features) (available : List String) (capabilities : List Capability)
    (extensions : List String) : Prop where
  capabilities : ∀ c ∈ capabilities, features.word c = 1
  extensions : ∀ name ∈ extensions, name ∈ available

/-- What is said of the check of features and extensions that a caller vouches for. -/
structure AdvertisedCheck (features : Features) (available : List String)
    (capabilities : List Capability) (extensions : List String) (r : Except Error Unit) : Prop where
  /-- A candidate that says the same, and has a queue family for the work, is selected exactly when
  the check succeeds. -/
  agrees : ∀ candidate : Candidate, candidate.features = features →
    candidate.extensions = available → (∃ flags ∈ candidate.families, flags &&& workFlags ≠ 0) →
    (r = .ok () ↔ ∃ events family,
        (candidate.suitableFamily? capabilities extensions).Runs events (some family)) ∧
      (r ≠ .ok () ↔ ∃ events,
        (candidate.suitableFamily? capabilities extensions).Runs events none)
  covered : r = .ok () ↔ Covers features available capabilities extensions
  /-- Missing capabilities are told, whatever extensions are missing. -/
  lacks_capability : (∃ c ∈ capabilities, features.word c ≠ 1) → ∃ absent,
    r = .error (.unsupportedCapabilities absent) ∧ absent ≠ [] ∧
      ListsMissing (features.word · = 1) capabilities absent
  /-- Missing extensions are told when no capability is missing. -/
  lacks_extension : (∀ c ∈ capabilities, features.word c = 1) →
    (∃ name ∈ extensions, name ∉ available) → ∃ absent,
      r = .error (.unsupportedExtensions absent) ∧ absent ≠ [] ∧
      ListsMissing (· ∈ available) extensions absent

/-- A candidate with a queue family for the work qualifies by its features and extensions alone. -/
theorem qualifies_iff_covers {candidate : Candidate}
    (hfamily : ∃ flags ∈ candidate.families, flags &&& workFlags ≠ 0) :
    candidate.Qualifies capabilities extensions ↔
      Covers candidate.features candidate.extensions capabilities extensions :=
  ⟨fun h => ⟨h.capabilities, h.extensions⟩, fun h => ⟨h.capabilities, h.extensions, hfamily⟩⟩

/-- The family of a candidate is found exactly when the candidate qualifies. -/
theorem suitableFamily?_isSome_iff {candidate : Candidate} {events : List Event}
    {family? : Option UInt32}
    (h : (candidate.suitableFamily? capabilities extensions).Runs events family?) :
    (∃ family, family? = some family) ↔ candidate.Qualifies capabilities extensions := by
  have hnone : family?.map (Choice.mk candidate) = none ↔
      ¬ candidate.Qualifies capabilities extensions := by
    rw [← (choice?_of_suitableFamily? h).1]
    exact choice?_eq_none_iff
  cases family? with
  | none => simpa using hnone
  | some family => simpa using hnone

theorem exists_runs_suitableFamily? (candidate : Candidate) (capabilities : List Capability)
    (extensions : List String) : ∃ events family?,
      (candidate.suitableFamily? capabilities extensions).Runs events family? := by
  unfold Candidate.suitableFamily?
  cases candidate.assess capabilities extensions with
  | ok family => exact ⟨_, _, .done _⟩
  | error shortcoming => exact ⟨_, _, .note (.done _)⟩

theorem runs_some_iff {candidate : Candidate} :
    (∃ events family,
      (candidate.suitableFamily? capabilities extensions).Runs events (some family)) ↔
        candidate.Qualifies capabilities extensions := by
  constructor
  · rintro ⟨events, family, hrun⟩
    exact (suitableFamily?_isSome_iff hrun).1 ⟨family, rfl⟩
  · intro hqualifies
    obtain ⟨events, family?, hrun⟩ := exists_runs_suitableFamily? candidate capabilities extensions
    obtain ⟨family, rfl⟩ := (suitableFamily?_isSome_iff hrun).2 hqualifies
    exact ⟨events, family, hrun⟩

theorem runs_none_iff {candidate : Candidate} :
    (∃ events, (candidate.suitableFamily? capabilities extensions).Runs events none) ↔
      ¬ candidate.Qualifies capabilities extensions := by
  constructor
  · rintro ⟨events, hrun⟩ hqualifies
    obtain ⟨_, ⟨⟩⟩ := (suitableFamily?_isSome_iff hrun).2 hqualifies
  · intro hnot
    obtain ⟨events, family?, hrun⟩ := exists_runs_suitableFamily? candidate capabilities extensions
    cases family? with
    | none => exact ⟨events, hrun⟩
    | some family => exact absurd ((suitableFamily?_isSome_iff hrun).1 ⟨family, rfl⟩) hnot

theorem checkAdvertised_eq_ok_iff :
    checkAdvertised features available capabilities extensions = .ok () ↔
      Covers features available capabilities extensions := by
  have hnone : checkAdvertised features available capabilities extensions = .ok () ↔
      missing features.has capabilities = [] ∧ missing (offers available) extensions = [] := by
    unfold checkAdvertised
    split <;> simp_all
  rw [hnone, missing_eq_nil_iff, missing_eq_nil_iff, supports_has_iff, supports_offers_iff]
  exact ⟨fun h => ⟨h.1, h.2⟩, fun h => ⟨h.capabilities, h.extensions⟩⟩

theorem checkAdvertised_of_missing (h : missing features.has capabilities ≠ []) :
    checkAdvertised features available capabilities extensions =
      .error (.unsupportedCapabilities (missing features.has capabilities)) := by
  unfold checkAdvertised
  split <;> simp_all

theorem checkAdvertised_of_offered (hnone : missing features.has capabilities = [])
    (h : missing (offers available) extensions ≠ []) :
    checkAdvertised features available capabilities extensions =
      .error (.unsupportedExtensions (missing (offers available) extensions)) := by
  unfold checkAdvertised
  split <;> simp_all

/-- The check of a device of the caller's own choice and the selection of a candidate agree, and a
check that fails tells exactly what is missing. -/
theorem advertised_checked (features : Features) (available : List String)
    (capabilities : List Capability) (extensions : List String) :
    AdvertisedCheck features available capabilities extensions
      (checkAdvertised features available capabilities extensions) where
  agrees := by
    rintro candidate rfl rfl hfamily
    have hagree : checkAdvertised candidate.features candidate.extensions capabilities extensions =
        .ok () ↔ candidate.Qualifies capabilities extensions :=
      checkAdvertised_eq_ok_iff.trans (qualifies_iff_covers hfamily).symm
    exact ⟨hagree.trans runs_some_iff.symm, hagree.not.trans runs_none_iff.symm⟩
  covered := checkAdvertised_eq_ok_iff
  lacks_capability := by
    rintro ⟨c, hc, hoff⟩
    have hsome : missing features.has capabilities ≠ [] := by
      rw [Ne, missing_eq_nil_iff, supports_has_iff]
      exact fun h => hoff (h c hc)
    refine ⟨_, checkAdvertised_of_missing hsome, hsome, ?_⟩
    simpa [Features.has] using missing_lists features.has capabilities
  lacks_extension := by
    rintro hon ⟨name, hname, habsent⟩
    have hnone : missing features.has capabilities = [] :=
      missing_eq_nil_iff.2 (supports_has_iff.2 hon)
    have hsome : missing (offers available) extensions ≠ [] := by
      rw [Ne, missing_eq_nil_iff, supports_offers_iff]
      exact fun h => habsent (h name hname)
    refine ⟨_, checkAdvertised_of_offered hnone hsome, hsome, ?_⟩
    simpa [offers] using missing_lists (offers available) extensions

/-- An extension that is asked for twice is told once, and a capability whose word is two is off. -/
example : checkAdvertised ⟨fun _ => 2⟩ ["A"] [] ["B", "A", "B", "C"] =
      .error (.unsupportedExtensions ["B", "C"]) ∧
    checkAdvertised ⟨fun _ => 2⟩ ["A"] [.depthClamp, .depthClamp] ["B"] =
      .error (.unsupportedCapabilities [.depthClamp]) := by
  decide

end VulkanExec
