import VulkanExec.Proofs.Establishment.Decision

/-!
# What decides an adoption

An adoption needs a short row of conditions: the entry points are found, what the caller says about
the physical device covers the configuration, and there is a queue. They are checked in order, and
until they all hold nothing is asked but names.

## Main definitions

- `Check.nothingLeft`: a check that nothing is left over;
- `AdoptionCondition`, `AdoptionCondition.all`: the conditions in order;
- `AdoptionCondition.check`: a condition against the answers of a driver and the caller's word.

The main statements are `adopt_checked` and `only_resolved_of_error`.
-/

namespace VulkanExec

open Program

/-! ## Checks -/

namespace Check

/-- Nothing may be left; otherwise the error tells all that is. -/
def nothingLeft {α : Type} (error : List α → Error) : List α → Check
  | [] => holds
  | left => fails (error left)

end Check

/-! ## Conditions -/

/-- What an adoption needs. -/
inductive AdoptionCondition where
  /-- The global entry points are found, without an instance. -/
  | globalFunctions
  /-- The required entry points are found with the caller's instance. -/
  | instanceFunctions
  | capabilitiesThere
  | extensionsThere
  | queueThere
  deriving DecidableEq, Repr

namespace AdoptionCondition

/-- The conditions, in order. -/
def all : List AdoptionCondition :=
  [globalFunctions, instanceFunctions, capabilitiesThere, extensionsThere, queueThere]

/-- A condition against the answers of a driver and what the caller says. -/
def check (host : HostHandles) (config : Config) (a : Answers) : AdoptionCondition → Check
  | globalFunctions => a.checkFound EntryPoint.globalNames .null
  | instanceFunctions => a.checkFound EntryPoint.instanceNames host.inst
  | capabilitiesThere => .nothingLeft .unsupportedCapabilities
      (config.capabilities.filter (host.features.word · ≠ 1)).eraseDups
  | extensionsThere => .nothingLeft .unsupportedExtensions
      (config.extensions.filter (· ∉ host.extensions)).eraseDups
  | queueThere => if host.queue = .null then .fails (.queueUnavailable host.family) else .holds

end AdoptionCondition

variable {host : HostHandles} {config : Config} {stamp : Nat} {inst : InstanceHandle}
  {events : List Event} {a : Answers}

/-- What the caller says covers a configuration, or the error tells what is missing. -/
theorem checkAdvertised_checked : Check.first
      ([.capabilitiesThere, .extensionsThere].map (AdoptionCondition.check host config a)) =
    Check.of (checkAdvertised host.features host.extensions config.capabilities
      config.extensions) := by
  have hcapabilities : missing host.features.has config.capabilities =
      (config.capabilities.filter (host.features.word · ≠ 1)).eraseDups := by
    refine congrArg List.eraseDups (List.filter_congr fun c _ => ?_)
    rw [Features.has, Bool.eq_iff_iff]
    simp
  have hextensions : missing (offers host.extensions) config.extensions =
      (config.extensions.filter (· ∉ host.extensions)).eraseDups := by
    refine congrArg List.eraseDups (List.filter_congr fun name _ => ?_)
    simp [offers]
  simp only [List.map_cons, List.map_nil, AdoptionCondition.check, ← hcapabilities, ← hextensions,
    checkAdvertised]
  cases missing host.features.has config.capabilities <;>
    cases missing (offers host.extensions) config.extensions <;> rfl

namespace Context

/-- The entry points of both scopes are found, or the error tells which are not. -/
theorem resolveAll_checked {r : Except Error EntryTable} (h : (resolveAll host.inst).Runs events r)
    (ha : a.functions = (Answers.of events).functions) : Check.first
      ([.globalFunctions, .instanceFunctions].map (AdoptionCondition.check host config a)) =
    Check.of r := by
  rcases runs_except_bind h with
    ⟨first, _, e, rfl, hfirst, hend⟩ | ⟨first, second, table, rfl, hfirst, hsecond⟩
  · obtain ⟨rfl, rfl⟩ := runs_pure_iff.1 hend
    obtain ⟨globals, hglobals, hr, htold⟩ := EntryTable.runs_resolveWith hfirst
    have hdecided : Decided config 0 a [.globalFunctions] (.error e : Except Error EntryTable) :=
      EntryTable.decided_global hglobals hr ⟨[], by simp [ha, htold]⟩
    exact Check.first_append_of_fails hdecided
  · obtain ⟨globals, hglobals, hr, htold⟩ := EntryTable.runs_resolveWith hfirst
    obtain ⟨findings, hfindings, hr', htold'⟩ := EntryTable.runs_resolveWith hsecond
    have hfunctions : a.functions =
        EntryTable.told .null globals ++ EntryTable.told host.inst findings := by
      simp [ha, htold, htold', Answers.append_def]
    have hdecided : Decided config 0 a [.globalFunctions] (.ok table) :=
      EntryTable.decided_global hglobals hr ⟨_, hfunctions⟩
    have hres : EntryTable.Resolutions a host.inst globals findings :=
      ⟨hglobals, hfindings, hfunctions⟩
    have hcheck : a.checkFound EntryPoint.instanceNames host.inst =
        .noneMissing .missingEntryPoints (EntryTable.unresolved findings) :=
      EntryTable.checkFound_eq (fun f hf => hres.lookup hf)
        (EntryTable.required_eq hfindings).symm
    rw [← EntryTable.of_record hr'] at hcheck
    refine (Check.first_append_of_holds hdecided).trans ?_
    exact (Check.first_singleton _).trans hcheck

/-- After the names, the caller's word and the queue decide. -/
theorem checked_of_resolved {r : Except Error Context} {entries : EntryTable}
    (hresolved : Check.first
      ([.globalFunctions, .instanceFunctions].map (AdoptionCondition.check host config a)) =
        Check.of (.ok entries : Except Error EntryTable))
    (hrest : Check.first
      ([.capabilitiesThere, .extensionsThere, .queueThere].map
        (AdoptionCondition.check host config a)) = Check.of r) :
    Check.first (AdoptionCondition.all.map (AdoptionCondition.check host config a)) =
      Check.of r :=
  (Check.first_append_of_holds hresolved).trans hrest

/-- The conditions of an adoption come to its result. -/
theorem adopt_checked {r : Except Error Context} (h : (adopt host config stamp).Runs events r) :
    Check.first (AdoptionCondition.all.map (AdoptionCondition.check host config (.of events))) =
      Check.of r := by
  rcases runs_except_bind h with
    ⟨first, _, e, rfl, hfirst, hend⟩ | ⟨first, _, entries, rfl, hfirst, hrest⟩
  · obtain ⟨rfl, rfl⟩ := runs_pure_iff.1 hend
    rw [List.append_nil]
    exact Check.first_append_of_fails (resolveAll_checked hfirst rfl)
  · dsimp only at hrest
    split at hrest
    · next e hrefused =>
      obtain ⟨rfl, rfl⟩ := runs_pure_iff.1 hrest
      rw [List.append_nil]
      refine checked_of_resolved (resolveAll_checked hfirst rfl) ?_
      exact Check.first_append_of_fails (checkAdvertised_checked.trans (by rw [hrefused]; rfl))
    · next haccepted =>
      have hqueue {a : Answers} {r : Except Error Context}
          (h : AdoptionCondition.check host config a .queueThere = Check.of r) : Check.first
            ([.capabilitiesThere, .extensionsThere, .queueThere].map
              (AdoptionCondition.check host config a)) = Check.of r :=
        (Check.first_append_of_holds (checkAdvertised_checked.trans (by rw [haccepted]; rfl))).trans
          ((Check.first_singleton _).trans h)
      split at hrest
      · next hnull =>
        obtain ⟨rfl, rfl⟩ := runs_pure_iff.1 hrest
        rw [List.append_nil]
        refine checked_of_resolved (resolveAll_checked hfirst rfl) (hqueue ?_)
        simp_all [AdoptionCondition.check, Handle.isNull, Check.of]
      · next hthere =>
        obtain ⟨_, _, rfl, hdevice⟩ := runs_ask_iff.1 hrest
        obtain ⟨_, _, rfl, haround⟩ := runs_ask_iff.1 hdevice
        obtain ⟨second, _, context, rfl, hsecond, hlog⟩ := runs_bind_iff.1 haround
        obtain ⟨_, rfl, hend⟩ := runs_log_iff.1 hlog
        obtain ⟨rfl, rfl⟩ := runs_pure_iff.1 hend
        refine checked_of_resolved (resolveAll_checked hfirst ?_) (hqueue ?_)
        · simp [Answers.of_around hsecond, Event.tells]
        · simp_all [AdoptionCondition.check, Handle.isNull, Check.of]

/-- An adoption that fails has asked for nothing but names. -/
theorem only_resolved_of_error {e : Error} (h : (adopt host config stamp).Runs events (.error e)) :
    ∀ c answer, .answered c answer ∈ events → ∃ i name, c = .resolve i name := by
  have hany : ∀ i name, ∃ i' name', Command.resolve i name = .resolve i' name' :=
    fun i name => ⟨i, name, rfl⟩
  cases runs_adopt h with
  | refused resolving =>
    intro c answer hc
    refine Only.of_mem (P := fun c => ∃ i name, c = .resolve i name) ?_ resolving hc
    apply (only_resolveWith (hany _)).bind
    intro resolved
    cases resolved with
    | error e => trivial
    | ok table => exact only_resolveWith (hany _)

end Context

end VulkanExec
