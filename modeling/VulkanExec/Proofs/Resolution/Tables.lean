import VulkanExec.Proofs.Establishment.Answers
import VulkanExec.Proofs.Names
import VulkanExec.Proofs.Numbering

/-!
# Tables after any resolutions

Scopes are resolved on one table, one after the other, each with its own way to find names. What
the table holds in the end is decided by the requests that ended well: under each name the latest
address that one of them found.

## Main definitions

- `EntryTable.Request`, `EntryTable.resolveEach`: a resolution, and several of them on one table;
- `EntryTable.Searched`: how the names of entry points are asked for;
- `EntryTable.Answered`: what one request does, whatever its resolver answers;
- `EntryTable.Round`, `EntryTable.Rounds`: what was found in a request, and in several of them;
- `EntryTable.Latest`: the latest address that was found in a request that ended well.

The main statement is `EntryTable.bound_by_latest_success`.
-/

namespace VulkanExec.EntryTable

open Program

/-- A resolution of a scope, with the resolver that finds its names. -/
structure Request where
  scope : EntryScope
  find : String → Program (Option Address)

/-- Resolve scopes on one table, one after the other. The table goes from each request to the next,
whether or not it has failed. -/
def resolveEach (table : EntryTable) :
    List Request → Program (List (Except Error Unit) × EntryTable)
  | [] => return ([], table)
  | request :: requests => do
    let (result, after) ← table.resolve request.scope request.find
    let (results, last) ← after.resolveEach requests
    return (result :: results, last)

/-- An entry point that may be absent, and is, is reported. -/
def reported (entry : EntryPoint) (found : Option Address) : List Event :=
  if found.isNone && !entry.required then
    [.noted (.log ⟨.debug, "optional entry point " ++ Text.quoted entry.name ++ " not available"⟩)]
  else []

/-- Names are asked for one after the other, each of them once, whatever the answers are. -/
inductive Searched (find : String → Program (Option Address)) : Findings → List Event → Prop where
  | nil : Searched find [] []
  | cons {entry : EntryPoint} {found : Option Address} {findings : Findings}
    {first rest : List Event} (asking : (find entry.name).Runs first found)
    (later : Searched find findings rest) :
    Searched find ((entry, found) :: findings) (first ++ (reported entry found ++ rest))

/-- What a request does to a table, which it turns into the table `after`. -/
structure Answered (table : EntryTable) (request : Request) (events : List Event)
    (findings : Findings) (r : Except Error Unit) (after : EntryTable) : Prop where
  /-- Every name of the scope is asked for once, in order. -/
  asked : findings.map Prod.fst = EntryPoint.ofScope request.scope
  searched : Searched request.find findings events
  /-- It fails if and only if a required name was not found. -/
  failed : (∃ e, r = .error e) ↔ ∃ f ∈ findings, f.1.required ∧ f.2 = none
  /-- The error lists all required names that were not found, in order. -/
  missing : ∀ e, r = .error e → e = .missingEntryPoints
    ((findings.filter fun f => f.1.required && f.2.isNone).map (·.1.name))
  /-- After a failure the table is what it was, whatever else was found. -/
  unchanged : ∀ e, r = .error e → after = table
  bound : r = .ok () → ∀ entry address, (entry, some address) ∈ findings →
    after.get? entry.name = some address
  kept : r = .ok () → ∀ name,
    (∀ entry address, (entry, some address) ∈ findings → entry.name ≠ name) →
      after.get? name = table.get? name

/-- What was found in a request for a scope. -/
structure Round where
  scope : EntryScope
  findings : Findings

namespace Round

/-- No required name was missing. -/
def Succeeds (round : Round) : Prop := ∀ f ∈ round.findings, f.1.required → f.2 ≠ none

/-- The request ended well, and found a name under an address. -/
def Binds (round : Round) (name : String) (address : Address) : Prop :=
  round.Succeeds ∧ ∃ entry, entry.name = name ∧ (entry, some address) ∈ round.findings

end Round

/-- Requests on a table, with what was found in each of them, their results and the last table. -/
inductive Rounds : EntryTable → List Request → List Event → List Round →
    List (Except Error Unit) → EntryTable → Prop where
  | nil (table : EntryTable) : Rounds table [] [] [] [] table
  | cons {table after last : EntryTable} {request : Request} {requests : List Request}
    {first rest : List Event} {findings : Findings} {rounds : List Round}
    {r : Except Error Unit} {results : List (Except Error Unit)}
    (answered : Answered table request first findings r after)
    (later : Rounds after requests rest rounds results last) :
    Rounds table (request :: requests) (first ++ rest) (⟨request.scope, findings⟩ :: rounds)
      (r :: results) last

/-- The latest round that binds a name binds it to an address. -/
def Latest (rounds : List Round) (name : String) (address : Address) : Prop :=
  ∃ earlier round later, rounds = earlier ++ round :: later ∧ round.Binds name address ∧
    ∀ x ∈ later, ∀ other, ¬ x.Binds name other

variable {table after last : EntryTable} {request : Request} {requests : List Request}
  {events : List Event} {findings : Findings} {round : Round} {rounds : List Round}
  {r : Except Error Unit} {results : List (Except Error Unit)} {name : String}
  {address : Address}

/-! ## One request -/

theorem searched_of_runs {find : String → Program (Option Address)} {entries : List EntryPoint}
    (h : (search find entries).Runs events findings) :
    findings.map Prod.fst = entries ∧ Searched find findings events := by
  induction entries generalizing events findings with
  | nil =>
    obtain ⟨rfl, rfl⟩ := runs_pure_iff.1 h
    exact ⟨rfl, .nil⟩
  | cons entry entries ih =>
    obtain ⟨first, second, found, rfl, hask, hrest⟩ := runs_bind_iff.1 h
    obtain ⟨rest, others, hothers, rfl, rfl⟩ : ∃ rest others,
        (search find entries).Runs rest others ∧ second = reported entry found ++ rest ∧
          findings = (entry, found) :: others := by
      split at hrest
      · next habsent =>
        obtain ⟨_, rfl, hsearch⟩ := runs_log_iff.1 hrest
        obtain ⟨rest, _, others, rfl, hothers, hend⟩ := runs_bind_iff.1 hsearch
        obtain ⟨rfl, rfl⟩ := runs_pure_iff.1 hend
        refine ⟨rest, others, hothers, ?_, rfl⟩
        rw [reported, if_pos habsent, List.append_nil]
        rfl
      · next hpresent =>
        obtain ⟨rest, _, others, rfl, hothers, hend⟩ := runs_bind_iff.1 hrest
        obtain ⟨rfl, rfl⟩ := runs_pure_iff.1 hend
        refine ⟨rest, others, hothers, ?_, rfl⟩
        rw [reported, if_neg hpresent, List.append_nil]
        rfl
    obtain ⟨hentries, hsearched⟩ := ih hothers
    exact ⟨congrArg (entry :: ·) hentries, .cons hask hsearched⟩

/-- What was found for entry points is put under their names. -/
theorem mem_located : (name, address) ∈ located findings ↔
    ∃ entry, entry.name = name ∧ (entry, some address) ∈ findings := by
  simp only [located, List.mem_filterMap, Prod.exists, Option.map_eq_some_iff, Prod.mk.injEq]
  constructor
  · rintro ⟨entry, _, hm, _, rfl, rfl, rfl⟩
    exact ⟨entry, rfl, hm⟩
  · rintro ⟨entry, rfl, hm⟩
    exact ⟨entry, _, hm, _, rfl, rfl, rfl⟩

theorem nodup_located {scope : EntryScope} (h : findings.map Prod.fst = EntryPoint.ofScope scope) :
    ((located findings).map Prod.fst).Nodup := by
  rw [map_fst_located]
  have hnames : (findings.map (·.1.name)).Nodup := names_eq h ▸ nodup_names scope
  exact hnames.sublist (List.filter_sublist.map _)

theorem unresolved_eq_nil_iff :
    unresolved findings = [] ↔ ∀ f ∈ findings, f.1.required → f.2 ≠ none := by
  rw [unresolved_eq, List.map_eq_nil_iff, List.filter_eq_nil_iff]
  simp

/-- A failure to record findings leaves the table as it was. -/
theorem record_eq_of_error {e : Error} (h : table.record findings = (.error e, after)) :
    after = table := by
  unfold record at h
  split at h <;> cases h
  rfl

/-- Every run of a request is one that was answered. -/
theorem answered_of_runs
    (h : (table.resolve request.scope request.find).Runs events (r, after)) :
    ∃ findings, Answered table request events findings r after := by
  obtain ⟨first, _, findings, rfl, hsearch, hend⟩ := runs_bind_iff.1 h
  obtain ⟨rfl, hrecord⟩ := runs_pure_iff.1 hend
  obtain ⟨hasked, hsearched⟩ := searched_of_runs hsearch
  rw [List.append_nil]
  have hunchanged : ∀ e, r = .error e → after = table := by
    rintro e rfl
    exact record_eq_of_error hrecord.symm
  refine ⟨findings, ?_⟩
  unfold record at hrecord
  split at hrecord <;> cases hrecord
  · next hnone =>
    have hall := unresolved_eq_nil_iff.1 hnone
    refine ⟨hasked, hsearched, ?_, nofun, hunchanged, ?_, ?_⟩
    · refine iff_of_false nofun ?_
      rintro ⟨f, hf, hrequired, hmissing⟩
      exact hall f hf hrequired hmissing
    · intro _ entry address hm
      exact table.get?_insertAll_of_mem (nodup_located hasked) (mem_located.2 ⟨entry, rfl, hm⟩)
    · intro _ name hother
      apply table.get?_insertAll_of_notMem
      intro hname
      obtain ⟨⟨_, address⟩, hm, rfl⟩ := List.mem_map.1 hname
      obtain ⟨entry, hentry, hfound⟩ := mem_located.1 hm
      exact hother entry address hfound hentry
  · next hsome =>
    refine ⟨hasked, hsearched, ?_, ?_, hunchanged, nofun, nofun⟩
    · refine iff_of_true ⟨_, rfl⟩ ?_
      rw [imp_false, unresolved_eq_nil_iff] at hsome
      push Not at hsome
      exact hsome
    · rintro e ⟨⟩
      rw [unresolved_eq]

namespace Answered

/-- A request ends well if and only if nothing required was missing. -/
theorem succeeds_iff (h : Answered table request events findings r after) :
    (Round.mk request.scope findings).Succeeds ↔ r = .ok () := by
  have hfailed := h.failed
  cases r with
  | error e =>
    obtain ⟨f, hf, hrequired, hmissing⟩ := hfailed.1 ⟨e, rfl⟩
    exact iff_of_false (fun hall => hall f hf hrequired hmissing) nofun
  | ok done =>
    refine iff_of_true ?_ rfl
    intro f hf hrequired hmissing
    obtain ⟨e, ⟨⟩⟩ := hfailed.2 ⟨f, hf, hrequired, hmissing⟩

/-- The table after a request has what the request bound, and else what it had. -/
theorem get?_iff (h : Answered table request events findings r after) :
    after.get? name = some address ↔
      (Round.mk request.scope findings).Binds name address ∨
        (∀ other, ¬ (Round.mk request.scope findings).Binds name other) ∧
          table.get? name = some address := by
  have hsucceeds := h.succeeds_iff
  cases r with
  | error e =>
    have hnone (other : Address) : ¬ (Round.mk request.scope findings).Binds name other := by
      rintro ⟨hall, -⟩
      cases hsucceeds.1 hall
    simp [hnone, h.unchanged e rfl]
  | ok done =>
    have hall : (Round.mk request.scope findings).Succeeds := hsucceeds.2 rfl
    by_cases hbound : ∃ other, (Round.mk request.scope findings).Binds name other
    · obtain ⟨other, -, entry, rfl, hm⟩ := hbound
      rw [h.bound rfl entry other hm]
      constructor
      · rintro ⟨⟩
        exact .inl ⟨hall, entry, rfl, hm⟩
      · rintro (⟨-, same, hname, hsame⟩ | ⟨hnone, -⟩)
        · rw [← h.bound rfl entry other hm, ← hname]
          exact h.bound rfl same address hsame
        · exact absurd ⟨hall, entry, rfl, hm⟩ (hnone other)
    · have hkept : after.get? name = table.get? name := by
        refine h.kept rfl name fun entry other hm hname => ?_
        exact hbound ⟨other, hall, entry, hname, hm⟩
      rw [hkept]
      grind

end Answered

/-! ## Any requests -/

theorem rounds_of_runs (h : (table.resolveEach requests).Runs events (results, last)) :
    ∃ rounds, Rounds table requests events rounds results last := by
  induction requests generalizing table events results with
  | nil =>
    obtain ⟨rfl, he⟩ := runs_pure_iff.1 h
    cases he
    exact ⟨[], .nil _⟩
  | cons request requests ih =>
    obtain ⟨first, _, ⟨r, after⟩, rfl, hfirst, hrest⟩ := runs_bind_iff.1 h
    obtain ⟨rest, _, ⟨others, t⟩, rfl, hothers, hend⟩ := runs_bind_iff.1 hrest
    obtain ⟨rfl, he⟩ := runs_pure_iff.1 hend
    cases he
    obtain ⟨findings, hanswered⟩ := answered_of_runs hfirst
    obtain ⟨rounds, hrounds⟩ := ih hothers
    rw [List.append_nil]
    exact ⟨_, .cons hanswered hrounds⟩

/-- The latest of some rounds that bind a name is the first of them, unless a later one does. -/
theorem latest_cons_iff : Latest (round :: rounds) name address ↔
    Latest rounds name address ∨
      round.Binds name address ∧ ∀ x ∈ rounds, ∀ other, ¬ x.Binds name other := by
  constructor
  · rintro ⟨earlier, x, later, hsplit, hbinds, hlater⟩
    cases earlier with
    | nil =>
      obtain ⟨rfl, rfl⟩ := List.cons.inj hsplit
      exact .inr ⟨hbinds, hlater⟩
    | cons _ earlier => exact .inl ⟨earlier, x, later, (List.cons.inj hsplit).2, hbinds, hlater⟩
  · rintro (⟨earlier, x, later, rfl, hbinds, hlater⟩ | ⟨hbinds, hlater⟩)
    · exact ⟨round :: earlier, x, later, rfl, hbinds, hlater⟩
    · exact ⟨[], round, rounds, rfl, hbinds, hlater⟩

/-- A name that some round binds is bound by a latest one. -/
theorem exists_latest_iff :
    (∃ address, Latest rounds name address) ↔ ∃ x ∈ rounds, ∃ other, x.Binds name other := by
  induction rounds with
  | nil => simp [Latest]
  | cons round rounds ih =>
    simp only [latest_cons_iff, exists_or, List.exists_mem_cons_iff, ih]
    grind

namespace Rounds

/-- A name has the latest address that was found, or what it had if there is none. -/
theorem get?_iff (h : Rounds table requests events rounds results last) :
    last.get? name = some address ↔ Latest rounds name address ∨
      (∀ x ∈ rounds, ∀ other, ¬ x.Binds name other) ∧ table.get? name = some address := by
  induction h with
  | nil table => simp [Latest]
  | cons answered _ ih =>
    rw [ih, answered.get?_iff, latest_cons_iff]
    simp only [List.forall_mem_cons]
    tauto

/-- What a round finds belongs to its scope. -/
theorem scope_of_mem (h : Rounds table requests events rounds results last)
    (hround : round ∈ rounds) {entry : EntryPoint} {found : Option Address}
    (hm : (entry, found) ∈ round.findings) :
    entry ∈ EntryPoint.catalog ∧ entry.scope = round.scope := by
  induction h with
  | nil => cases hround
  | cons answered _ ih =>
    rcases List.mem_cons.1 hround with rfl | hround
    · have hentry := List.mem_map_of_mem (f := Prod.fst) hm
      rw [answered.asked, EntryPoint.ofScope] at hentry
      simpa using hentry
    · exact ih hround

end Rounds

/-- A table on which any scopes were resolved in any order, with any resolvers. Each request asks
for every name of its scope once, in order and also after a miss. It fails if and only if a
required name was missing, with all of them in its error, and leaves the table as it was; otherwise
it binds what was found and nothing else. So in the end a name of the catalog is in the table if and
only if a request for its scope that ended well has found it, with the address of the latest one,
and no other name is. -/
theorem bound_by_latest_success (hrun : (empty.resolveEach requests).Runs events (results, last)) :
    ∃ rounds, Rounds empty requests events rounds results last ∧
      (∀ name, last.contains name = true ↔ ∃ entry ∈ EntryPoint.catalog, entry.name = name ∧
        ∃ round ∈ rounds, round.scope = entry.scope ∧ round.Succeeds ∧
          ∃ address, (entry, some address) ∈ round.findings) ∧
      (∀ name address, last.get? name = some address ↔ Latest rounds name address) ∧
      last.size = {name | ∃ round ∈ rounds, ∃ address, round.Binds name address}.ncard := by
  obtain ⟨rounds, hrounds⟩ := rounds_of_runs hrun
  have hget (name : String) (address : Address) :
      last.get? name = some address ↔ Latest rounds name address := by
    rw [hrounds.get?_iff]
    simp [empty]
  have hcontains (name : String) :
      last.contains name = true ↔ ∃ round ∈ rounds, ∃ address, round.Binds name address := by
    rw [NameTable.contains, Option.isSome_iff_exists, ← exists_latest_iff]
    simp only [hget]
  refine ⟨rounds, hrounds, ?_, hget, ?_⟩
  · intro name
    rw [hcontains]
    constructor
    · rintro ⟨round, hround, address, hsucceeds, entry, rfl, hm⟩
      obtain ⟨hcatalog, hscope⟩ := hrounds.scope_of_mem hround hm
      exact ⟨entry, hcatalog, rfl, round, hround, hscope.symm, hsucceeds, address, hm⟩
    · rintro ⟨entry, -, rfl, round, hround, -, hsucceeds, address, hm⟩
      exact ⟨round, hround, address, hsucceeds, entry, rfl, hm⟩
  · rw [NameTable.size_eq_ncard]
    simp only [hcontains]

/-! ### Names that go missing -/

/-- The instance scope, with the names that a driver finds for an instance. -/
def instanceRequest (inst : InstanceHandle) : Request :=
  ⟨.perInstance, fun name => .ask (.resolve inst name)⟩

/-- The global scope, with the names that a driver finds without an instance. -/
def globalRequest : Request := ⟨.global, fun name => .ask (.resolve .null name)⟩

/-- Requests to a driver that lacks one global function, and the messenger's function for the second
instance. The first request finds the two optional names, under 67 and 68. -/
def fadingRun : (List (Except Error Unit) × EntryTable) × List Event × Nat :=
  (empty.resolveEach [instanceRequest ⟨1⟩, instanceRequest ⟨2⟩, globalRequest]).runWith
    ((Driver.numbering fun _ => false).override fun
      | .resolve ⟨2⟩ "vkCreateDebugUtilsMessengerEXT" => some none
      | .resolve .null "vkCreateInstance" => some none
      | _ => none) 0

/-- The second request keeps the address of the name that it misses, and moves the other one. The
third finds two names and not the required third, and leaves none of them. -/
theorem missed_name_keeps_address : ∃ rounds,
    Rounds empty [instanceRequest ⟨1⟩, instanceRequest ⟨2⟩, globalRequest] fadingRun.2.1 rounds
      fadingRun.1.1 fadingRun.1.2 ∧
    Latest rounds EntryPoint.createMessenger ⟨67⟩ ∧
    Latest rounds EntryPoint.destroyMessenger ⟨137⟩ ∧
    fadingRun.1.1 = [.ok (), .ok (), .error (.missingEntryPoints ["vkCreateInstance"])] ∧
    ∀ address, ¬ Latest rounds "vkEnumerateInstanceLayerProperties" address := by
  have hrun : (empty.resolveEach [instanceRequest ⟨1⟩, instanceRequest ⟨2⟩, globalRequest]).Runs
      fadingRun.2.1 fadingRun.1 := by
    unfold fadingRun
    exact runs_runWith ..
  have hkept : fadingRun.1.2.get? EntryPoint.createMessenger = some ⟨67⟩ := by decide +kernel
  have hmoved : fadingRun.1.2.get? EntryPoint.destroyMessenger = some ⟨137⟩ := by decide +kernel
  have hnone : fadingRun.1.2.get? "vkEnumerateInstanceLayerProperties" = none := by decide +kernel
  have hresults : fadingRun.1.1 =
      [.ok (), .ok (), .error (.missingEntryPoints ["vkCreateInstance"])] := by decide +kernel
  generalize fadingRun = run at *
  obtain ⟨rounds, hrounds, -, hlatest, -⟩ := bound_by_latest_success hrun
  refine ⟨rounds, hrounds, (hlatest _ _).1 hkept, (hlatest _ _).1 hmoved, hresults, ?_⟩
  intro address hbound
  rw [← hlatest, hnone] at hbound
  cases hbound

end VulkanExec.EntryTable
