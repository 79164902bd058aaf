import VulkanExec.Proofs.Establishment.Answers
import VulkanExec.Proofs.Resolution.Calls

/-!
# Calls on the way to a context

Names are looked for in two scopes before a context is there, and each call on the way comes after
its name was found. The table that the context keeps says what was found.

## Main definitions

- `EntryTable.Resolution`: what the resolution of a scope finds, and what it puts into the table;
- `EntryTable.Complete`: a table has what is required, and else what was found.

The main statements are about the two ways to a context: `Context.Course.callable` and
`Context.Adoption.callable` for the calls, `Context.Course.complete` and `Context.Adoption.complete`
for the tables.
-/

namespace VulkanExec

open Program

variable {past first second events : List Event} {inst : InstanceHandle} {name : String}

/-! ## What was found -/

theorem Event.mem_functions_tells {e : Event} {found : Option Address} :
    ((inst, name), found) ∈ e.tells.functions ↔ e = .answered (.resolve inst name) found := by
  constructor
  · intro h
    cases e with
    | noted n => simp at h
    | answered c answer =>
      cases c <;> simp only [tells, List.not_mem_nil, List.mem_singleton] at h
      cases h
      rfl
  · rintro rfl
    exact List.mem_singleton_self _

theorem Answers.mem_functions {found : Option Address} :
    ((inst, name), found) ∈ (Answers.of events).functions ↔
      .answered (.resolve inst name) found ∈ events := by
  induction events with
  | nil => simp
  | cons e events ih =>
    simp only [of_cons, append_def, List.mem_append, ih, Event.mem_functions_tells, List.mem_cons]
    rw [eq_comm]

theorem resolved_append : Resolved (first ++ second) inst name ↔
    Resolved first inst name ∨ Resolved second inst name := by
  simp only [Resolved, List.mem_append, exists_or]

/-- Where no name is looked for, none is found. -/
theorem not_resolved (h : (Answers.of events).functions = []) : ¬ Resolved events inst name := by
  rintro ⟨address, hm⟩
  rw [← Answers.mem_functions, h] at hm
  cases hm

/-- Calls look for nothing. -/
theorem functions_of_only {α : Type} {p : Program α} {a : α}
    (h : p.Only fun c => c.function?.isSome) (hruns : p.Runs events a) :
    (Answers.of events).functions = [] := by
  refine List.eq_nil_iff_forall_not_mem.2 fun ⟨⟨inst, name⟩, found⟩ hm => ?_
  have hcall := h.of_mem hruns (Answers.mem_functions.1 hm)
  simp [Command.function?] at hcall

namespace EntryTable

/-- What the resolution of a scope finds, and what it puts into a table if it ends well. -/
structure Resolution (table : EntryTable) (scope : EntryScope) (inst : InstanceHandle)
    (events : List Event) (r : Except Error EntryTable) : Prop where
  /-- Every name of the scope is looked for. -/
  asked : ∀ entry ∈ EntryPoint.ofScope scope,
    Resolved events inst entry.name ∨ .answered (.resolve inst entry.name) none ∈ events
  /-- Only names of the scope are found. -/
  listed : ∀ i name, Resolved events i name →
    i = inst ∧ name ∈ (EntryPoint.ofScope scope).map EntryPoint.name
  required : ∀ full, r = .ok full →
    ∀ entry ∈ EntryPoint.ofScope scope, entry.required → Resolved events inst entry.name
  contains : ∀ full, r = .ok full →
    ∀ name, full.contains name = true ↔ table.contains name = true ∨ Resolved events inst name

variable {table full : EntryTable} {scope : EntryScope} {findings : Findings}
  {r : Except Error EntryTable}

theorem mem_told {i : InstanceHandle} {found : Option Address} :
    ((i, name), found) ∈ told inst findings ↔
      i = inst ∧ ∃ entry, (entry, found) ∈ findings ∧ entry.name = name := by
  simp only [told, List.mem_map, Prod.mk.injEq, Prod.exists]
  constructor
  · rintro ⟨entry, _, hf, ⟨rfl, rfl⟩, rfl⟩
    exact ⟨rfl, entry, hf, rfl⟩
  · rintro ⟨rfl, entry, hf, rfl⟩
    exact ⟨entry, found, hf, ⟨rfl, rfl⟩, rfl⟩

theorem isSome_of_required (h : .ok full = completed (table.record findings))
    {f : EntryPoint × Option Address} (hf : f ∈ findings) (hrequired : f.1.required) :
    f.2.isSome := by
  rw [completed_record] at h
  split at h
  · next hnone =>
    rw [unresolved_eq, List.map_eq_nil_iff, List.filter_eq_nil_iff] at hnone
    simpa [hrequired, Option.isSome_iff_ne_none] using hnone f hf
  · cases h

theorem resolution_of_runs (h : (table.resolveWith scope inst).Runs events r) :
    Resolution table scope inst events r := by
  obtain ⟨findings, hentries, hr, htold⟩ := runs_resolveWith h
  have hmem (i : InstanceHandle) (name : String) (found : Option Address) :
      .answered (.resolve i name) found ∈ events ↔
        i = inst ∧ ∃ entry, (entry, found) ∈ findings ∧ entry.name = name := by
    rw [← Answers.mem_functions, htold, mem_told]
  have hfinding : ∀ entry ∈ EntryPoint.ofScope scope, ∃ found, (entry, found) ∈ findings := by
    intro entry hentry
    rw [← hentries] at hentry
    obtain ⟨⟨_, found⟩, hf, rfl⟩ := List.mem_map.1 hentry
    exact ⟨found, hf⟩
  constructor
  case asked =>
    intro entry hentry
    obtain ⟨found, hf⟩ := hfinding entry hentry
    have hanswer := (hmem inst entry.name found).2 ⟨rfl, entry, hf, rfl⟩
    cases found with
    | none => exact .inr hanswer
    | some address => exact .inl ⟨address, hanswer⟩
  case listed =>
    rintro i name ⟨address, hanswer⟩
    obtain ⟨rfl, entry, hf, rfl⟩ := (hmem i name _).1 hanswer
    rw [← hentries]
    exact ⟨rfl, List.mem_map_of_mem (List.mem_map_of_mem hf)⟩
  case required =>
    rintro full rfl entry hentry hrequired
    obtain ⟨found, hf⟩ := hfinding entry hentry
    obtain ⟨address, rfl⟩ := Option.isSome_iff_exists.1 (isSome_of_required hr hf hrequired)
    exact ⟨address, (hmem inst entry.name _).2 ⟨rfl, entry, hf, rfl⟩⟩
  case contains =>
    rintro full rfl name
    have hfound : name ∈ (findings.filter (·.2.isSome)).map (·.1.name) ↔
        Resolved events inst name := by
      simp only [List.mem_map, List.mem_filter, Resolved, hmem, true_and, Prod.exists]
      constructor
      · rintro ⟨entry, found, ⟨hf, hsome⟩, rfl⟩
        obtain ⟨address, rfl⟩ := Option.isSome_iff_exists.1 hsome
        exact ⟨address, entry, hf, rfl⟩
      · rintro ⟨address, entry, hf, rfl⟩
        exact ⟨entry, some address, ⟨hf, rfl⟩, rfl⟩
    rw [contains_of_record hr, hfound]

/-- Events that look for nothing may come before and after a resolution. -/
theorem Resolution.around (h : Resolution table scope inst events r)
    (hfirst : (Answers.of first).functions = []) (hsecond : (Answers.of second).functions = []) :
    Resolution table scope inst (first ++ (events ++ second)) r := by
  have hsame (i : InstanceHandle) (name : String) :
      Resolved (first ++ (events ++ second)) i name ↔ Resolved events i name := by
    simp [resolved_append, not_resolved hfirst, not_resolved hsecond]
  constructor
  case asked =>
    intro entry hentry
    rw [hsame]
    exact (h.asked entry hentry).imp_right fun hm => by simp [hm]
  case listed => simpa only [hsame] using h.listed
  case required => simpa only [hsame] using h.required
  case contains => simpa only [hsame] using h.contains

theorem Resolution.append_left (h : Resolution table scope inst events r)
    (hfirst : (Answers.of first).functions = []) :
    Resolution table scope inst (first ++ events) r := by
  simpa using h.around hfirst (show (Answers.of []).functions = [] from rfl)

theorem Resolution.append_right (h : Resolution table scope inst events r)
    (hsecond : (Answers.of second).functions = []) :
    Resolution table scope inst (events ++ second) r :=
  h.around (show (Answers.of []).functions = [] from rfl) hsecond

theorem contains_of_demand {names : List String} (h : table.demand names = .ok ()) :
    ∀ name ∈ names, table.contains name = true := by
  unfold demand at h
  split at h
  · next hnone => simpa [List.filter_eq_nil_iff] using hnone
  · cases h

end EntryTable

/-! ## Tables -/

/-- The handle with which the names of a scope are looked for. -/
def EntryScope.handle (inst : InstanceHandle) : EntryScope → InstanceHandle
  | .global => .null
  | .perInstance => inst

namespace EntryTable

/-- A table has every required name, and an optional one if and only if it was found. -/
def Complete (table : EntryTable) (events : List Event) (inst : InstanceHandle) : Prop :=
  ∀ entry ∈ EntryPoint.catalog, (entry.required → table.contains entry.name = true) ∧
    (table.contains entry.name = true ↔ Resolved events (entry.scope.handle inst) entry.name)

/-- The resolution of both scopes makes a table complete. -/
theorem complete_of_resolutions {table full : EntryTable}
    (hglobal : Resolution empty .global .null first (.ok table))
    (hinst : Resolution table .perInstance inst second (.ok full)) :
    full.Complete (first ++ second) inst := by
  intro entry hentry
  obtain ⟨name, scope, required⟩ := entry
  have hscope : ⟨name, scope, required⟩ ∈ EntryPoint.ofScope scope := by
    simp [EntryPoint.ofScope, hentry]
  have hname := List.mem_map_of_mem (f := EntryPoint.name) hscope
  have hcontains : full.contains name = true ↔
      Resolved first .null name ∨ Resolved second inst name := by
    rw [hinst.contains full rfl, hglobal.contains table rfl]
    simp [NameTable.contains, empty]
  -- A name belongs to one scope, so the other resolution says nothing about it.
  cases scope with
  | global =>
    have hfirst : ∀ i, ¬ Resolved second i name :=
      fun i hfound => scopes_disjoint name (hinst.listed i name hfound).2 hname
    constructor
    · intro hrequired
      exact hcontains.2 (.inl (hglobal.required table rfl _ hscope hrequired))
    · simp only [hcontains, resolved_append, EntryScope.handle, hfirst]
  | perInstance =>
    have hsecond : ∀ i, ¬ Resolved first i name :=
      fun i hfound => scopes_disjoint name hname (hglobal.listed i name hfound).2
    constructor
    · intro hrequired
      exact hcontains.2 (.inr (hinst.required full rfl _ hscope hrequired))
    · simp only [hcontains, resolved_append, EntryScope.handle, hsecond]

end EntryTable

section Stages

variable {config : Config} {table full : EntryTable} {sink : SinkId} {stamp : Nat}

/-! ## Resolutions -/

namespace EntryTable.Resolution

/-- After a resolution that ends well, required names of the scope were found. -/
theorem allResolved {scope : EntryScope} {names : List String}
    (h : Resolution table scope inst events (.ok full))
    (hnames : ∀ name ∈ names, ⟨name, scope, true⟩ ∈ EntryPoint.ofScope scope) :
    AllResolved events inst names :=
  fun name hname => h.required full rfl _ (hnames name hname) rfl

theorem allResolved_global (h : Resolution table .global .null events (.ok full)) :
    AllResolved events .null EntryPoint.globalNames :=
  h.allResolved fun name hname => by simp [EntryPoint.ofScope, EntryPoint.catalog, hname]

theorem allResolved_inst (h : Resolution table .perInstance inst events (.ok full)) :
    AllResolved events inst EntryPoint.instanceNames :=
  h.allResolved fun name hname => by simp [EntryPoint.ofScope, EntryPoint.catalog, hname]

/-- The first resolution leaves the names of the other scope alone. -/
theorem lacks (h : Resolution .empty .global .null events (.ok table)) :
    ∀ name ∈ EntryPoint.messengerNames, table.contains name = false := by
  intro name hname
  have hscope : name ∈ (EntryPoint.ofScope .perInstance).map EntryPoint.name := by
    refine List.mem_map.2 ⟨⟨name, .perInstance, false⟩, ?_, rfl⟩
    simp [EntryPoint.ofScope, EntryPoint.catalog, hname]
  rw [Bool.eq_false_iff, ne_eq, h.contains table rfl]
  rintro (hempty | hfound)
  · cases hempty
  · exact scopes_disjoint name hscope (h.listed .null name hfound).2

/-- The names that a table of both scopes has beyond the first one were found. -/
theorem allResolved_of_demand (h : Resolution table .perInstance inst events (.ok full))
    (hlacks : ∀ name ∈ EntryPoint.messengerNames, table.contains name = false)
    (hdemand : full.demand EntryPoint.messengerNames = .ok ()) :
    AllResolved events inst EntryPoint.messengerNames := by
  intro name hname
  have hhas := contains_of_demand hdemand name hname
  rw [h.contains full rfl, hlacks name hname] at hhas
  simpa using hhas

end EntryTable.Resolution

/-- Looking for names calls nothing. -/
theorem allCallable_resolveWith {scope : EntryScope} {r : Except Error EntryTable}
    (h : (table.resolveWith scope inst).Runs events r) : AllCallable past events :=
  allCallable_of_only (only_resolveWith fun _ => Command.callable_of_none rfl) h

/-! ## Instances -/

namespace Instance

variable {i j : Instance}

/-- Once its names were looked for, an instance may be destroyed. -/
theorem callable_destroy {r : Except Error EntryTable}
    (h : EntryTable.Resolution table .perInstance i.handle events r) :
    (Command.destroyInstance i.handle).Callable events := by
  intro name hname
  cases hname
  have hentry : ⟨"vkDestroyInstance", .perInstance, true⟩ ∈ EntryPoint.ofScope .perInstance := by
    decide +kernel
  refine ⟨_, (List.mem_filter.1 hentry).1, rfl, ?_⟩
  -- The resolution may have failed, and the name of this very function may be what it lacks.
  rcases h.asked _ hentry with hfound | hnone
  · exact .inl ⟨i.handle, .inl rfl, hfound⟩
  · exact .inr ⟨i.handle, rfl, hnone⟩

theorem Creation.callable {r : Except Error Instance} (h : Creation config events r)
    (hglobal : AllResolved past .null EntryPoint.globalNames) :
    AllCallable past events ∧ ∀ i, r = .ok i → i.callback = none := by
  have hcreate (request : InstanceSpec) : (Command.createInstance request).Callable past :=
    Command.callable_of_global hglobal ⟨_, by decide, rfl⟩
  cases h with
  | refused => exact ⟨trivial, nofun⟩
  | failed => exact ⟨⟨hcreate _, trivial⟩, nofun⟩
  | created =>
    refine ⟨⟨hcreate _, trivial, trivial⟩, ?_⟩
    rintro _ ⟨⟩
    rfl

theorem Creation.functions {r : Except Error Instance} (h : Creation config events r) :
    (Answers.of events).functions = [] := by
  cases h <;> rfl

theorem Registration.callable {r : Except Error Instance} (h : Registration i full sink events r)
    (hfound : full.demand EntryPoint.messengerNames = .ok () →
      AllResolved past i.handle EntryPoint.messengerNames) : AllCallable past events := by
  have hcreate (hdemand : full.demand EntryPoint.messengerNames = .ok ()) :
      (Command.createMessenger i.handle sink).Callable past :=
    Command.callable_of_inst (hfound hdemand) rfl ⟨_, by decide, rfl⟩
  cases h with
  | refused => exact trivial
  | failed hdemand => exact ⟨hcreate hdemand, trivial⟩
  | registered notes hdemand =>
    apply allCallable_of_forall
    simp [Event.Callable, hcreate hdemand]

theorem Registration.functions {r : Except Error Instance}
    (h : Registration i full sink events r) : (Answers.of events).functions = [] := by
  cases h <;> simp [Event.tells]

/-- An equipped instance has the handle that its names were looked for with. -/
theorem Equipment.resolution (h : Equipment i config table sink events (.ok (j, full))) :
    j.handle = i.handle ∧
      EntryTable.Resolution table .perInstance j.handle events (.ok full) := by
  refine ⟨h.handle_eq, ?_⟩
  rw [h.handle_eq]
  cases h with
  | silent hoff resolving => exact EntryTable.resolution_of_runs resolving
  | registered hon resolving registering =>
    exact (EntryTable.resolution_of_runs resolving).append_right registering.functions

/-- What is called to equip an instance was found, and so was what an equipped one calls. One that
could not be equipped may be destroyed. -/
theorem Equipment.callable (past : List Event) {r : Except Error (Instance × EntryTable)}
    (h : Equipment i config table sink events r) (hcallback : i.callback = none)
    (hlacks : ∀ name ∈ EntryPoint.messengerNames, table.contains name = false) :
    AllCallable past events ∧ (Command.destroyInstance i.handle).Callable (past ++ events) ∧
      ∀ j full, r = .ok (j, full) → j.Ready (past ++ events) := by
  have hdestroy {first : List Event} {r : Except Error EntryTable}
      (resolving : (table.resolveWith .perInstance i.handle).Runs first r)
      (hle : first ⊆ past ++ events) :
      (Command.destroyInstance i.handle).Callable (past ++ events) :=
    (callable_destroy (EntryTable.resolution_of_runs resolving)).mono hle
  have hmessenger {first : List Event} {full : EntryTable}
      (resolving : (table.resolveWith .perInstance i.handle).Runs first (.ok full))
      (hdemand : full.demand EntryPoint.messengerNames = .ok ()) :
      AllResolved (past ++ first) i.handle EntryPoint.messengerNames :=
    ((EntryTable.resolution_of_runs resolving).allResolved_of_demand hlacks hdemand).mono
      (List.subset_append_right past first)
  cases h with
  | unresolved resolving =>
    exact ⟨allCallable_resolveWith resolving, hdestroy resolving (by simp), nofun⟩
  | silent hoff resolving =>
    refine ⟨allCallable_resolveWith resolving, hdestroy resolving (by simp), ?_⟩
    rintro _ full ⟨⟩
    constructor
    · exact (EntryTable.resolution_of_runs resolving).allResolved_inst.mono (by simp)
    · simp [hcallback]
  | unregistered hon resolving registering =>
    refine ⟨allCallable_append.2 ⟨allCallable_resolveWith resolving, ?_⟩,
      hdestroy resolving (by simp), nofun⟩
    exact registering.callable (hmessenger resolving)
  | @registered first second full j hon resolving registering =>
    refine ⟨allCallable_append.2 ⟨allCallable_resolveWith resolving, ?_⟩,
      hdestroy resolving (by simp), ?_⟩
    · exact registering.callable (hmessenger resolving)
    · rintro _ full ⟨⟩
      cases registering with
      | registered notes hdemand =>
        constructor
        · exact (EntryTable.resolution_of_runs resolving).allResolved_inst.mono (by simp)
        · intro _
          exact (hmessenger resolving hdemand).mono (by simp [← List.append_assoc])

/-- What validation needs is asked of global functions. -/
theorem only_checkSupport_callable (hglobal : AllResolved past .null EntryPoint.globalNames) :
    (checkSupport config).Only (Command.Callable past) :=
  only_checkSupport (Command.callable_of_global hglobal ⟨_, by decide, rfl⟩)
    fun _ => Command.callable_of_global hglobal ⟨_, by decide, rfl⟩

/-- What is called to establish an instance was found, but for the release of an instance whose own
name for it was not. -/
theorem Course.callable {r : Except Error (Instance × EntryTable)}
    (h : Course config table sink events r)
    (hglobal : AllResolved past .null EntryPoint.globalNames)
    (hlacks : ∀ name ∈ EntryPoint.messengerNames, table.contains name = false) :
    AllCallable past events ∧ ∀ j full, r = .ok (j, full) → j.Ready (past ++ events) := by
  cases h with
  | unsupported checking =>
    exact ⟨allCallable_of_only (only_checkSupport_callable hglobal) checking, nofun⟩
  | uncreated checking creating =>
    refine ⟨allCallable_append.2 ⟨?_, ?_⟩, nofun⟩
    · exact allCallable_of_only (only_checkSupport_callable hglobal) checking
    · exact (creating.callable (hglobal.mono (by simp))).1
  | @unequipped first second third i e checking creating equipping =>
    -- The instance is not ready, but it has no messenger yet.
    obtain ⟨hcreating, hnone⟩ :=
      creating.callable (hglobal.mono (List.subset_append_left past first))
    obtain ⟨hequipping, hdestroy, -⟩ :=
      equipping.callable (past ++ first ++ second) (hnone i rfl) hlacks
    refine ⟨allCallable_append.2 ⟨?_, allCallable_append.2 ⟨hcreating,
      allCallable_append.2 ⟨hequipping, ?_⟩⟩⟩, nofun⟩
    · exact allCallable_of_only (only_checkSupport_callable hglobal) checking
    · refine allCallable_of_only (only_instance_close hdestroy ?_) (runs_closing i)
      simp [hnone i rfl]
  | @established first second third i j full checking creating equipping =>
    obtain ⟨hcreating, hnone⟩ :=
      creating.callable (hglobal.mono (List.subset_append_left past first))
    obtain ⟨hequipping, -, hready⟩ :=
      equipping.callable (past ++ first ++ second) (hnone i rfl) hlacks
    refine ⟨allCallable_append.2 ⟨?_, allCallable_append.2 ⟨hcreating, hequipping⟩⟩, ?_⟩
    · exact allCallable_of_only (only_checkSupport_callable hglobal) checking
    · rintro _ _ ⟨⟩
      simpa using hready j full rfl

/-- The functions of an instance that is there were looked for when it was established. -/
theorem Course.resolution (h : Course config table sink events (.ok (j, full))) :
    EntryTable.Resolution table .perInstance j.handle events (.ok full) := by
  cases h with
  | established checking creating equipping =>
    have hchecking := functions_of_only (only_checkSupport rfl fun _ => rfl) checking
    exact (equipping.resolution.2.append_left creating.functions).append_left hchecking

end Instance

/-! ## Devices -/

section Device

variable {physical : PhysicalDeviceHandle} (hinst : AllResolved past inst EntryPoint.instanceNames)
include hinst

theorem DeviceCreation.callable {family : UInt32} {capabilities : List Capability}
    {extensions : List String} {r : Except Error (DeviceHandle × QueueHandle)}
    (h : DeviceCreation inst physical family capabilities extensions events r) :
    AllCallable past events ∧
      ∀ device queue, r = .ok (device, queue) → BelongsTo (past ++ events) device inst := by
  have hcreate (request : DeviceSpec) :
      (Command.createDevice inst physical request).Callable past :=
    Command.callable_of_inst hinst rfl ⟨_, by decide, rfl⟩
  have hnext (request : DeviceSpec) (device : DeviceHandle) (c : Command)
      (hc : c.device? = some device) :
      c.Callable (past ++ [.answered (.createDevice inst physical request) (.ok device)]) :=
    Command.callable_of_device (hinst.mono (by simp)) (.inl ⟨physical, request, by simp⟩) hc
  cases h with
  | refused => exact ⟨trivial, nofun⟩
  | failed => exact ⟨⟨hcreate _, trivial⟩, nofun⟩
  | queueless =>
    refine ⟨⟨hcreate _, allCallable_of_forall ?_⟩, nofun⟩
    simp only [List.mem_cons, List.not_mem_nil, or_false, forall_eq_or_imp, forall_eq]
    exact ⟨hnext _ _ _ rfl, hnext _ _ _ rfl⟩
  | @created request device queue =>
    refine ⟨⟨hcreate _, hnext _ _ _ rfl, trivial⟩, ?_⟩
    rintro _ _ ⟨⟩
    exact .inl ⟨physical, request, by simp⟩

theorem only_choose_callable {capabilities : List Capability} {extensions : List String} :
    (Candidate.choose inst capabilities extensions).Only (Command.Callable past) := by
  apply only_choose
  · exact Command.callable_of_inst hinst rfl ⟨_, by decide, rfl⟩
  · exact fun _ => Command.callable_of_inst hinst rfl ⟨_, by decide, rfl⟩
  · exact fun _ => Command.callable_of_inst hinst rfl ⟨_, by decide, rfl⟩
  · exact fun _ => Command.callable_of_inst hinst rfl ⟨_, by decide, rfl⟩

theorem only_around_callable {entries : EntryTable} {device : Device} {queue : QueueHandle}
    {family : UInt32} :
    (Context.around config entries device inst physical queue family).Only
      (Command.Callable past) := by
  apply only_around
  · exact Command.callable_of_inst hinst rfl ⟨_, by decide, rfl⟩
  · exact Command.callable_of_inst hinst rfl ⟨_, by decide, rfl⟩

theorem Context.Negotiation.callable {r : Except Error (Choice × DeviceHandle × QueueHandle)}
    (h : Negotiation config inst events r) :
    AllCallable past events ∧ ∀ choice device queue, r = .ok (choice, device, queue) →
      BelongsTo (past ++ events) device inst := by
  cases h with
  | unchosen choosing =>
    exact ⟨allCallable_of_only (only_choose_callable hinst) choosing, nofun⟩
  | uncreated choosing creating =>
    refine ⟨allCallable_append.2 ⟨?_, ?_⟩, nofun⟩
    · exact allCallable_of_only (only_choose_callable hinst) choosing
    · exact (creating.callable (hinst.mono (by simp))).1
  | @created first second choice device queue choosing creating =>
    obtain ⟨hcreating, hbelongs⟩ :=
      creating.callable (hinst.mono (List.subset_append_left past first))
    refine ⟨allCallable_append.2 ⟨?_, hcreating⟩, ?_⟩
    · exact allCallable_of_only (only_choose_callable hinst) choosing
    · rintro _ _ _ ⟨⟩
      simpa using hbelongs device queue rfl

end Device

/-! ## Contexts -/

namespace Context

variable {c : Context}

theorem Negotiation.functions {r : Except Error (Choice × DeviceHandle × QueueHandle)}
    (h : Negotiation config inst events r) : (Answers.of events).functions = [] := by
  have hchoose {first : List Event} {chosen : Except Error Choice}
      (hrun : (Candidate.choose inst config.capabilities config.extensions).Runs first chosen) :
      (Answers.of first).functions = [] :=
    functions_of_only (only_choose rfl (fun _ => rfl) (fun _ => rfl) fun _ => rfl) hrun
  cases h with
  | unchosen choosing => exact hchoose choosing
  | uncreated choosing creating =>
    rw [Answers.of_append, Answers.append_def, hchoose choosing]
    cases creating <;> rfl
  | created choosing creating =>
    rw [Answers.of_append, Answers.append_def, hchoose choosing]
    cases creating
    rfl

/-- What is called to establish a context was found, but for the release of an instance whose own
name for it was not. What the device of the context needs was found. -/
theorem Course.callable {r : Except Error Context} (h : Course config sink stamp events r) :
    AllCallable past events ∧ ∀ c, r = .ok c → c.device.Ready (past ++ events) := by
  have hglobal {first : List Event} {table : EntryTable}
      (resolving : (EntryTable.empty.resolveWith .global .null).Runs first (.ok table)) :
      AllResolved (past ++ first) .null EntryPoint.globalNames :=
    (EntryTable.resolution_of_runs resolving).allResolved_global.mono (by simp)
  cases h with
  | unresolved resolving => exact ⟨allCallable_resolveWith resolving, nofun⟩
  | uninstanced resolving establishing =>
    refine ⟨allCallable_append.2 ⟨allCallable_resolveWith resolving, ?_⟩, nofun⟩
    exact (establishing.callable (hglobal resolving)
      (EntryTable.resolution_of_runs resolving).lacks).1
  | @undeviced first second third table entries i e resolving establishing negotiating =>
    obtain ⟨hestablishing, hready⟩ := establishing.callable (hglobal resolving)
      (EntryTable.resolution_of_runs resolving).lacks
    have hready := hready i entries rfl
    refine ⟨allCallable_append.2 ⟨allCallable_resolveWith resolving, allCallable_append.2
      ⟨hestablishing, allCallable_append.2 ⟨?_, ?_⟩⟩⟩, nofun⟩
    · exact (negotiating.callable hready.required).1
    · exact allCallable_of_only (hready.mono (by grind)).only_close (Instance.runs_closing i)
  | @established first second third fourth table entries i choice device queue context record
      resolving establishing negotiating describing =>
    obtain ⟨hestablishing, hready⟩ := establishing.callable (hglobal resolving)
      (EntryTable.resolution_of_runs resolving).lacks
    have hready := hready i entries rfl
    obtain ⟨hnegotiating, hbelongs⟩ := negotiating.callable hready.required
    constructor
    · refine allCallable_append.2 ⟨allCallable_resolveWith resolving, allCallable_append.2
        ⟨hestablishing, allCallable_append.2 ⟨hnegotiating, allCallable_append.2
          ⟨?_, trivial, trivial⟩⟩⟩⟩
      exact allCallable_of_only (only_around_callable (hready.required.mono (by grind))) describing
    · rintro _ ⟨⟩
      rw [runs_around describing]
      constructor
      · exact ⟨i.handle, (hbelongs choice device queue rfl).mono (by grind),
          hready.required.mono (by grind)⟩
      · rintro _ ⟨⟩
        exact hready.mono (by grind)

/-- The table of an established context has what it needs, and else what was found. -/
theorem Course.complete (h : Course config sink stamp events (.ok c)) :
    c.entries.Complete events c.instanceHandle := by
  cases h with
  | @established first second third fourth table entries i choice device queue _ record
      resolving establishing negotiating describing =>
    obtain ⟨hinstance, hentries⟩ := entries_of_around describing
    rw [hinstance, hentries]
    have hdescribing : (Answers.of fourth).functions = [] :=
      functions_of_only (only_around rfl rfl) describing
    have hrest : (Answers.of (third ++ (fourth ++ [.noted (.log record)]))).functions = [] := by
      simp [Answers.append_def, negotiating.functions, hdescribing]
    exact EntryTable.complete_of_resolutions (EntryTable.resolution_of_runs resolving)
      (establishing.resolution.append_right hrest)

/-! ### Adoptions -/

variable {host : HostHandles}

/-- Both scopes are resolved one after the other. -/
theorem resolutions_of_runs {entries : EntryTable}
    (h : (resolveAll inst).Runs events (.ok entries)) :
    ∃ first second table, events = first ++ second ∧
      EntryTable.Resolution .empty .global .null first (.ok table) ∧
      EntryTable.Resolution table .perInstance inst second (.ok entries) := by
  rcases runs_except_bind h with
    ⟨first, _, e, rfl, hfirst, hend⟩ | ⟨first, second, table, rfl, hfirst, hsecond⟩
  · cases (runs_pure_iff.1 hend).2
  · exact ⟨first, second, table, rfl, EntryTable.resolution_of_runs hfirst,
      EntryTable.resolution_of_runs hsecond⟩

theorem allCallable_resolveAll {r : Except Error EntryTable} (h : (resolveAll inst).Runs events r) :
    AllCallable past events := by
  have hany : ∀ i name, (Command.resolve i name).Callable past :=
    fun _ _ => Command.callable_of_none rfl
  refine allCallable_of_only ((only_resolveWith (hany _)).bind fun resolved => ?_) h
  cases resolved with
  | error e => trivial
  | ok table => exact only_resolveWith (hany _)

/-- What is called to adopt a context was found, and so was what the device of the context needs. -/
theorem Adoption.callable {r : Except Error Context} (h : Adoption host config stamp events r) :
    AllCallable past events ∧ ∀ c, r = .ok c → c.device.Ready (past ++ events) := by
  cases h with
  | refused resolving => exact ⟨allCallable_resolveAll resolving, nofun⟩
  | @adopted first second entries context record resolving describing =>
    obtain ⟨globals, names, table, rfl, -, hresolution⟩ := resolutions_of_runs resolving
    have hfound := hresolution.allResolved_inst
    constructor
    · refine allCallable_append.2 ⟨allCallable_resolveAll resolving, allCallable_append.2
        ⟨⟨Command.callable_of_none rfl, Command.callable_of_none rfl, trivial⟩,
          allCallable_append.2 ⟨?_, trivial, trivial⟩⟩⟩
      exact allCallable_of_only (only_around_callable (hfound.mono (by grind))) describing
    · rintro _ ⟨⟩
      rw [runs_around describing]
      exact ⟨⟨host.inst, .inr (by simp), hfound.mono (by grind)⟩, nofun⟩

/-- The table of an adopted context has what it needs, and else what was found. -/
theorem Adoption.complete (h : Adoption host config stamp events (.ok c)) :
    c.entries.Complete events c.instanceHandle := by
  cases h with
  | @adopted first second entries _ record resolving describing =>
    obtain ⟨globals, names, table, rfl, hglobal, hinst⟩ := resolutions_of_runs resolving
    obtain ⟨hinstance, hentries⟩ := entries_of_around describing
    rw [hinstance, hentries, List.append_assoc]
    apply EntryTable.complete_of_resolutions hglobal
    apply hinst.append_right
    have hdescribing : (Answers.of second).functions = [] :=
      functions_of_only (only_around rfl rfl) describing
    simp [Answers.append_def, Event.tells, hdescribing]

end Context

end Stages

end VulkanExec
