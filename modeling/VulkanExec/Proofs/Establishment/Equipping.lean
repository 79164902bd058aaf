import VulkanExec.Proofs.Establishment.Conditions

/-!
# What decides an instance

The stages up to an instance with all that belongs to it: its entry points, the layers that
validation needs, its creation and its messenger. Each asks its own questions and is decided by its
own conditions.

The main statements, one for each stage, are `decided_global`, `decided_support`, `decided_create`
and `decided_equip`.
-/

namespace VulkanExec

open Program

variable {config : Config} {sink : SinkId} {events : List Event} {a : Answers}

/-! ## Entry points -/

namespace EntryTable

variable {inst : InstanceHandle} {findings globals : Findings} {names : List String}
  {table full : EntryTable}

/-- The check of required names is the decision of a resolution. -/
theorem checkFound_eq
    (hlookup : ∀ f ∈ findings, a.functions.lookup (inst, f.1.name) = some f.2)
    (hnames : names = (findings.filter (·.1.required)).map (·.1.name)) :
    a.checkFound names inst = .noneMissing .missingEntryPoints (unresolved findings) := by
  subst hnames
  have hasked : ((findings.filter (·.1.required)).map (·.1.name)).any
      (fun name => a.functions.lookup (inst, name) = none) = false := by
    simp only [List.any_eq_false, List.mem_map, List.mem_filter]
    rintro _ ⟨f, ⟨hf, -⟩, rfl⟩
    simp [hlookup f hf]
  rw [Answers.checkFound, hasked, if_neg Bool.false_ne_true, unresolved_eq, List.filter_map,
    List.filter_filter]
  congr 2
  refine List.filter_congr fun f hf => ?_
  have hf := hlookup f hf
  obtain ⟨entry, found⟩ := f
  cases found <;> simp [hf]

theorem of_record {r : Except Error EntryTable} (h : r = completed (table.record findings)) :
    Check.of r = .noneMissing .missingEntryPoints (unresolved findings) := by
  rw [h, completed_record]
  cases unresolved findings <;> rfl

theorem required_eq {scope : EntryScope} (h : findings.map Prod.fst = EntryPoint.ofScope scope) :
    (findings.filter (·.1.required)).map (·.1.name) =
      ((EntryPoint.ofScope scope).filter (·.required)).map EntryPoint.name := by
  rw [← h, List.filter_map, List.map_map]
  rfl

/-- The names of one scope are asked for after those of the other. -/
structure Resolutions (a : Answers) (inst : InstanceHandle) (globals findings : Findings) :
    Prop where
  globals_eq : globals.map Prod.fst = EntryPoint.ofScope .global
  findings_eq : findings.map Prod.fst = EntryPoint.ofScope .perInstance
  functions : a.functions = told .null globals ++ told inst findings

theorem Resolutions.lookup (h : Resolutions a inst globals findings)
    {f : EntryPoint × Option Address} (hf : f ∈ findings) :
    a.functions.lookup (inst, f.1.name) = some f.2 := by
  have hnodup : (findings.map (·.1.name)).Nodup := names_eq h.findings_eq ▸ nodup_names _
  have hname : f.1.name ∉ globals.map (·.1.name) := by
    rw [names_eq h.globals_eq]
    apply scopes_disjoint
    rw [← names_eq h.findings_eq]
    exact List.mem_map_of_mem hf
  simp [h.functions, List.lookup_append, lookup_told hnodup hf, lookup_told_of_notMem hname]

/-- The check of optional names is that of the table. -/
theorem Resolutions.checkFound_eq_demand (h : Resolutions a inst globals findings)
    (htable : .ok table = completed (empty.record globals))
    (hfull : .ok full = completed (table.record findings))
    (hnames : ∀ name ∈ names, name ∈ (EntryPoint.ofScope .perInstance).map EntryPoint.name) :
    a.checkFound names inst = Check.of (full.demand names) := by
  have hnodup : (findings.map (·.1.name)).Nodup := names_eq h.findings_eq ▸ nodup_names _
  have hfound : ∀ name ∈ names, ∃ found, a.functions.lookup (inst, name) = some found ∧
      full.contains name = found.isSome := by
    intro name hname
    have hscope := hnames name hname
    have hglobal := scopes_disjoint name hscope
    rw [← names_eq h.findings_eq] at hscope
    obtain ⟨f, hf, rfl⟩ := List.mem_map.1 hscope
    refine ⟨f.2, h.lookup hf, contains_iff_found hfull hnodup hf ?_⟩
    rw [← names_eq h.globals_eq] at hglobal
    rw [Bool.eq_false_iff, ne_eq, contains_of_record htable]
    rintro (hempty | hfound)
    · cases hempty
    · obtain ⟨g, hg, hname⟩ := List.mem_map.1 hfound
      exact hglobal (hname ▸ List.mem_map_of_mem (List.mem_filter.1 hg).1)
  have hasked : (names.any fun name => a.functions.lookup (inst, name) = none) = false := by
    simp only [List.any_eq_false]
    intro name hname
    obtain ⟨found, hlookup, -⟩ := hfound name hname
    simp [hlookup]
  have hmissing : (names.filter fun name => a.functions.lookup (inst, name) = some none) =
      names.filter (!full.contains ·) := by
    refine List.filter_congr fun name hname => ?_
    obtain ⟨found, hlookup, hcontains⟩ := hfound name hname
    cases found <;> simp [hlookup, hcontains]
  rw [Answers.checkFound, hasked, if_neg Bool.false_ne_true, hmissing, demand]
  cases names.filter (!full.contains ·) <;> rfl

/-- The global names are found before there is an instance. -/
theorem decided_global {r : Except Error EntryTable}
    (h : findings.map Prod.fst = EntryPoint.ofScope .global)
    (hr : r = completed (table.record findings))
    (ha : ∃ later, a.functions = told .null findings ++ later) :
    Decided config sink a [.globalFunctions] r := by
  obtain ⟨later, ha⟩ := ha
  have hnodup : (findings.map (·.1.name)).Nodup := names_eq h ▸ nodup_names _
  have hlookup : ∀ f ∈ findings, a.functions.lookup (.null, f.1.name) = some f.2 := by
    intro f hf
    simp [ha, List.lookup_append, lookup_told hnodup hf]
  have hcheck : a.checkFound EntryPoint.globalNames .null =
      .noneMissing .missingEntryPoints (unresolved findings) :=
    checkFound_eq hlookup (required_eq h).symm
  rw [← of_record hr] at hcheck
  exact (congrArg (fun check => Check.first [check]) hcheck).trans (Check.first_singleton _)

end EntryTable

/-! ## Layers -/

theorem checkOffered_cons {extension layer : String} {layers available : List String}
    {asked : List (Option String × Reply (List String))}
    (h : decides extension (.ok available) = false) :
    checkOffered extension (layer :: layers) ((some layer, .ok available) :: asked) =
      checkOffered extension layers asked := by
  simp [checkOffered, h]

/-- The layers are asked in order, up to the first that decides. -/
theorem runs_findDiagnosticExtension {extension : String} {layers : List String}
    {r : Except Error Unit} (h : (findDiagnosticExtension extension layers).Runs events r) :
    ∃ asked, Answers.of events = { layerExtensions := asked } ∧
      checkOffered extension layers asked = Check.of r := by
  induction layers generalizing events with
  | nil =>
    obtain ⟨rfl, rfl⟩ := runs_pure_iff.1 h
    exact ⟨[], rfl, rfl⟩
  | cons layer layers ih =>
    obtain ⟨answer, rest, rfl, hrest⟩ := runs_ask_iff.1 h
    cases answer with
    | error code =>
      obtain ⟨rfl, rfl⟩ := runs_pure_iff.1 hrest
      refine ⟨[(some layer, .error code)], rfl, ?_⟩
      simp [checkOffered, decides, Check.of]
    | ok available =>
      dsimp only at hrest
      split at hrest
      · next hoffers =>
        obtain ⟨_, rfl, hend⟩ := runs_log_iff.1 hrest
        obtain ⟨rfl, rfl⟩ := runs_pure_iff.1 hend
        refine ⟨[(some layer, .ok available)], rfl, ?_⟩
        have hdecides : decides extension (.ok available) = true := hoffers
        simp [checkOffered, Check.of, hdecides]
      · next hoffers =>
        obtain ⟨asked, hasked, hcheck⟩ := ih hrest
        have hdecides : decides extension (.ok available) = false := Bool.eq_false_iff.2 hoffers
        refine ⟨(some layer, .ok available) :: asked, by rw [Answers.of_cons, hasked]; rfl, ?_⟩
        rw [checkOffered_cons hdecides, hcheck]

theorem runs_checkLayers {r : Except Error Unit} (h : (checkLayers config).Runs events r) :
    ∃ layers, Answers.of events = { layers } ∧
      (a.layers = layers → Decided config sink a [.layersListed, .layersThere] r) := by
  obtain ⟨answer, rest, rfl, hrest⟩ := runs_ask_iff.1 h
  cases answer with
  | error code =>
    obtain ⟨rfl, rfl⟩ := runs_pure_iff.1 hrest
    refine ⟨[.error code], rfl, ?_⟩
    intro ha
    simp [Decided, Condition.check, ha, Check.succeeds, Check.of]
  | ok available =>
    have hend : rest = [] ∧ Check.of r = .noneMissing .missingLayers
        (config.layers.filter fun layer => !available.contains layer) := by
      have hsame : config.layers.filter (!offers available ·) =
          config.layers.filter fun layer => !available.contains layer := rfl
      rw [← hsame]
      cases hmissing : config.layers.filter (!offers available ·) with
      | nil =>
        simp only [hmissing] at hrest
        obtain ⟨rfl, rfl⟩ := runs_pure_iff.1 hrest
        exact ⟨rfl, rfl⟩
      | cons layer layers =>
        simp only [hmissing] at hrest
        obtain ⟨rfl, rfl⟩ := runs_pure_iff.1 hrest
        exact ⟨rfl, rfl⟩
    obtain ⟨rfl, hr⟩ := hend
    refine ⟨[.ok available], rfl, ?_⟩
    intro ha
    simp [Decided, Condition.check, ha, Check.succeeds, hr]

/-- What validation needs from the layers is checked before there is an instance. -/
theorem decided_support {r : Except Error Unit}
    (h : (Instance.checkSupport config).Runs events r) :
    ∃ layers layerExtensions, Answers.of events = { layers, layerExtensions } ∧
      (a.layers = layers → a.layerExtensions = layerExtensions →
        Decided config sink a (config.validating
          [.layersListed, .layersThere, .layerNames, .extensionOffered]) r) := by
  unfold Instance.checkSupport at h
  split at h
  · next hon =>
    rw [Config.validating, if_pos hon]
    rcases runs_except_bind h with
      ⟨first, _, e, rfl, hfirst, hend⟩ | ⟨first, second, _, rfl, hfirst, hsecond⟩
    · obtain ⟨rfl, rfl⟩ := runs_pure_iff.1 hend
      obtain ⟨layers, htold, hdecided⟩ := runs_checkLayers (a := a) hfirst
      refine ⟨layers, [], by simp [htold], ?_⟩
      intro ha _
      exact (hdecided ha).of_error [.layerNames, .extensionOffered]
    · obtain ⟨layers, htold, hdecided⟩ := runs_checkLayers (a := a) hfirst
      obtain ⟨asked, hasked, hnames⟩ : ∃ asked, Answers.of second = { layerExtensions := asked } ∧
          (a.layerExtensions = asked →
            Decided config sink a [.layerNames, .extensionOffered] r) := by
        change (checkDiagnosticExtension config).Runs second r at hsecond
        unfold checkDiagnosticExtension at hsecond
        have hplain := Check.noNul_eq "validation_layers" config.layers
        split at hsecond
        · next e hnul =>
          obtain ⟨rfl, rfl⟩ := runs_pure_iff.1 hsecond
          refine ⟨[], rfl, ?_⟩
          intro _
          rw [hnul] at hplain
          simp [Decided, Condition.check, hplain, Check.of]
        · next hnul =>
          obtain ⟨asked, hasked, hcheck⟩ := runs_findDiagnosticExtension hsecond
          refine ⟨asked, hasked, ?_⟩
          intro ha
          rw [hnul] at hplain
          simp [Decided, Condition.check, hplain, ha, hcheck, Check.of]
      refine ⟨layers, asked, by simp [htold, hasked, Answers.append_def], ?_⟩
      intro ha ha'
      exact (hdecided ha).of_ok (hnames ha')
  · next hoff =>
    obtain ⟨rfl, rfl⟩ := runs_pure_iff.1 h
    refine ⟨[], [], rfl, ?_⟩
    intro _ _
    rw [Config.validating, if_neg hoff]
    exact decided_nil

/-! ## Instances -/

@[simp] theorem driverNames_nil (key : String) : driverNames key [] = .ok () := rfl

/-- The names of the layers were checked before, so the request for an instance is refused for the
name of the extension or of the application. -/
theorem decided_instanceSpec
    (hlayers : config.validation = true → driverNames "validation_layers" config.layers = .ok ()) :
    Decided config sink a (config.validating [.extensionName] ++ [.appName])
      config.instanceSpec := by
  have hextension := Check.noNul_eq "diagnostic_extension" [config.diagnosticExtension]
  have happ := Check.noNul_eq "app_name" [config.appName]
  unfold Decided Config.validating Config.instanceSpec
  cases hon : config.validation with
  | false =>
    cases hname : driverNames "app_name" [config.appName] <;>
      simp [Condition.check, happ, hname, Check.of, bind, Except.bind, pure, Except.pure]
  | true =>
    cases hname : driverNames "diagnostic_extension" [config.diagnosticExtension] with
    | error e =>
      simp [Condition.check, hextension, hname, hlayers hon, Check.of, bind, Except.bind]
    | ok =>
      cases hname' : driverNames "app_name" [config.appName] <;>
        simp [Condition.check, hextension, happ, hname, hname', hlayers hon, Check.of, bind,
          Except.bind, pure, Except.pure]

/-- The request for an instance that can be made is the one that is wanted. -/
theorem eq_wantedInstance {request : InstanceSpec} (h : config.instanceSpec = .ok request) :
    request = config.wantedInstance := by
  simp only [Config.instanceSpec, bind, Except.bind, pure, Except.pure] at h
  split at h
  · cases h
  · split at h
    · cases h
    · split at h <;> cases h
      rfl

/-- A request for an instance is answered once. -/
theorem decided_create {r : Except Error Instance} (h : Instance.Creation config events r) :
    ∃ instances, Answers.of events = { instances } ∧
      (∀ i, r = .ok i → instances = [(config.wantedInstance, .ok i.handle)]) ∧
      (a.instances = instances →
        (config.validation = true → driverNames "validation_layers" config.layers = .ok ()) →
        Decided config sink a
          (config.validating [.extensionName] ++ [.appName, .instanceCreated]) r) := by
  have hspec : (config.validation = true → driverNames "validation_layers" config.layers = .ok ()) →
      Decided config sink a (config.validating [.extensionName] ++ [.appName])
        config.instanceSpec :=
    decided_instanceSpec
  have hsplit : config.validating [.extensionName] ++ [.appName, .instanceCreated] =
      config.validating [.extensionName] ++ [.appName] ++ [.instanceCreated] := by simp
  rw [hsplit]
  cases h with
  | refused hrefused =>
    rw [hrefused] at hspec
    exact ⟨[], rfl, by simp, fun _ hlayers => (hspec hlayers).of_error _⟩
  | @failed request code hrequest =>
    rw [hrequest] at hspec
    obtain rfl := eq_wantedInstance hrequest
    refine ⟨[(_, .error code)], rfl, by simp, ?_⟩
    intro ha hlayers
    apply (hspec hlayers).of_ok
    simp [Decided, Condition.check, ha, Check.succeeds, Check.of]
  | @created request handle record hrequest =>
    rw [hrequest] at hspec
    obtain rfl := eq_wantedInstance hrequest
    refine ⟨[(_, .ok handle)], rfl, by simp, ?_⟩
    intro ha hlayers
    apply (hspec hlayers).of_ok
    simp [Decided, Condition.check, ha, Check.succeeds, Check.of]

/-- The required names are found with the new instance. -/
theorem decided_instanceFunctions {inst : InstanceHandle} {table : EntryTable}
    {globals findings : EntryTable.Findings} {r : Except Error EntryTable}
    (h : EntryTable.Resolutions a inst globals findings)
    (hr : r = EntryTable.completed (table.record findings))
    (ha : a.Created config inst) : Decided config sink a [.instanceFunctions] r := by
  have hcheck : a.checkFound EntryPoint.instanceNames inst =
      .noneMissing .missingEntryPoints (EntryTable.unresolved findings) :=
    EntryTable.checkFound_eq (fun f hf => h.lookup hf)
      (EntryTable.required_eq h.findings_eq).symm
  simp [Decided, Condition.check, ha.onInstance_eq, hcheck, EntryTable.of_record hr]

/-- Both functions of messengers are found with the new instance, and then a messenger is asked
for. -/
theorem decided_registerSink {i : Instance} {table full : EntryTable}
    {globals findings : EntryTable.Findings} {r : Except Error Instance}
    (h : Instance.Registration i full sink events r)
    (htable : .ok table = EntryTable.completed (EntryTable.empty.record globals))
    (hfull : .ok full = EntryTable.completed (table.record findings)) :
    ∃ messengers, Answers.of events = { messengers } ∧
      (EntryTable.Resolutions a i.handle globals findings → a.Created config i.handle →
        a.messengers = messengers →
        Decided config sink a [.messengerFunctions, .messengerCreated] r) := by
  have hdemand : EntryTable.Resolutions a i.handle globals findings → a.Created config i.handle →
      Decided config sink a [.messengerFunctions] (full.demand EntryPoint.messengerNames) := by
    intro hres ha
    have hcheck : a.checkFound EntryPoint.messengerNames i.handle =
        Check.of (full.demand EntryPoint.messengerNames) :=
      hres.checkFound_eq_demand htable hfull (by decide +kernel)
    simp [Decided, Condition.check, ha.onInstance_eq, hcheck]
  cases h with
  | refused hrefused =>
    rw [hrefused] at hdemand
    exact ⟨[], rfl, fun hres ha _ => (hdemand hres ha).of_error [.messengerCreated]⟩
  | @failed code haccepted =>
    rw [haccepted] at hdemand
    refine ⟨[((i.handle, sink), .error code)], rfl, ?_⟩
    intro hres ha hmessengers
    apply (hdemand hres ha).of_ok
    simp [Decided, Condition.check, ha.onInstance_eq, hmessengers, Check.succeeds, Check.of]
  | @registered messenger notes haccepted =>
    rw [haccepted] at hdemand
    refine ⟨[((i.handle, sink), .ok messenger)], by simp [Event.tells], ?_⟩
    intro hres ha hmessengers
    apply (hdemand hres ha).of_ok
    simp [Decided, Condition.check, ha.onInstance_eq, hmessengers, Check.succeeds, Check.of]

/-- With its entry points, a new instance is asked for a messenger. -/
theorem decided_register {i : Instance} {table full : EntryTable} {globals : EntryTable.Findings}
    {first second : List Event} {r : Except Error Instance}
    (hon : config.validation = true)
    (resolving : (table.resolveWith .perInstance i.handle).Runs first (.ok full))
    (registering : Instance.Registration i full sink second r)
    (hglobals : globals.map Prod.fst = EntryPoint.ofScope .global)
    (htable : .ok table = EntryTable.completed (EntryTable.empty.record globals)) :
    ∃ functions messengers, Answers.of (first ++ second) = { functions, messengers } ∧
      (a.functions = EntryTable.told .null globals ++ functions → a.Created config i.handle →
        a.messengers = messengers →
        Decided config sink a ([.instanceFunctions] ++
          config.validating [.messengerFunctions, .messengerCreated]) r) := by
  obtain ⟨findings, hfindings, hr, htold⟩ := EntryTable.runs_resolveWith resolving
  obtain ⟨messengers, htold', hdecided⟩ := decided_registerSink (a := a) registering htable hr
  refine ⟨EntryTable.told i.handle findings, messengers,
    by simp [htold, htold', Answers.append_def], ?_⟩
  intro hfunctions ha hmessengers
  have hres : EntryTable.Resolutions a i.handle globals findings :=
    ⟨hglobals, hfindings, hfunctions⟩
  apply (decided_instanceFunctions hres hr ha).of_ok
  rw [Config.validating, if_pos hon]
  exact hdecided hres ha hmessengers

/-- A new instance is asked for its entry points, and for a messenger if validation is on. -/
theorem decided_equip {i : Instance} {table : EntryTable} {globals : EntryTable.Findings}
    {r : Except Error (Instance × EntryTable)}
    (h : Instance.Equipment i config table sink events r)
    (hglobals : globals.map Prod.fst = EntryPoint.ofScope .global)
    (htable : .ok table = EntryTable.completed (EntryTable.empty.record globals)) :
    ∃ functions messengers, Answers.of events = { functions, messengers } ∧
      (a.functions = EntryTable.told .null globals ++ functions → a.Created config i.handle →
        a.messengers = messengers →
        Decided config sink a ([.instanceFunctions] ++
          config.validating [.messengerFunctions, .messengerCreated]) r) := by
  cases h with
  | unresolved resolving =>
    obtain ⟨findings, hfindings, hr, htold⟩ := EntryTable.runs_resolveWith resolving
    refine ⟨_, [], htold, ?_⟩
    intro hfunctions ha _
    exact (decided_instanceFunctions ⟨hglobals, hfindings, hfunctions⟩ hr ha).of_error _
  | silent hoff resolving =>
    obtain ⟨findings, hfindings, hr, htold⟩ := EntryTable.runs_resolveWith resolving
    refine ⟨_, [], htold, ?_⟩
    intro hfunctions ha _
    apply (decided_instanceFunctions ⟨hglobals, hfindings, hfunctions⟩ hr ha).of_ok
    rw [Config.validating, hoff]
    exact decided_nil
  | unregistered hon resolving registering =>
    exact decided_register hon resolving registering hglobals htable
  | registered hon resolving registering =>
    exact decided_register hon resolving registering hglobals htable

end VulkanExec
