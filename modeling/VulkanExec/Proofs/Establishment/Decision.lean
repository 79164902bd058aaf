import VulkanExec.Proofs.Establishment.Equipping
import VulkanExec.Proofs.Establishment.Selection
import VulkanExec.Proofs.Numbering

/-!
# What decides an establishment

The stages of an establishment are put together in `establish_decided`: a context is established
exactly when every condition holds, and otherwise the error is that of the first that does not.
-/

namespace VulkanExec

open Program

variable {config : Config} {sink : SinkId} {events : List Event} {a : Answers}

/-- A release tells nothing. -/
@[simp] theorem Answers.of_closing (i : Instance) : Answers.of i.closing = {} := by
  obtain ⟨handle, callback⟩ := i
  cases callback <;> rfl

/-- The names of the layers can be handed to a driver that has been asked about them. -/
theorem driverNames_of_decided
    (h : Decided config sink a (config.validating
      [.layersListed, .layersThere, .layerNames, .extensionOffered]) (.ok ()))
    (hon : config.validation = true) : driverNames "validation_layers" config.layers = .ok () := by
  rw [Decided, Config.validating, if_pos hon] at h
  have hnames : Condition.check config sink a .layerNames = .holds :=
    Check.first_eq_holds_iff.1 h _ (by simp)
  rw [Condition.check, Check.noNul_eq] at hnames
  cases hr : driverNames "validation_layers" config.layers with
  | error e => simp [hr, Check.of] at hnames
  | ok => rfl

/-- The conditions of an instance, stage by stage. -/
def Config.instanceConditions (config : Config) : List Condition :=
  config.validating [.layersListed, .layersThere, .layerNames, .extensionOffered] ++
    (config.validating [.extensionName] ++ [.appName, .instanceCreated] ++
      ([.instanceFunctions] ++ config.validating [.messengerFunctions, .messengerCreated]))

/-- With a new instance, its conditions come to the result of equipping it. -/
theorem decided_equipped {first second third : List Event} {i : Instance} {table : EntryTable}
    {globals : EntryTable.Findings} {r : Except Error (Instance × EntryTable)}
    (checking : (Instance.checkSupport config).Runs first (.ok ()))
    (creating : Instance.Creation config second (.ok i))
    (equipping : Instance.Equipment i config table sink third r)
    (hglobals : globals.map Prod.fst = EntryPoint.ofScope .global)
    (htable : .ok table = EntryTable.completed (EntryTable.empty.record globals)) :
    ∃ functions layers layerExtensions instances messengers,
      Answers.of (first ++ (second ++ third)) =
        { functions, layers, layerExtensions, instances, messengers } ∧
      (∀ j full, r = .ok (j, full) → instances = [(config.wantedInstance, .ok j.handle)]) ∧
      (a.functions = EntryTable.told .null globals ++ functions → a.layers = layers →
        a.layerExtensions = layerExtensions → a.instances = instances →
        a.messengers = messengers → Decided config sink a config.instanceConditions r) := by
  obtain ⟨layers, layerExtensions, htold, hsupport⟩ := decided_support (a := a) checking
  obtain ⟨instances, htold', hhandle, hcreate⟩ := decided_create (a := a) creating
  obtain ⟨functions, messengers, htold'', hequip⟩ :=
    decided_equip (a := a) equipping hglobals htable
  refine ⟨functions, layers, layerExtensions, instances, messengers,
    by simp [htold, htold', htold'', Answers.append_def], ?_, ?_⟩
  · rintro j full rfl
    rw [equipping.handle_eq]
    exact hhandle i rfl
  intro hfunctions hlayers hextensions hinstances hmessengers
  have hsupport := hsupport hlayers hextensions
  apply hsupport.of_ok
  apply (hcreate hinstances (driverNames_of_decided hsupport)).of_ok
  exact hequip hfunctions (hinstances.trans (hhandle _ rfl)) hmessengers

/-- The conditions of an instance come to the result of its establishment. -/
theorem decided_instance {table : EntryTable} {globals : EntryTable.Findings}
    {r : Except Error (Instance × EntryTable)} (h : Instance.Course config table sink events r)
    (hglobals : globals.map Prod.fst = EntryPoint.ofScope .global)
    (htable : .ok table = EntryTable.completed (EntryTable.empty.record globals)) :
    ∃ functions layers layerExtensions instances messengers,
      Answers.of events = { functions, layers, layerExtensions, instances, messengers } ∧
      (∀ j full, r = .ok (j, full) → instances = [(config.wantedInstance, .ok j.handle)]) ∧
      (a.functions = EntryTable.told .null globals ++ functions → a.layers = layers →
        a.layerExtensions = layerExtensions → a.instances = instances →
        a.messengers = messengers → Decided config sink a config.instanceConditions r) := by
  cases h with
  | unsupported checking =>
    obtain ⟨layers, layerExtensions, htold, hsupport⟩ := decided_support (a := a) checking
    refine ⟨[], layers, layerExtensions, [], [], htold, nofun, ?_⟩
    intro _ hlayers hextensions _ _
    exact (hsupport hlayers hextensions).of_error _
  | uncreated checking creating =>
    obtain ⟨layers, layerExtensions, htold, hsupport⟩ := decided_support (a := a) checking
    obtain ⟨instances, htold', -, hcreate⟩ := decided_create (a := a) creating
    refine ⟨[], layers, layerExtensions, instances, [],
      by simp [htold, htold', Answers.append_def], nofun, ?_⟩
    intro _ hlayers hextensions hinstances _
    have hsupport := hsupport hlayers hextensions
    apply hsupport.of_ok
    exact (hcreate hinstances (driverNames_of_decided hsupport)).of_error _
  | unequipped checking creating equipping =>
    simpa using decided_equipped (a := a) checking creating equipping hglobals htable
  | established checking creating equipping =>
    exact decided_equipped checking creating equipping hglobals htable

/-- With a physical device, the conditions of a device come to the result of creating one. -/
theorem decided_chosen {first second : List Event} {inst : InstanceHandle} {choice : Choice}
    {r : Except Error (DeviceHandle × QueueHandle)}
    (choosing : (Candidate.choose inst config.capabilities config.extensions).Runs first
      (.ok choice))
    (creating : DeviceCreation inst choice.candidate.handle choice.family config.capabilities
      config.extensions second r) :
    ∃ physicalDevices surveys devices queues,
      Answers.of (first ++ second) =
        { Survey.told inst surveys with physicalDevices, devices, queues } ∧
      (a.Created config inst → a.physicalDevices = physicalDevices →
        a.candidates? inst = some (surveys.map Survey.candidate) → a.devices = devices →
        a.queues = queues → Decided config sink a ([.devicesListed, .deviceSuited] ++
          [.deviceExtensionNames, .deviceCreated, .queueThere]) r) := by
  obtain ⟨physicalDevices, surveys, htold, hchoose⟩ := decided_choose (a := a) choosing
  obtain ⟨devices, queues, htold', hcreate⟩ := decided_createDevice (a := a) creating
  refine ⟨physicalDevices, surveys, devices, queues,
    by simp [htold, htold', Answers.append_def, Survey.told], ?_⟩
  intro hinst hphysical hcandidates hdevices hqueues
  obtain ⟨hchoice, hchosen⟩ := hchoose hinst hphysical hcandidates
  apply hchoice.of_ok
  exact hcreate hinst hdevices hqueues (hchosen _ rfl)

/-- The conditions of a device come to the result of the negotiation. -/
theorem decided_negotiate {inst : InstanceHandle}
    {r : Except Error (Choice × DeviceHandle × QueueHandle)}
    (h : Context.Negotiation config inst events r) :
    ∃ physicalDevices surveys devices queues,
      Answers.of events = { Survey.told inst surveys with physicalDevices, devices, queues } ∧
      (a.Created config inst → a.physicalDevices = physicalDevices →
        a.candidates? inst = some (surveys.map Survey.candidate) → a.devices = devices →
        a.queues = queues → Decided config sink a ([.devicesListed, .deviceSuited] ++
          [.deviceExtensionNames, .deviceCreated, .queueThere]) r) := by
  cases h with
  | unchosen choosing =>
    obtain ⟨physicalDevices, surveys, htold, hchoose⟩ := decided_choose (a := a) choosing
    refine ⟨physicalDevices, surveys, [], [], htold, ?_⟩
    intro hinst hphysical hcandidates _ _
    exact (hchoose hinst hphysical hcandidates).1.of_error _
  | uncreated choosing creating => exact decided_chosen choosing creating
  | created choosing creating => exact decided_chosen choosing creating

theorem Answers.of_around {entries : EntryTable} {device : Device} {inst : InstanceHandle}
    {physical : PhysicalDeviceHandle} {queue : QueueHandle} {family : UInt32} {c : Context}
    (h : (Context.around config entries device inst physical queue family).Runs events c) :
    Answers.of events = {} := by
  obtain ⟨_, _, rfl, hmemory⟩ := runs_ask_iff.1 h
  obtain ⟨_, _, rfl, hend⟩ := runs_ask_iff.1 hmemory
  obtain ⟨rfl, rfl⟩ := runs_pure_iff.1 hend
  rfl

/-- The conditions, stage by stage. -/
theorem Config.conditions_eq (config : Config) : config.conditions =
    [.globalFunctions] ++ (config.instanceConditions ++ ([.devicesListed, .deviceSuited] ++
      [.deviceExtensionNames, .deviceCreated, .queueThere])) := by
  unfold conditions instanceConditions validating
  cases config.validation <;> rfl

namespace Context

variable {stamp : Nat}

/-- With an instance, all conditions together come to the result of the negotiation. -/
theorem Negotiation.decided {first second third : List Event} {table entries : EntryTable}
    {i : Instance} {r : Except Error (Choice × DeviceHandle × QueueHandle)}
    (resolving : (EntryTable.empty.resolveWith .global .null).Runs first (.ok table))
    (establishing : Instance.Course config table sink second (.ok (i, entries)))
    (negotiating : Negotiation config i.handle third r) :
    Decided config sink (Answers.of (first ++ (second ++ third))) config.conditions r := by
  rw [config.conditions_eq]
  obtain ⟨globals, hglobals, hr, htold⟩ := EntryTable.runs_resolveWith resolving
  obtain ⟨functions, layers, layerExtensions, instances, messengers, htold', hhandle, hinstance⟩ :=
    decided_instance (a := Answers.of (first ++ (second ++ third))) establishing hglobals hr
  obtain ⟨physicalDevices, surveys, devices, queues, htold'', hdevice⟩ :=
    decided_negotiate (a := Answers.of (first ++ (second ++ third))) negotiating
  have hall : Answers.of (first ++ (second ++ third)) =
      { Survey.told i.handle surveys with
        functions := EntryTable.told .null globals ++ functions, layers, layerExtensions,
        instances, messengers, physicalDevices, devices, queues } := by
    simp [htold, htold', htold'', Answers.append_def, Survey.told]
  rw [hall] at hinstance hdevice ⊢
  apply (EntryTable.decided_global hglobals hr ⟨_, rfl⟩).of_ok
  apply (hinstance rfl rfl rfl rfl rfl).of_ok
  exact hdevice (hhandle i entries rfl) rfl (Survey.candidates_of_told rfl rfl rfl) rfl rfl

/-- All conditions together come to the result of an establishment. -/
theorem Course.decided {r : Except Error Context} (h : Course config sink stamp events r) :
    Decided config sink (Answers.of events) config.conditions r := by
  rw [config.conditions_eq]
  cases h with
  | unresolved resolving =>
    obtain ⟨globals, hglobals, hr, htold⟩ := EntryTable.runs_resolveWith resolving
    exact (EntryTable.decided_global hglobals hr ⟨[], by simp [htold]⟩).of_error _
  | @uninstanced first second table e resolving establishing =>
    obtain ⟨globals, hglobals, hr, htold⟩ := EntryTable.runs_resolveWith resolving
    obtain ⟨functions, layers, layerExtensions, instances, messengers, htold', -, hinstance⟩ :=
      decided_instance (a := Answers.of (first ++ second)) establishing hglobals hr
    have hall : Answers.of (first ++ second) =
        { functions := EntryTable.told .null globals ++ functions, layers, layerExtensions,
          instances, messengers } := by
      simp [htold, htold', Answers.append_def]
    rw [hall] at hinstance ⊢
    apply (EntryTable.decided_global hglobals hr ⟨_, rfl⟩).of_ok
    exact (hinstance rfl rfl rfl rfl rfl).of_error _
  | @undeviced first second third table entries i e resolving establishing negotiating =>
    have hall : Answers.of (first ++ (second ++ (third ++ i.closing))) =
        Answers.of (first ++ (second ++ third)) := by simp
    rw [hall, ← config.conditions_eq]
    exact negotiating.decided resolving establishing
  | @established first second third fourth table entries i choice device queue context record
      resolving establishing negotiating describing =>
    have hall : Answers.of (first ++ (second ++ (third ++ (fourth ++ [.noted (.log record)])))) =
        Answers.of (first ++ (second ++ third)) := by
      simp [Answers.of_around describing]
    rw [hall, ← config.conditions_eq]
    exact negotiating.decided resolving establishing

/-- A context is established exactly when every condition holds of the questions that the
configuration calls for, and otherwise the error is that of the first condition that does not. -/
theorem establish_decided {r : Except Error Context}
    (hrun : (establish config sink stamp).Runs events r) :
    ((∃ c, r = .ok c) ↔
      ∀ condition ∈ config.conditions, condition.check config sink (.of events) = .holds) ∧
    ∀ e, r = .error e ↔ ∃ before condition after,
      config.conditions = before ++ condition :: after ∧
        (∀ earlier ∈ before, earlier.check config sink (.of events) = .holds) ∧
        condition.check config sink (.of events) = .fails e :=
  Check.decides (runs_establish hrun).decided

/-- The driver of the sample has the layer that validation needs, and refuses messengers. -/
def refusedRun : Except Error Context × List Event × Nat :=
  (establish .default 0 0).runWith
    ((Driver.numbering (· matches .createMessenger ..)).override Command.withLayers) 1

theorem messenger_decides : refusedRun.1 =
    .error (.callbackInstallFailed "vkCreateDebugUtilsMessengerEXT" .initializationFailed) := by
  have hrun : (establish .default 0 0).Runs refusedRun.2.1 refusedRun.1 := Program.runs_runWith ..
  obtain ⟨-, herror⟩ := establish_decided hrun
  refine (herror _).2 ⟨[.globalFunctions, .layersListed, .layersThere, .layerNames,
    .extensionOffered, .extensionName, .appName, .instanceCreated, .instanceFunctions,
    .messengerFunctions], .messengerCreated, [.devicesListed, .deviceSuited,
    .deviceExtensionNames, .deviceCreated, .queueThere], rfl, ?_, by decide +kernel⟩
  decide +kernel

end Context

end VulkanExec
