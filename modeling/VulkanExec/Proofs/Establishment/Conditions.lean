import VulkanExec.Proofs.Establishment.Answers

/-!
# The conditions of an establishment

A context needs a row of conditions, in a fixed order. Each is checked here against the answers of
a driver to the questions that it is about: for the request that the configuration calls for, for
the instance that was created on that request, for the physical device that was chosen, and so on.
A condition that the driver was not asked about in this way neither holds nor fails.

## Main definitions

- `Check`: whether a condition holds, fails with an error, or was not asked about;
- `Check.first`: what conditions come to, the first that does not hold counting;
- `Config.wantedInstance`, `Config.wantedDevice`: what a configuration asks of a driver;
- `Condition`, `Config.conditions`: the conditions, and those of a configuration in order;
- `Condition.check`: a condition against the answers;
- `Decided`: some conditions come to the result of a program.

`Decided.of_ok` and `Decided.of_error` put the conditions of stages together, and `Check.decides`
says what they then decide.
-/

namespace VulkanExec

/-- What becomes of a condition. -/
inductive Check where
  /-- The driver was not asked what would decide it. -/
  | unasked
  | holds
  | fails (e : Error)
  deriving DecidableEq, Repr

namespace Check

/-- What conditions come to: all hold, or the first that does not counts. -/
def first : List Check → Check
  | [] => holds
  | holds :: checks => first checks
  | check :: _ => check

/-- The check that a result stands for. -/
def of {α : Type} : Except Error α → Check
  | .ok _ => holds
  | .error e => fails e

/-- Nothing may be missing; otherwise the error lists all that is. -/
def noneMissing (error : List String → Error) : List String → Check
  | [] => holds
  | missing => fails (error missing)

/-- No name contains a NUL; the first that does is the error, under the key of its setting. -/
def noNul (key : String) (names : List String) : Check :=
  match names.find? fun name => decide ('\x00' ∈ name.toList) with
  | none => holds
  | some name => fails (.invalidConfig key (.containsNul name))

/-- The reply is a success. -/
def succeeds {α : Type} (error : ResultCode → Error) : Option (Reply α) → Check
  | none => unasked
  | some (.ok _) => holds
  | some (.error code) => fails (error code)

/-- What is asked of a value, if there is one. -/
def onValue {α : Type} (check : α → Check) : Option α → Check
  | none => unasked
  | some a => check a

/-- What is asked of the value in a reply. -/
def ofValue {α : Type} (check : α → Check) (reply : Option (Reply α)) : Check :=
  onValue check (reply.bind Except.toOption)

end Check

/-! ## What is asked of a driver -/

namespace Config

/-- The instance that a configuration calls for. -/
def wantedInstance (config : Config) : InstanceSpec where
  appName := config.appName
  apiVersion := config.apiVersion
  layers := if config.validation then config.layers else []
  extensions := if config.validation then [config.diagnosticExtension] else []

/-- The device that a configuration calls for, with a queue of some family. -/
def wantedDevice (config : Config) (family : UInt32) : DeviceSpec where
  family := family
  features := .requesting config.capabilities
  extensions := config.extensions

end Config

/-! ## Conditions on single answers -/

/-- Whether a reply about the extensions of a layer ends the search for one of them. -/
def decides (extension : String) : Reply (List String) → Bool
  | .ok available => available.contains extension
  | .error _ => true

/-- The layers, asked in order, come to one that offers the extension before any query fails. -/
def checkOffered (extension : String) (layers : List String)
    (asked : List (Option String × Reply (List String))) : Check :=
  if asked.map Prod.fst <+: layers.map some then
    match asked.find? (decides extension ·.2) with
    | some (_, .ok _) => .holds
    | some (_, .error code) =>
      .fails (.enumerationFailed "vkEnumerateInstanceExtensionProperties" code)
    | none =>
      if asked.length = layers.length then .fails (.missingDiagnosticExtension extension)
      else .unasked
  else .unasked

/-- Whether a physical device has all that a configuration requires, and a queue family to work
on. -/
def Config.suits (config : Config) (candidate : Candidate) : Bool :=
  config.capabilities.all (candidate.features.has ·) &&
    config.extensions.all (candidate.extensions.contains ·) &&
    candidate.families.any Candidate.worksOn

/-- Of the physical devices, asked in order, one suits the configuration. -/
def Config.checkSuited (config : Config) (asked : List Candidate)
    (devices : List PhysicalDeviceHandle) : Check :=
  if asked.map Candidate.handle <+: devices then
    if asked.any config.suits then .holds
    else if asked.length = devices.length then .fails .noSuitableDevice
    else .unasked
  else .unasked

namespace Answers

/-- All names were found with the instance. -/
def checkFound (a : Answers) (names : List String) (inst : InstanceHandle) : Check :=
  if names.any fun name => a.functions.lookup (inst, name) = none then .unasked
  else .noneMissing .missingEntryPoints
    (names.filter fun name => a.functions.lookup (inst, name) = some none)

/-- What is asked of the instance that was created as the configuration calls for it. -/
def onInstance (a : Answers) (config : Config) (check : InstanceHandle → Check) : Check :=
  .ofValue check (answer? config.wantedInstance a.instances)

/-- Of the physical devices that the instance has listed, one suits the configuration. -/
def checkSuited (a : Answers) (config : Config) (inst : InstanceHandle) : Check :=
  .ofValue (fun devices => .onValue (config.checkSuited · devices) (a.candidates? inst))
    (answer? inst a.physicalDevices)

/-- The first physical device of the instance that suits a configuration, and its queue family. -/
def choice? (a : Answers) (config : Config) (inst : InstanceHandle) :
    Option (PhysicalDeviceHandle × UInt32) := do
  let candidate ← (← a.candidates? inst).find? config.suits
  return (candidate.handle, ← candidate.workFamily?)

/-- The answer to the request for a device: of the instance, on the physical device that was chosen,
and with its family. -/
def device? (a : Answers) (config : Config) (inst : InstanceHandle) : Option (Reply DeviceHandle) :=
  (a.choice? config inst).bind fun (device, family) =>
    answer? (inst, device, config.wantedDevice family) a.devices

/-- The first queue of the chosen family is there on the new device. -/
def checkQueue (a : Answers) (config : Config) (inst : InstanceHandle) : Check :=
  match a.choice? config inst, a.device? config inst with
  | some (_, family), some (.ok device) =>
    .onValue (fun queue => if queue = .null then .fails (.queueUnavailable family) else .holds)
      (answer? (device, family, 0) a.queues)
  | _, _ => .unasked

end Answers

/-! ## All conditions -/

/-- What a context needs. -/
inductive Condition where
  /-- The global entry points are found, without an instance. -/
  | globalFunctions
  | layersListed
  | layersThere
  | layerNames
  | extensionOffered
  | extensionName
  | appName
  | instanceCreated
  /-- The required entry points of the new instance are found. -/
  | instanceFunctions
  | messengerFunctions
  | messengerCreated
  | devicesListed
  | deviceSuited
  | deviceExtensionNames
  | deviceCreated
  | queueThere
  deriving DecidableEq, Repr

/-- The conditions that there are with validation only. -/
def Config.validating (config : Config) (conditions : List Condition) : List Condition :=
  if config.validation then conditions else []

/-- The conditions of a configuration, in order. -/
def Config.conditions (config : Config) : List Condition :=
  [.globalFunctions] ++
    config.validating
      [.layersListed, .layersThere, .layerNames, .extensionOffered, .extensionName] ++
    [.appName, .instanceCreated, .instanceFunctions] ++
    config.validating [.messengerFunctions, .messengerCreated] ++
    [.devicesListed, .deviceSuited, .deviceExtensionNames, .deviceCreated, .queueThere]

/-- A condition against the answers of a driver, where messages go to a sink. -/
def Condition.check (config : Config) (sink : SinkId) (a : Answers) : Condition → Check
  | globalFunctions => a.checkFound EntryPoint.globalNames .null
  | layersListed =>
    .succeeds (.enumerationFailed "vkEnumerateInstanceLayerProperties") a.layers.head?
  | layersThere => .ofValue (fun available => .noneMissing .missingLayers
      (config.layers.filter fun layer => !available.contains layer)) a.layers.head?
  | layerNames => .noNul "validation_layers" config.layers
  | extensionOffered => checkOffered config.diagnosticExtension config.layers a.layerExtensions
  | extensionName => .noNul "diagnostic_extension" [config.diagnosticExtension]
  | appName => .noNul "app_name" [config.appName]
  | instanceCreated =>
    .succeeds .instanceCreationFailed (answer? config.wantedInstance a.instances)
  | instanceFunctions => a.onInstance config (a.checkFound EntryPoint.instanceNames)
  | messengerFunctions => a.onInstance config (a.checkFound EntryPoint.messengerNames)
  | messengerCreated => a.onInstance config fun inst =>
    .succeeds (.callbackInstallFailed "vkCreateDebugUtilsMessengerEXT")
      (answer? (inst, sink) a.messengers)
  | devicesListed => a.onInstance config fun inst =>
    .succeeds (.enumerationFailed "vkEnumeratePhysicalDevices") (answer? inst a.physicalDevices)
  | deviceSuited => a.onInstance config (a.checkSuited config)
  | deviceExtensionNames => .noNul "required_extensions" config.extensions
  | deviceCreated => a.onInstance config fun inst =>
    .succeeds .deviceCreationFailed (a.device? config inst)
  | queueThere => a.onInstance config (a.checkQueue config)

/-! ## What conditions come to -/

namespace Check

variable {checks rest : List Check} {e : Error}

@[simp] theorem first_holds : first (holds :: checks) = first checks := rfl

@[simp] theorem first_fails : first (fails e :: checks) = fails e := rfl

@[simp] theorem first_singleton (check : Check) : first [check] = check := by
  cases check <;> rfl

theorem first_append_of_holds (h : first checks = holds) : first (checks ++ rest) = first rest := by
  induction checks with
  | nil => rfl
  | cons check checks ih =>
    cases check with
    | holds => exact ih h
    | unasked => cases h
    | fails e => cases h

theorem first_append_of_fails (h : first checks = fails e) : first (checks ++ rest) = fails e := by
  induction checks with
  | nil => cases h
  | cons check checks ih =>
    cases check with
    | holds => exact ih h
    | unasked => cases h
    | fails e' => exact h

theorem first_eq_holds_iff : first checks = holds ↔ ∀ check ∈ checks, check = holds := by
  induction checks with
  | nil => simp [first]
  | cons check checks ih => cases check <;> simp [first, ih]

theorem first_eq_fails_iff : first checks = fails e ↔
    ∃ before after, checks = before ++ fails e :: after ∧ ∀ check ∈ before, check = holds := by
  constructor
  · intro h
    induction checks with
    | nil => cases h
    | cons check checks ih =>
      cases check with
      | unasked => cases h
      | fails e' =>
        cases h
        exact ⟨[], checks, rfl, by simp⟩
      | holds =>
        obtain ⟨before, after, rfl, hbefore⟩ := ih h
        exact ⟨holds :: before, after, rfl, by simpa using hbefore⟩
  · rintro ⟨before, after, rfl, hbefore⟩
    rw [first_append_of_holds (first_eq_holds_iff.2 hbefore), first_fails]

/-- Conditions that come to a result decide it: it is a success when all hold, and otherwise the
error is that of the first that does not. -/
theorem decides {γ α : Type} {conditions : List γ} {check : γ → Check} {r : Except Error α}
    (h : first (conditions.map check) = of r) :
    ((∃ a, r = .ok a) ↔ ∀ condition ∈ conditions, check condition = .holds) ∧
    ∀ e, r = .error e ↔ ∃ before condition after, conditions = before ++ condition :: after ∧
      (∀ earlier ∈ before, check earlier = .holds) ∧ check condition = .fails e := by
  constructor
  · rw [← List.forall_mem_map (P := (· = holds)), ← first_eq_holds_iff, h]
    cases r <;> simp [of]
  · intro e
    have hr : r = .error e ↔ of r = .fails e := by cases r <;> simp [of]
    rw [hr, ← h, first_eq_fails_iff]
    constructor
    · rintro ⟨before, after, hmap, hbefore⟩
      obtain ⟨earlier, later, hconditions, rfl, hlater⟩ := List.map_eq_append_iff.1 hmap
      obtain ⟨condition, rest, rfl, hcheck, -⟩ := List.map_eq_cons_iff.1 hlater
      exact ⟨earlier, condition, rest, hconditions, List.forall_mem_map.1 hbefore, hcheck⟩
    · rintro ⟨before, condition, after, rfl, hbefore, hcheck⟩
      exact ⟨before.map check, after.map check, by simp [hcheck], List.forall_mem_map.2 hbefore⟩

@[simp] theorem ofValue_ok {α : Type} (check : α → Check) (a : α) :
    ofValue check (some (.ok a)) = check a := rfl

theorem noNul_eq (key : String) (names : List String) :
    noNul key names = of (driverNames key names) := by
  simp only [noNul, driverNames, List.contains_eq_mem]
  cases names.find? fun name => decide ('\x00' ∈ name.toList) <;> rfl

end Check

/-- An instance was asked for once, as the configuration calls for it, and it was created. -/
def Answers.Created (a : Answers) (config : Config) (inst : InstanceHandle) : Prop :=
  a.instances = [(config.wantedInstance, .ok inst)]

/-- Conditions on the instance are conditions on the one that was created. -/
theorem Answers.Created.onInstance_eq {config : Config} {a : Answers} {inst : InstanceHandle}
    (h : a.Created config inst) (check : InstanceHandle → Check) :
    a.onInstance config check = check inst := by
  rw [onInstance, h, answer?_singleton, Check.ofValue_ok]

/-- The conditions come to the result of a program. -/
def Decided {α : Type} (config : Config) (sink : SinkId) (a : Answers)
    (conditions : List Condition) (r : Except Error α) : Prop :=
  Check.first (conditions.map (Condition.check config sink a)) = Check.of r

section Decided

variable {α β : Type} {config : Config} {sink : SinkId} {a : Answers}
  {conditions rest : List Condition} {r : Except Error β} {e : Error}

/-- After conditions that hold, the others count. -/
theorem Decided.of_ok {v : α} (h : Decided config sink a conditions (.ok v))
    (hrest : Decided config sink a rest r) : Decided config sink a (conditions ++ rest) r := by
  rw [Decided, List.map_append, Check.first_append_of_holds h]
  exact hrest

/-- After one that fails, the others do not. -/
theorem Decided.of_error (h : Decided config sink a conditions (.error e : Except Error α))
    (rest : List Condition) :
    Decided config sink a (conditions ++ rest) (.error e : Except Error β) := by
  rw [Decided, List.map_append]
  exact Check.first_append_of_fails h

theorem decided_nil {v : β} : Decided config sink a [] (.ok v) := rfl

end Decided

end VulkanExec
