import VulkanExec.Config
import VulkanExec.EntryPoint.Table
import VulkanExec.Requirement

/-!
# Instances of one's own

When the caller brings no instance, one is created here, with a messenger if validation is on.
Every step can fail, and what was created before a failure is released before the error is
returned.

## Main definitions

- `Instance`: an instance created here, and its messenger with the sink behind it;
- `Instance.close`: destroy the messenger, then the instance;
- `checkLayers`, `checkDiagnosticExtension`: what validation needs from the layers;
- `Instance.create`, `Instance.registerSink`: the two steps of creation;
- `Instance.establish`: all steps, with the entry points of the instance.
-/

namespace VulkanExec

/-- A registered messenger and the sink that it sends to. The sink has to outlive it. -/
structure Callback where
  messenger : MessengerHandle
  sink : SinkId
  deriving DecidableEq, Repr

/-- An instance created here. -/
structure Instance where
  handle : InstanceHandle
  callback : Option Callback
  deriving DecidableEq, Repr

/-- Every configured layer must be there. -/
def checkLayers (config : Config) : Program (Except Error Unit) := do
  match ← .ask .layers with
  | .error result =>
    return .error (.enumerationFailed "vkEnumerateInstanceLayerProperties" result)
  | .ok available =>
    match config.layers.filter (!offers available ·) with
    | [] => return .ok ()
    | absent => return .error (.missingLayers absent)

/-- One of the layers must offer the diagnostic extension. They are asked in order, up to the first
that does. -/
def findDiagnosticExtension (extension : String) : List String → Program (Except Error Unit)
  | [] => return .error (.missingDiagnosticExtension extension)
  | layer :: layers => do
    match ← .ask (.layerExtensions (some layer)) with
    | .error result =>
      return .error (.enumerationFailed "vkEnumerateInstanceExtensionProperties" result)
    | .ok available =>
      if offers available extension then
        .log .debug (extension ++ " provided by " ++ layer)
        return .ok ()
      else findDiagnosticExtension extension layers

/-- One of the configured layers must offer the diagnostic extension. -/
def checkDiagnosticExtension (config : Config) : Program (Except Error Unit) :=
  match driverNames "validation_layers" config.layers with
  | .error e => return .error e
  | .ok () => findDiagnosticExtension config.diagnosticExtension config.layers

/-- The request for an instance; layers and the diagnostic extension are part of it when
validation is on. -/
def Config.instanceSpec (config : Config) : Except Error InstanceSpec := do
  let layers := if config.validation then config.layers else []
  let extensions := if config.validation then [config.diagnosticExtension] else []
  driverNames "validation_layers" layers
  driverNames "diagnostic_extension" extensions
  driverNames "app_name" [config.appName]
  return { appName := config.appName, apiVersion := config.apiVersion, layers, extensions }

namespace Instance

/-- Destroy the messenger, then the instance, and only then let go of the sink. -/
def close (inst : Instance) : Program Unit := do
  match inst.callback with
  | none =>
    let _ ← .ask (.destroyInstance inst.handle)
  | some callback =>
    let _ ← .ask (.destroyMessenger inst.handle callback.messenger)
    let _ ← .ask (.destroyInstance inst.handle)
    .releaseSink callback.sink
  .log .info "vulkan instance destroyed"

/-- Create an instance without a messenger. -/
def create (config : Config) : Program (Except Error Instance) :=
  match config.instanceSpec with
  | .error e => return .error e
  | .ok request => do
    match ← .ask (.createInstance request) with
    | .error result => return .error (.instanceCreationFailed result)
    | .ok handle =>
      .log .info ("vulkan instance created (" ++ toString request.layers.length ++
        " layer(s), validation " ++ (if config.validation then "on" else "off") ++ ")")
      return .ok ⟨handle, none⟩

/-- Register a sink with a new messenger. The sink that the instance had before is let go. -/
def registerSink (inst : Instance) (table : EntryTable) (sink : SinkId) :
    Program (Except Error Instance) :=
  match table.demand EntryPoint.messengerNames with
  | .error e => return .error e
  | .ok () => do
    match ← .ask (.createMessenger inst.handle sink) with
    | .error result =>
      return .error (.callbackInstallFailed "vkCreateDebugUtilsMessengerEXT" result)
    | .ok messenger =>
      if let some former := inst.callback then .releaseSink former.sink
      .log .debug "validation callback installed"
      return .ok { inst with callback := some ⟨messenger, sink⟩ }

/-- What has to be found out about the layers before there is an instance. -/
def checkSupport (config : Config) : Program (Except Error Unit) :=
  if config.validation then do
    match ← checkLayers config with
    | .error e => return .error e
    | .ok () => checkDiagnosticExtension config
  else return .ok ()

/-- Resolve the entry points of a new instance and register the sink if validation is on. -/
def equip (inst : Instance) (config : Config) (table : EntryTable) (sink : SinkId) :
    Program (Except Error (Instance × EntryTable)) := do
  match ← table.resolveWith .perInstance inst.handle with
  | .error e => return .error e
  | .ok table =>
    if config.validation then
      match ← inst.registerSink table sink with
      | .error e => return .error e
      | .ok inst => return .ok (inst, table)
    else return .ok (inst, table)

/-- Create an instance with all that belongs to it, on top of the global entry points in `table`.
An instance that cannot be equipped is destroyed again. -/
def establish (config : Config) (table : EntryTable) (sink : SinkId) :
    Program (Except Error (Instance × EntryTable)) := do
  match ← checkSupport config with
  | .error e => return .error e
  | .ok () =>
    match ← create config with
    | .error e => return .error e
    | .ok inst =>
      match ← inst.equip config table sink with
      | .error e =>
        inst.close
        return .error e
      | .ok equipped => return .ok equipped

end Instance

end VulkanExec
