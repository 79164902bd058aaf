import VulkanExec.Device
import VulkanExec.Text.Utf8

/-!
# Execution contexts

A context is one logical device with one queue, and all that was found out on the way to it. It is
established from nothing, or adopted around handles that the caller brings. Capabilities and
extensions are negotiated once, here.

## Main definitions

- `Context`: the context;
- `Context.establish`: create an instance and a device that meet a configuration;
- `HostHandles`, `Context.adopt`: wrap what the caller created;
- `Context.memoryType?`: the first memory type that suits a request.
-/

namespace VulkanExec

/-- An execution context. -/
structure Context where
  device : Device
  instanceHandle : InstanceHandle
  physicalDevice : PhysicalDeviceHandle
  queue : QueueHandle
  family : UInt32
  properties : Properties
  memory : MemoryLayout
  /-- The capabilities that are on. -/
  capabilities : List Capability
  /-- The device extensions that are on. -/
  extensions : List String
  entries : EntryTable
  /-- The default bound on the wait for a submission, in milliseconds. -/
  fenceTimeout : UInt32

/-- Handles that the caller created, and what the caller says about the physical device. -/
structure HostHandles where
  inst : InstanceHandle
  physicalDevice : PhysicalDeviceHandle
  features : Features
  extensions : List String
  family : UInt32
  device : DeviceHandle
  queue : QueueHandle

/-- The first memory type that is among `bits` and has all of `flags`. A layout that claims more
types than it has room for has as many as there is room for. -/
def MemoryLayout.find? (layout : MemoryLayout) (bits flags : UInt32) :
    Option (Fin maxMemoryTypes) :=
  (List.finRange maxMemoryTypes).find? fun i =>
    decide (i.val < layout.count.toNat) && bits.toNat.testBit i.val &&
      layout.flags[i] &&& flags == flags

namespace Context

/-- Whether the instance and the device were created here. -/
def createdHere (context : Context) : Bool := context.device.createdHere

/-- The name of the physical device. -/
def deviceName (context : Context) : String := Text.Utf8.text context.properties.name

/-- The index of the first memory type that suits a request. -/
def memoryType? (context : Context) (bits flags : UInt32) : Option (Fin maxMemoryTypes) :=
  context.memory.find? bits flags

/-- The context around a device, with what the physical device says about itself. -/
def around (config : Config) (entries : EntryTable) (device : Device)
    (instanceHandle : InstanceHandle) (physicalDevice : PhysicalDeviceHandle)
    (queue : QueueHandle) (family : UInt32) : Program Context := do
  let properties ← .ask (.properties instanceHandle physicalDevice)
  let memory ← .ask (.memoryLayout instanceHandle physicalDevice)
  return { device, instanceHandle, physicalDevice, queue, family, properties, memory, entries,
           capabilities := config.capabilities, extensions := config.extensions,
           fenceTimeout := config.fenceTimeout }

/-- The end of a log record that tells what a context runs on. -/
def placement (context : Context) : String :=
  "'" ++ context.deviceName ++ "' (queue family " ++ toString context.family ++ ")"

/-- Choose a physical device of an instance and create a logical device on it. -/
def negotiate (config : Config) (inst : InstanceHandle) :
    Program (Except Error (Choice × DeviceHandle × QueueHandle)) := do
  match ← Candidate.choose inst config.capabilities config.extensions with
  | .error e => return .error e
  | .ok choice =>
    match ← createDevice inst choice.candidate.handle choice.family config.capabilities
        config.extensions with
    | .error e => return .error e
    | .ok (device, queue) => return .ok (choice, device, queue)

/-- Establish a context from nothing: resolve, create an instance, choose a physical device and
create a logical device. After a failure nothing is left of what was created. -/
def establish (config : Config) (sink : SinkId) (stamp : Nat) :
    Program (Except Error Context) := do
  match ← EntryTable.empty.resolveWith .global .null with
  | .error e => return .error e
  | .ok table =>
    match ← Instance.establish config table sink with
    | .error e => return .error e
    | .ok (inst, entries) =>
      match ← negotiate config inst.handle with
      | .error e =>
        inst.close
        return .error e
      | .ok (choice, device, queue) =>
        let context ← around config entries ⟨stamp, device, some inst⟩ inst.handle
          choice.candidate.handle queue choice.family
        .log .info ("execution context ready on " ++ context.placement)
        return .ok context

/-- Resolve the entry points of both scopes. -/
def resolveAll (inst : InstanceHandle) : Program (Except Error EntryTable) := do
  match ← EntryTable.empty.resolveWith .global .null with
  | .error e => return .error e
  | .ok table => table.resolveWith .perInstance inst

/-- Wrap handles that the caller created. None of them is ever destroyed here. -/
def adopt (host : HostHandles) (config : Config) (stamp : Nat) :
    Program (Except Error Context) := do
  match ← resolveAll host.inst with
  | .error e => return .error e
  | .ok entries =>
    match checkAdvertised host.features host.extensions config.capabilities config.extensions with
    | .error e => return .error e
    | .ok () =>
      if host.queue.isNull then return .error (.queueUnavailable host.family)
      else
        let _ ← .ask (.wrapInstance host.inst)
        let _ ← .ask (.wrapDevice host.inst host.device)
        let context ← around config entries ⟨stamp, host.device, none⟩ host.inst
          host.physicalDevice host.queue host.family
        .log .info ("adopted execution context on " ++ context.placement)
        return .ok context

/-- The context as debug output shows it. -/
def describe (context : Context) : String :=
  "ExecutionContext \x7b device_name: " ++ Text.quoted context.deviceName ++
    ", physical_device: " ++ context.physicalDevice.text ++
    ", queue: " ++ context.queue.text ++
    ", queue_family_index: " ++ toString context.family ++
    ", owned: " ++ toString context.createdHere ++
    ", dispatch: " ++ context.entries.describe ++ ", .. \x7d"

end Context

end VulkanExec
