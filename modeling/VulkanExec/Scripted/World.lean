import VulkanExec.NameTable
import VulkanExec.Program.Command
import VulkanExec.Text.Utf8

/-!
# A driver in memory

A world is a driver that exists in memory only. It says what layers, extensions and physical
devices there are, which functions fail and with what code, and which handles it gives out. It
counts the objects that are alive and keeps a record of every call.

## Main definitions

- `ScriptedDevice`: a physical device of a world;
- `Script`: the codes that the calls of a function return;
- `World`: the driver's state, with `World.standard` for one validation layer and one device;
- `WorldPatch`: fields to be replaced.
-/

namespace VulkanExec

/-- A physical device of a world. -/
structure ScriptedDevice where
  handle : PhysicalDeviceHandle
  /-- The bytes of the name. -/
  name : List UInt8
  features : Features
  /-- The extensions; without a list the query for them fails. -/
  extensions : Option (List String)
  /-- The flags of each queue family. -/
  families : List UInt32
  /-- The property flags of the memory types. -/
  memoryTypes : List UInt32
  memoryTypeCount : UInt32

/-- The codes that the calls of a function return. -/
inductive Script where
  | always (code : ResultCode)
  /-- One code for each call, and success after the last. -/
  | inTurn (codes : List ResultCode)
  deriving DecidableEq, Repr

/-- The numbers of objects alive: creations less releases, whatever was released. -/
structure Population where
  instances : Int
  messengers : Int
  devices : Int
  pools : Int
  buffers : Int
  fences : Int
  deriving DecidableEq, Repr

/-- An argument in the record of a call. -/
inductive Arg where
  | number (n : Nat)
  | flag (b : Bool)
  | text (s : String)
  | absent
  | list (args : List Arg)
  | features (f : Features)

/-- The record of a call. -/
structure CallRecord where
  function : String
  args : List Arg

/-- A driver in memory. -/
structure World where
  layers : List String
  /-- The instance extensions of each layer. -/
  layerExtensions : List (String × List String)
  /-- The functions that are not found. -/
  missing : List String
  devices : List ScriptedDevice
  results : NameTable Script
  /-- The next handles that a function gives out, before those that are counted up. -/
  handles : NameTable (List UInt64)
  nextHandle : UInt64
  population : Population
  /-- The messengers alive and the sinks behind them, in the order of creation. -/
  messengers : List (MessengerHandle × SinkId)
  /-- The calls so far, the latest first. -/
  calls : List CallRecord

/-- Fields that take the place of those of a world; the entries of the tables one by one. -/
structure WorldPatch where
  layers : Option (List String)
  layerExtensions : Option (List (String × List String))
  missing : Option (List String)
  devices : Option (List ScriptedDevice)
  results : List (String × Script)
  handles : List (String × List UInt64)
  firstHandle : Option UInt64

/-- The code of the next call, and the script after it. -/
def Script.next : Script → ResultCode × Script
  | .always code => (code, .always code)
  | .inTurn [] => (.success, .inTurn [])
  | .inTurn (code :: codes) => (code, .inTurn codes)

/-- The property flags that a device reports for each place: those of its memory types, and none
in the places after them. -/
def ScriptedDevice.memoryLayout (device : ScriptedDevice) : MemoryLayout where
  count := device.memoryTypeCount
  flags := Vector.ofFn fun i => device.memoryTypes.getD i.val 0

namespace ScriptedDevice

/-- The name has room for 255 bytes and ends at the first zero. -/
def shortName (device : ScriptedDevice) : List UInt8 :=
  Text.Utf8.terminated (device.name.take 255)

/-- A device with a graphics and compute family. -/
def standard : ScriptedDevice where
  handle := ⟨160⟩
  name := Text.Utf8.bytes "Fake Accelerator"
  features := .off
  extensions := some []
  families := [3]
  memoryTypes := [1, 6]
  memoryTypeCount := 2

/-- What a world says about a handle of no device. -/
def unknown (handle : PhysicalDeviceHandle) : ScriptedDevice where
  handle := handle
  name := []
  features := .off
  extensions := none
  families := []
  memoryTypes := []
  memoryTypeCount := 0

end ScriptedDevice

namespace World

/-- One validation layer with the diagnostic extension, and one device. -/
def standard : World where
  layers := ["VK_LAYER_KHRONOS_validation"]
  layerExtensions := [("VK_LAYER_KHRONOS_validation", ["VK_EXT_debug_utils"])]
  missing := []
  devices := [.standard]
  results := .empty
  handles := .empty
  nextHandle := 4097
  population := ⟨0, 0, 0, 0, 0, 0⟩
  messengers := []
  calls := []

/-- Replace the fields that the patch gives. -/
def patched (world : World) (patch : WorldPatch) : World :=
  { world with
    layers := patch.layers.getD world.layers
    layerExtensions := patch.layerExtensions.getD world.layerExtensions
    missing := patch.missing.getD world.missing
    devices := patch.devices.getD world.devices
    results := world.results.insertAll patch.results
    handles := world.handles.insertAll patch.handles
    nextHandle := patch.firstHandle.getD world.nextHandle }

/-- The device with a handle: the first that has it. -/
def device (world : World) (handle : PhysicalDeviceHandle) : ScriptedDevice :=
  (world.devices.find? (·.handle = handle)).getD (.unknown handle)

/-- The extensions of a layer; no layer and an unknown one have none. -/
def extensionsOf (world : World) (layer : Option String) : List String :=
  (layer.bind fun name => world.layerExtensions.lookup name).getD []

/-- The functions that are found without an instance, and only so. -/
def globalFunctions : List String :=
  ["vkCreateInstance", "vkEnumerateInstanceExtensionProperties",
   "vkEnumerateInstanceLayerProperties"]

/-- Whether a function is found with an instance, which the global functions are not, or without
one, as they alone are. -/
def finds (world : World) (inst : InstanceHandle) (name : String) : Bool :=
  !world.missing.contains name && globalFunctions.contains name == (inst == .null)

/-- The records of the calls so far, in order. -/
def history (world : World) : List CallRecord := world.calls.reverse

/-- The world as a new stretch of recording begins. -/
def forgetCalls (world : World) : World := { world with calls := [] }

end World

end VulkanExec
