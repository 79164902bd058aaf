import VulkanExec.Diagnostic.Sink
import VulkanExec.Features
import VulkanExec.Handle
import VulkanExec.ResultCode

/-!
# Commands to a driver

Everything that this library asks of a driver is a command, and the type of a command's answer
depends on the command. A command that the driver may refuse is answered by a `Reply`; a query, a
release or an adoption is not refused.

## Main definitions

- `InstanceSpec`, `DeviceSpec`: what an instance and a device are created with;
- `Properties`, `MemoryLayout`: what a physical device says about itself;
- `Command`: the commands;
- `Command.Answer`: the type of the answer to each of them;
- `Command.function?`: the driver function that a command stands for.
-/

namespace VulkanExec

/-- The address of a driver function. -/
structure Address where
  value : UInt64
  deriving DecidableEq, Repr

/-- What an instance is created with. -/
structure InstanceSpec where
  appName : String
  apiVersion : UInt32
  layers : List String
  extensions : List String
  deriving DecidableEq, Repr

/-- What a device with a single queue is created with. -/
structure DeviceSpec where
  family : UInt32
  features : Features
  extensions : List String
  deriving DecidableEq

/-- The priority of the single queue of a device, as it is written. -/
def DeviceSpec.priority : String := "1.0"

/-- The number of memory types that a layout has room for. -/
def maxMemoryTypes : Nat := 32

/-- The memory types of a physical device: how many it claims to have, and the property flags in
each place that there is room for. -/
structure MemoryLayout where
  count : UInt32
  flags : Vector UInt32 maxMemoryTypes

/-- What a physical device says about itself: its name as a C string, and a version. -/
structure Properties where
  name : List UInt8
  driverVersion : UInt32

/-- Buffers of a pool with this flag can be reset one by one. -/
def resettableBuffers : UInt32 := 2

/-- A recording begun with this flag is submitted once. -/
def oneTimeSubmit : UInt32 := 1

/-- What is asked of a driver. A command on an object names it by its handle, and a command on a
device's object names the device too. -/
inductive Command where
  /-- Find a function by name; the null instance finds the global ones. -/
  | resolve (inst : InstanceHandle) (name : String)
  | layers
  /-- The instance extensions of a layer, or of no layer. -/
  | layerExtensions (layer : Option String)
  | createInstance (request : InstanceSpec)
  | wrapInstance (inst : InstanceHandle)
  | destroyInstance (inst : InstanceHandle)
  | createMessenger (inst : InstanceHandle) (sink : SinkId)
  | destroyMessenger (inst : InstanceHandle) (messenger : MessengerHandle)
  | physicalDevices (inst : InstanceHandle)
  | features (inst : InstanceHandle) (device : PhysicalDeviceHandle)
  | deviceExtensions (inst : InstanceHandle) (device : PhysicalDeviceHandle)
  /-- The flags of each queue family. -/
  | queueFamilies (inst : InstanceHandle) (device : PhysicalDeviceHandle)
  | properties (inst : InstanceHandle) (device : PhysicalDeviceHandle)
  | memoryLayout (inst : InstanceHandle) (device : PhysicalDeviceHandle)
  | createDevice (inst : InstanceHandle) (device : PhysicalDeviceHandle) (request : DeviceSpec)
  | wrapDevice (inst : InstanceHandle) (device : DeviceHandle)
  | destroyDevice (device : DeviceHandle)
  | waitIdle (device : DeviceHandle)
  | getQueue (device : DeviceHandle) (family index : UInt32)
  | createPool (device : DeviceHandle) (family flags : UInt32)
  | destroyPool (device : DeviceHandle) (pool : PoolHandle)
  | allocateBuffer (device : DeviceHandle) (pool : PoolHandle)
  | freeBuffer (device : DeviceHandle) (pool : PoolHandle) (buffer : BufferHandle)
  | beginBuffer (device : DeviceHandle) (buffer : BufferHandle) (usage : UInt32)
  | endBuffer (device : DeviceHandle) (buffer : BufferHandle)
  | resetBuffer (device : DeviceHandle) (buffer : BufferHandle)
  | createFence (device : DeviceHandle) (signaled : Bool)
  | destroyFence (device : DeviceHandle) (fence : FenceHandle)
  | resetFence (device : DeviceHandle) (fence : FenceHandle)
  /-- Wait for a fence; a wait that takes longer is answered by the code for a time-out. -/
  | waitFence (device : DeviceHandle) (fence : FenceHandle) (nanoseconds : UInt64)
  | submit (device : DeviceHandle) (queue : QueueHandle) (buffer : BufferHandle)
    (fence : FenceHandle)

namespace Command

/-- The type of the answer to a command. -/
def Answer : Command → Type
  | resolve .. => Option Address
  | layers | layerExtensions _ | deviceExtensions .. => Reply (List String)
  | createInstance _ => Reply InstanceHandle
  | createMessenger .. => Reply MessengerHandle
  | physicalDevices _ => Reply (List PhysicalDeviceHandle)
  | features .. => Features
  | queueFamilies .. => List UInt32
  | properties .. => Properties
  | memoryLayout .. => MemoryLayout
  | createDevice .. => Reply DeviceHandle
  | getQueue .. => QueueHandle
  | createPool .. => Reply PoolHandle
  | allocateBuffer .. => Reply BufferHandle
  | createFence .. => Reply FenceHandle
  | beginBuffer .. | endBuffer .. | resetBuffer .. | resetFence .. | waitFence .. | submit ..
  | waitIdle _ => Reply Unit
  | wrapInstance _ | wrapDevice .. | destroyInstance _ | destroyMessenger .. | destroyDevice _
  | destroyPool .. | freeBuffer .. | destroyFence .. => Unit

/-- The driver function that a command stands for. Resolving a name is what finds functions, and
an adoption only wraps a handle. -/
def function? : Command → Option String
  | resolve .. | wrapInstance _ | wrapDevice .. => none
  | layers => some "vkEnumerateInstanceLayerProperties"
  | layerExtensions _ => some "vkEnumerateInstanceExtensionProperties"
  | createInstance _ => some "vkCreateInstance"
  | destroyInstance _ => some "vkDestroyInstance"
  | createMessenger .. => some "vkCreateDebugUtilsMessengerEXT"
  | destroyMessenger .. => some "vkDestroyDebugUtilsMessengerEXT"
  | physicalDevices _ => some "vkEnumeratePhysicalDevices"
  | features .. => some "vkGetPhysicalDeviceFeatures"
  | deviceExtensions .. => some "vkEnumerateDeviceExtensionProperties"
  | queueFamilies .. => some "vkGetPhysicalDeviceQueueFamilyProperties"
  | properties .. => some "vkGetPhysicalDeviceProperties"
  | memoryLayout .. => some "vkGetPhysicalDeviceMemoryProperties"
  | createDevice .. => some "vkCreateDevice"
  | destroyDevice _ => some "vkDestroyDevice"
  | waitIdle _ => some "vkDeviceWaitIdle"
  | getQueue .. => some "vkGetDeviceQueue"
  | createPool .. => some "vkCreateCommandPool"
  | destroyPool .. => some "vkDestroyCommandPool"
  | allocateBuffer .. => some "vkAllocateCommandBuffers"
  | freeBuffer .. => some "vkFreeCommandBuffers"
  | beginBuffer .. => some "vkBeginCommandBuffer"
  | endBuffer .. => some "vkEndCommandBuffer"
  | resetBuffer .. => some "vkResetCommandBuffer"
  | createFence .. => some "vkCreateFence"
  | destroyFence .. => some "vkDestroyFence"
  | resetFence .. => some "vkResetFences"
  | waitFence .. => some "vkWaitForFences"
  | submit .. => some "vkQueueSubmit"

end Command

end VulkanExec
