/-!
# The catalog of entry points

The functions of the driver that this library and those built on it call. A function is found by
its name: the global ones before there is an instance, all others with a live instance.

## Main definitions

- `EntryScope`: with which handle a name is resolved;
- `EntryPoint`: a function, its scope and whether it may be absent;
- `EntryPoint.catalog`: all of them;
- `EntryPoint.ofScope`: those of one scope, in the order of the catalog.
-/

namespace VulkanExec

/-- With which handle an entry point is resolved. -/
inductive EntryScope where
  /-- With the null instance, before any instance exists. -/
  | global
  /-- With a live instance. -/
  | perInstance
  deriving DecidableEq, Repr

/-- A function of the driver. -/
structure EntryPoint where
  name : String
  scope : EntryScope
  /-- Whether a table without the function is of no use. -/
  required : Bool
  deriving DecidableEq, Repr

namespace EntryPoint

def createMessenger : String := "vkCreateDebugUtilsMessengerEXT"

def destroyMessenger : String := "vkDestroyDebugUtilsMessengerEXT"

/-- The functions that work without an instance. -/
def globalNames : List String :=
  ["vkCreateInstance", "vkEnumerateInstanceExtensionProperties",
   "vkEnumerateInstanceLayerProperties"]

/-- The functions that every instance has to offer: those for the instance and its physical
devices, for pools, buffers and fences, and for what is built on top of them. -/
def instanceNames : List String :=
  ["vkDestroyInstance", "vkEnumeratePhysicalDevices", "vkGetPhysicalDeviceFeatures",
   "vkGetPhysicalDeviceProperties", "vkGetPhysicalDeviceMemoryProperties",
   "vkGetPhysicalDeviceQueueFamilyProperties", "vkEnumerateDeviceExtensionProperties",
   "vkGetDeviceProcAddr", "vkCreateDevice", "vkDestroyDevice", "vkGetDeviceQueue",
   "vkDeviceWaitIdle", "vkCreateCommandPool", "vkDestroyCommandPool", "vkAllocateCommandBuffers",
   "vkFreeCommandBuffers", "vkBeginCommandBuffer", "vkEndCommandBuffer", "vkResetCommandBuffer",
   "vkCreateFence", "vkDestroyFence", "vkResetFences", "vkWaitForFences", "vkQueueSubmit",
   "vkAllocateMemory", "vkFreeMemory", "vkMapMemory", "vkUnmapMemory", "vkCreateBuffer",
   "vkDestroyBuffer", "vkBindBufferMemory", "vkGetBufferMemoryRequirements", "vkCreateImage",
   "vkDestroyImage", "vkBindImageMemory", "vkGetImageMemoryRequirements", "vkCreateImageView",
   "vkDestroyImageView", "vkCreateShaderModule", "vkDestroyShaderModule",
   "vkCreateDescriptorSetLayout", "vkDestroyDescriptorSetLayout", "vkCreateDescriptorPool",
   "vkDestroyDescriptorPool", "vkAllocateDescriptorSets", "vkUpdateDescriptorSets",
   "vkCreatePipelineLayout", "vkDestroyPipelineLayout", "vkCreateComputePipelines",
   "vkCreateGraphicsPipelines", "vkDestroyPipeline", "vkCreateRenderPass", "vkDestroyRenderPass",
   "vkCreateFramebuffer", "vkDestroyFramebuffer", "vkCmdBindPipeline", "vkCmdBindDescriptorSets",
   "vkCmdBindVertexBuffers", "vkCmdDispatch", "vkCmdDraw", "vkCmdBeginRenderPass",
   "vkCmdEndRenderPass", "vkCmdCopyBuffer", "vkCmdCopyBufferToImage", "vkCmdCopyImageToBuffer",
   "vkCmdPipelineBarrier", "vkCmdPushConstants"]

/-- The functions that only the diagnostic callback needs. -/
def messengerNames : List String := [createMessenger, destroyMessenger]

/-- Every entry point, in the order in which names are resolved and reported. -/
def catalog : List EntryPoint :=
  globalNames.map (⟨·, .global, true⟩) ++ instanceNames.map (⟨·, .perInstance, true⟩) ++
    messengerNames.map (⟨·, .perInstance, false⟩)

/-- The entry points of one scope. -/
def ofScope (scope : EntryScope) : List EntryPoint := catalog.filter (·.scope = scope)

end EntryPoint

end VulkanExec
