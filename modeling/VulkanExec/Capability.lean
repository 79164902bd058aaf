import VulkanExec.Text.WhiteSpace

/-!
# Capabilities

A capability is one optional feature of a physical device: a switch of the feature structure that
the driver fills in. A table has a row for each capability, with the field in which it is read and
switched on and with the name of that field. Whatever is done with a capability goes through its
row, which stands at the place of the capability in the declaration.

## Main definitions

- `Capability`: the fifty-five features;
- `FeatureField`: the words of the feature structure;
- `CapabilityRow`, `Capability.table`, `Capability.entry`: the table, and the row of a capability;
- `Capability.all`: all of them, in the order of the table;
- `Capability.name`: the field name;
- `Capability.ofName?`: the capability with exactly that name;
- `Capability.parse?`: the same for a text with white space around the name.
-/

namespace VulkanExec

/-- An optional feature of a physical device. -/
inductive Capability where
  | robustBufferAccess
  | fullDrawIndexUint32
  | imageCubeArray
  | independentBlend
  | geometryShader
  | tessellationShader
  | sampleRateShading
  | dualSrcBlend
  | logicOp
  | multiDrawIndirect
  | drawIndirectFirstInstance
  | depthClamp
  | depthBiasClamp
  | fillModeNonSolid
  | depthBounds
  | wideLines
  | largePoints
  | alphaToOne
  | multiViewport
  | samplerAnisotropy
  | textureCompressionEtc2
  | textureCompressionAstcLdr
  | textureCompressionBc
  | occlusionQueryPrecise
  | pipelineStatisticsQuery
  | vertexPipelineStoresAndAtomics
  | fragmentStoresAndAtomics
  | shaderTessellationAndGeometryPointSize
  | shaderImageGatherExtended
  | shaderStorageImageExtendedFormats
  | shaderStorageImageMultisample
  | shaderStorageImageReadWithoutFormat
  | shaderStorageImageWriteWithoutFormat
  | shaderUniformBufferArrayDynamicIndexing
  | shaderSampledImageArrayDynamicIndexing
  | shaderStorageBufferArrayDynamicIndexing
  | shaderStorageImageArrayDynamicIndexing
  | shaderClipDistance
  | shaderCullDistance
  | shaderFloat64
  | shaderInt64
  | shaderInt16
  | shaderResourceResidency
  | shaderResourceMinLod
  | sparseBinding
  | sparseResidencyBuffer
  | sparseResidencyImage2D
  | sparseResidencyImage3D
  | sparseResidency2Samples
  | sparseResidency4Samples
  | sparseResidency8Samples
  | sparseResidency16Samples
  | sparseResidencyAliased
  | variableMultisampleRate
  | inheritedQueries
  deriving DecidableEq, Repr

/-- A word of the feature structure, in the order of the structure. -/
inductive FeatureField where
  | robustBufferAccess
  | fullDrawIndexUint32
  | imageCubeArray
  | independentBlend
  | geometryShader
  | tessellationShader
  | sampleRateShading
  | dualSrcBlend
  | logicOp
  | multiDrawIndirect
  | drawIndirectFirstInstance
  | depthClamp
  | depthBiasClamp
  | fillModeNonSolid
  | depthBounds
  | wideLines
  | largePoints
  | alphaToOne
  | multiViewport
  | samplerAnisotropy
  | textureCompressionETC2
  | textureCompressionASTC_LDR
  | textureCompressionBC
  | occlusionQueryPrecise
  | pipelineStatisticsQuery
  | vertexPipelineStoresAndAtomics
  | fragmentStoresAndAtomics
  | shaderTessellationAndGeometryPointSize
  | shaderImageGatherExtended
  | shaderStorageImageExtendedFormats
  | shaderStorageImageMultisample
  | shaderStorageImageReadWithoutFormat
  | shaderStorageImageWriteWithoutFormat
  | shaderUniformBufferArrayDynamicIndexing
  | shaderSampledImageArrayDynamicIndexing
  | shaderStorageBufferArrayDynamicIndexing
  | shaderStorageImageArrayDynamicIndexing
  | shaderClipDistance
  | shaderCullDistance
  | shaderFloat64
  | shaderInt64
  | shaderInt16
  | shaderResourceResidency
  | shaderResourceMinLod
  | sparseBinding
  | sparseResidencyBuffer
  | sparseResidencyImage2D
  | sparseResidencyImage3D
  | sparseResidency2Samples
  | sparseResidency4Samples
  | sparseResidency8Samples
  | sparseResidency16Samples
  | sparseResidencyAliased
  | variableMultisampleRate
  | inheritedQueries
  deriving DecidableEq, Repr

/-- What is known of a capability. -/
structure CapabilityRow where
  capability : Capability
  /-- The field in which the capability is read, and in which it is switched on. -/
  field : FeatureField
  /-- The name of that field. -/
  name : String
  deriving DecidableEq, Repr

namespace Capability

/-- The rows of all capabilities. -/
def table : List CapabilityRow :=
  [⟨.robustBufferAccess, .robustBufferAccess, "robustBufferAccess"⟩,
   ⟨.fullDrawIndexUint32, .fullDrawIndexUint32, "fullDrawIndexUint32"⟩,
   ⟨.imageCubeArray, .imageCubeArray, "imageCubeArray"⟩,
   ⟨.independentBlend, .independentBlend, "independentBlend"⟩,
   ⟨.geometryShader, .geometryShader, "geometryShader"⟩,
   ⟨.tessellationShader, .tessellationShader, "tessellationShader"⟩,
   ⟨.sampleRateShading, .sampleRateShading, "sampleRateShading"⟩,
   ⟨.dualSrcBlend, .dualSrcBlend, "dualSrcBlend"⟩,
   ⟨.logicOp, .logicOp, "logicOp"⟩,
   ⟨.multiDrawIndirect, .multiDrawIndirect, "multiDrawIndirect"⟩,
   ⟨.drawIndirectFirstInstance, .drawIndirectFirstInstance, "drawIndirectFirstInstance"⟩,
   ⟨.depthClamp, .depthClamp, "depthClamp"⟩,
   ⟨.depthBiasClamp, .depthBiasClamp, "depthBiasClamp"⟩,
   ⟨.fillModeNonSolid, .fillModeNonSolid, "fillModeNonSolid"⟩,
   ⟨.depthBounds, .depthBounds, "depthBounds"⟩,
   ⟨.wideLines, .wideLines, "wideLines"⟩,
   ⟨.largePoints, .largePoints, "largePoints"⟩,
   ⟨.alphaToOne, .alphaToOne, "alphaToOne"⟩,
   ⟨.multiViewport, .multiViewport, "multiViewport"⟩,
   ⟨.samplerAnisotropy, .samplerAnisotropy, "samplerAnisotropy"⟩,
   ⟨.textureCompressionEtc2, .textureCompressionETC2, "textureCompressionETC2"⟩,
   ⟨.textureCompressionAstcLdr, .textureCompressionASTC_LDR, "textureCompressionASTC_LDR"⟩,
   ⟨.textureCompressionBc, .textureCompressionBC, "textureCompressionBC"⟩,
   ⟨.occlusionQueryPrecise, .occlusionQueryPrecise, "occlusionQueryPrecise"⟩,
   ⟨.pipelineStatisticsQuery, .pipelineStatisticsQuery, "pipelineStatisticsQuery"⟩,
   ⟨.vertexPipelineStoresAndAtomics, .vertexPipelineStoresAndAtomics,
    "vertexPipelineStoresAndAtomics"⟩,
   ⟨.fragmentStoresAndAtomics, .fragmentStoresAndAtomics, "fragmentStoresAndAtomics"⟩,
   ⟨.shaderTessellationAndGeometryPointSize, .shaderTessellationAndGeometryPointSize,
    "shaderTessellationAndGeometryPointSize"⟩,
   ⟨.shaderImageGatherExtended, .shaderImageGatherExtended, "shaderImageGatherExtended"⟩,
   ⟨.shaderStorageImageExtendedFormats, .shaderStorageImageExtendedFormats,
    "shaderStorageImageExtendedFormats"⟩,
   ⟨.shaderStorageImageMultisample, .shaderStorageImageMultisample,
    "shaderStorageImageMultisample"⟩,
   ⟨.shaderStorageImageReadWithoutFormat, .shaderStorageImageReadWithoutFormat,
    "shaderStorageImageReadWithoutFormat"⟩,
   ⟨.shaderStorageImageWriteWithoutFormat, .shaderStorageImageWriteWithoutFormat,
    "shaderStorageImageWriteWithoutFormat"⟩,
   ⟨.shaderUniformBufferArrayDynamicIndexing, .shaderUniformBufferArrayDynamicIndexing,
    "shaderUniformBufferArrayDynamicIndexing"⟩,
   ⟨.shaderSampledImageArrayDynamicIndexing, .shaderSampledImageArrayDynamicIndexing,
    "shaderSampledImageArrayDynamicIndexing"⟩,
   ⟨.shaderStorageBufferArrayDynamicIndexing, .shaderStorageBufferArrayDynamicIndexing,
    "shaderStorageBufferArrayDynamicIndexing"⟩,
   ⟨.shaderStorageImageArrayDynamicIndexing, .shaderStorageImageArrayDynamicIndexing,
    "shaderStorageImageArrayDynamicIndexing"⟩,
   ⟨.shaderClipDistance, .shaderClipDistance, "shaderClipDistance"⟩,
   ⟨.shaderCullDistance, .shaderCullDistance, "shaderCullDistance"⟩,
   ⟨.shaderFloat64, .shaderFloat64, "shaderFloat64"⟩,
   ⟨.shaderInt64, .shaderInt64, "shaderInt64"⟩,
   ⟨.shaderInt16, .shaderInt16, "shaderInt16"⟩,
   ⟨.shaderResourceResidency, .shaderResourceResidency, "shaderResourceResidency"⟩,
   ⟨.shaderResourceMinLod, .shaderResourceMinLod, "shaderResourceMinLod"⟩,
   ⟨.sparseBinding, .sparseBinding, "sparseBinding"⟩,
   ⟨.sparseResidencyBuffer, .sparseResidencyBuffer, "sparseResidencyBuffer"⟩,
   ⟨.sparseResidencyImage2D, .sparseResidencyImage2D, "sparseResidencyImage2D"⟩,
   ⟨.sparseResidencyImage3D, .sparseResidencyImage3D, "sparseResidencyImage3D"⟩,
   ⟨.sparseResidency2Samples, .sparseResidency2Samples, "sparseResidency2Samples"⟩,
   ⟨.sparseResidency4Samples, .sparseResidency4Samples, "sparseResidency4Samples"⟩,
   ⟨.sparseResidency8Samples, .sparseResidency8Samples, "sparseResidency8Samples"⟩,
   ⟨.sparseResidency16Samples, .sparseResidency16Samples, "sparseResidency16Samples"⟩,
   ⟨.sparseResidencyAliased, .sparseResidencyAliased, "sparseResidencyAliased"⟩,
   ⟨.variableMultisampleRate, .variableMultisampleRate, "variableMultisampleRate"⟩,
   ⟨.inheritedQueries, .inheritedQueries, "inheritedQueries"⟩]

/-- The place of a capability in the declaration. -/
def index (c : Capability) : Nat := c.ctorIdx

theorem index_lt_length (c : Capability) : c.index < table.length := by
  cases c <;> decide

/-- The row of a capability: the one that its place in the declaration gives. -/
def entry (c : Capability) : CapabilityRow := table.get ⟨c.index, c.index_lt_length⟩

/-- Every capability, in the order of the table. -/
def all : List Capability := table.map CapabilityRow.capability

/-- The name of the capability's field. -/
def name (c : Capability) : String := c.entry.name

/-- The capability that bears this very name. -/
def ofName? (name : String) : Option Capability :=
  (table.find? (·.name == name)).map CapabilityRow.capability

/-- The capability that a text names, white space at its ends aside. -/
def parse? (text : String) : Option Capability := ofName? (Text.trim text)

/-- The table has the rows in the order of the declaration. -/
@[simp]
theorem capability_entry (c : Capability) : c.entry.capability = c := by
  cases c <;> rfl

theorem entry_mem_table (c : Capability) : c.entry ∈ table := List.get_mem ..

/-- Every row is that of its capability. -/
theorem entry_of_mem_table : ∀ row ∈ table, row.capability.entry = row := by
  decide +kernel

/-- Every field has a row. -/
theorem mem_fields (field : FeatureField) : field ∈ table.map CapabilityRow.field := by
  cases field <;> decide

theorem mem_all (c : Capability) : c ∈ all :=
  List.mem_map.2 ⟨c.entry, c.entry_mem_table, c.capability_entry⟩

end Capability

end VulkanExec
