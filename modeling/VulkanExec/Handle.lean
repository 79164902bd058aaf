/-!
# Handles

A driver names each of its objects by a 64-bit handle, and zero names none of them. The kind of
object is part of a handle's type, so a fence cannot be given where a queue is meant.

## Main definitions

- `ObjectKind`: the kinds of object that the driver hands out;
- `Handle kind`: the name of an object of that kind, with `Handle.null` for no object;
- `Handle.text`: the way a handle is written in messages.
-/

namespace VulkanExec

/-- The kinds of object that a driver names by handles. -/
inductive ObjectKind where
  | inst
  | messenger
  | physicalDevice
  | device
  | queue
  | pool
  | buffer
  | fence
  deriving DecidableEq, Repr

/-- The driver's name for an object of kind `kind`. -/
structure Handle (kind : ObjectKind) where
  value : UInt64
  deriving DecidableEq, Repr

abbrev InstanceHandle := Handle .inst
abbrev MessengerHandle := Handle .messenger
abbrev PhysicalDeviceHandle := Handle .physicalDevice
abbrev DeviceHandle := Handle .device
abbrev QueueHandle := Handle .queue
abbrev PoolHandle := Handle .pool
abbrev BufferHandle := Handle .buffer
abbrev FenceHandle := Handle .fence

namespace Handle

variable {kind : ObjectKind}

/-- The handle that names no object. -/
def null : Handle kind := ⟨0⟩

instance : Inhabited (Handle kind) := ⟨null⟩

/-- Whether the handle names no object. -/
def isNull (h : Handle kind) : Bool := h = null

/-- Lower-case hexadecimal digits after `0x`, without leading zeros. -/
def text (h : Handle kind) : String :=
  "0x" ++ String.ofList (Nat.toDigits 16 h.value.toNat)

end Handle

end VulkanExec
