import VulkanExec.Candidate
import VulkanExec.Instance

/-!
# Logical devices

A logical device is shared by a context and by the pools and units made from it. A device created
here is destroyed with its last holder, and the instance that it was created from right after it.
A device that the caller brought is never destroyed.

## Main definitions

- `Device`: a shared device, and the instance to release after it if it was created here;
- `createDevice`: create a device with one queue;
- `Device.close`: what the last holder does.

Two devices are told apart by their stamps, since a driver may give out a handle twice.
-/

namespace VulkanExec

/-- A logical device as its holders share it. -/
structure Device where
  /-- Tells this device from every other one. -/
  stamp : Nat
  handle : DeviceHandle
  /-- The instance that is released with the device; there is none for the caller's own device. -/
  owner : Option Instance
  deriving DecidableEq, Repr

/-- The request for a device on which exactly the given capabilities are on. -/
def deviceSpec (family : UInt32) (capabilities : List Capability) (extensions : List String) :
    Except Error DeviceSpec := do
  driverNames "required_extensions" extensions
  return { family, features := Features.requesting capabilities, extensions }

/-- Create a device with a single queue of the given family. A device whose queue cannot be had is
destroyed again. -/
def createDevice (inst : InstanceHandle) (physical : PhysicalDeviceHandle) (family : UInt32)
    (capabilities : List Capability) (extensions : List String) :
    Program (Except Error (DeviceHandle × QueueHandle)) :=
  match deviceSpec family capabilities extensions with
  | .error e => return .error e
  | .ok request => do
    match ← .ask (.createDevice inst physical request) with
    | .error result => return .error (.deviceCreationFailed result)
    | .ok device =>
      let queue ← .ask (.getQueue device family 0)
      if queue.isNull then
        let _ ← .ask (.destroyDevice device)
        return .error (.queueUnavailable family)
      else return .ok (device, queue)

namespace Device

/-- Whether the device was created here. -/
def createdHere (device : Device) : Bool := device.owner.isSome

/-- Wait until the device has nothing to do. That it cannot wait does not stop a release. -/
def drain (device : DeviceHandle) : Program Unit := do
  match ← .ask (.waitIdle device) with
  | .ok () => return ()
  | .error result =>
    .log .warn ("vkDeviceWaitIdle failed during shutdown: " ++ result.text)

/-- The release by the last holder: nothing for the caller's own device. -/
def close (device : Device) : Program Unit :=
  match device.owner with
  | none => return ()
  | some inst => do
    drain device.handle
    let _ ← .ask (.destroyDevice device.handle)
    .log .info "logical device destroyed"
    inst.close

/-- The device as debug output shows it. -/
def describe (device : Device) : String :=
  "LogicalDevice \x7b handle: " ++ device.handle.text ++ ", owned: " ++
    toString device.createdHere ++ " \x7d"

end Device

end VulkanExec
