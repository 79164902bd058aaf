import VulkanExec.Context
import VulkanExec.WorkUnit

/-!
# Holders

Devices and raw pools are shared, and the last holder releases them. A holder is a value that a
caller keeps: dropping it releases what no other holder has.

## Main definitions

- `Holder`: the values that a caller keeps;
- `Holder.device?`, `Holder.rawPool?`: what a holder has a share in;
- `unitsOn`, `holdersOf`: how many holders share a raw pool and a device;
- `Holder.drop`: release a holder while others remain.
-/

namespace VulkanExec

/-- A value that a caller keeps. -/
inductive Holder where
  | context (context : Context)
  /-- A share of a device, apart from those of contexts, pools and units. -/
  | share (device : Device)
  | pool (pool : WorkPool)
  | unit (unit : WorkUnit)
  | inst (inst : Instance)
  /-- A bare device, which nobody releases. -/
  | bareDevice (device : DeviceHandle)

namespace Holder

/-- The device that a holder has a share in. -/
def device? : Holder → Option Device
  | context c => some c.device
  | share d => some d
  | pool p => some p.device
  | unit u => some u.device
  | inst _ | bareDevice _ => none

/-- The raw pool that a holder has a share in. -/
def rawPool? : Holder → Option RawPool
  | pool p => p.raw
  | unit u => u.pool
  | context _ | share _ | inst _ | bareDevice _ => none

/-- Whether a holder is a unit that has a share in a raw pool. -/
def isUnitOn (raw : RawPool) : Holder → Bool
  | unit u => (u.pool.map RawPool.stamp) == some raw.stamp
  | _ => false

end Holder

/-- The number of units that have a share in a raw pool. -/
def unitsOn (holders : List Holder) (raw : RawPool) : Nat := holders.countP (·.isUnitOn raw)

/-- Whether somebody has a share in a raw pool. -/
def poolHeld (holders : List Holder) (raw : RawPool) : Bool :=
  holders.any fun h => (h.rawPool?.map RawPool.stamp) == some raw.stamp

/-- Whether somebody has a share in a device. -/
def deviceHeld (holders : List Holder) (device : Device) : Bool :=
  holders.any fun h => (h.device?.map Device.stamp) == some device.stamp

/-- The raw pools on a device that somebody has a share in, each once. -/
def livePools (holders : List Holder) (device : Device) : List Nat :=
  ((holders.filterMap Holder.rawPool?).filter (·.device.stamp == device.stamp)
    |>.map RawPool.stamp).eraseDups

/-- The number of shares in a device: those of its holders and one for every raw pool on it. -/
def holdersOf (holders : List Holder) (device : Device) : Nat :=
  holders.countP (fun h => (h.device?.map Device.stamp) == some device.stamp) +
    (livePools holders device).length

/-- Destroy a raw pool unless one of the remaining holders has a share in it. -/
def releasePool (remaining : List Holder) (raw : RawPool) : Program Unit :=
  if poolHeld remaining raw then return () else raw.destroy

/-- Release a device unless one of the remaining holders has a share in it. -/
def releaseDevice (remaining : List Holder) (device : Device) : Program Unit :=
  if deviceHeld remaining device then return () else device.close

/-- Retire a unit, and destroy its raw pool with its last share. -/
def retireUnit (remaining : List Holder) (unit : WorkUnit) : Program WorkUnit := do
  let retired ← unit.retire
  if let some raw := unit.pool then releasePool remaining raw
  return retired

/-- Release a holder; the remaining ones keep what they share with it. -/
def Holder.drop (remaining : List Holder) : Holder → Program Unit
  | context c => do
    let others := holdersOf remaining c.device
    if others > 0 then
      .log .debug ("execution context dropped; " ++ toString others ++
        " other holder(s) keep the device alive")
    releaseDevice remaining c.device
  | share d => releaseDevice remaining d
  | pool p => do
    if let some raw := p.raw then releasePool remaining raw
    releaseDevice remaining p.device
  | unit u => do
    let _ ← retireUnit remaining u
    releaseDevice remaining u.device
  | inst i => i.close
  | bareDevice _ => return ()

end VulkanExec
