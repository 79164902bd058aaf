import VulkanExec.Device

/-!
# Work pools

A work pool stands for command buffers on one queue family. The driver's pool behind it is shared
with the units whose buffers come from it, and is destroyed with its last holder, so that no unit
outlives the pool of its buffer.

## Main definitions

- `RawPool`: the driver's pool, as its holders share it;
- `WorkPool`: a device, a family and, once created, the driver's pool;
- `WorkPool.bindTo`: create the driver's pool on a family;
- `WorkPool.release`: let go of it.

How many units hold the driver's pool is known to whoever knows all holders, and is handed in.
-/

namespace VulkanExec

/-- A pool of the driver, as its holders share it. -/
structure RawPool where
  /-- Tells this pool from every other one. -/
  stamp : Nat
  device : Device
  handle : PoolHandle
  deriving DecidableEq, Repr

/-- Destroy the driver's pool. -/
def RawPool.destroy (raw : RawPool) : Program Unit := do
  let _ ← .ask (.destroyPool raw.device.handle raw.handle)
  .log .debug ("command pool " ++ raw.handle.text ++ " destroyed")

/-- A pool on one queue family of a device. -/
structure WorkPool where
  device : Device
  raw : Option RawPool
  family : UInt32
  deriving DecidableEq, Repr

namespace WorkPool

/-- A pool for which the driver has created nothing yet. -/
def ofDevice (device : Device) : WorkPool := ⟨device, none, 0⟩

/-- The driver's pool; the null handle without one. -/
def handle (pool : WorkPool) : PoolHandle := (pool.raw.map RawPool.handle).getD .null

/-- Let go of the driver's pool, which the units that hold it keep alive. -/
def release (pool : WorkPool) (units : Nat) : Program WorkPool :=
  match pool.raw with
  | none => return pool
  | some raw => do
    if units = 0 then raw.destroy
    else .log .debug ("command pool kept alive by " ++ toString units ++ " unit(s)")
    return { pool with raw := none }

/-- Create the driver's pool on a family, for buffers that are reset one by one. The pool's family
is that of the last pool created. -/
def create (pool : WorkPool) (family : UInt32) (stamp : Nat) :
    Program (Except Error Unit × WorkPool) := do
  match ← .ask (.createPool pool.device.handle family resettableBuffers) with
  | .error result => return (.error (.poolCreationFailed result), pool)
  | .ok handle =>
    .log .debug ("command pool created for queue family " ++ toString family)
    return (.ok (), { pool with raw := some ⟨stamp, pool.device, handle⟩, family })

/-- See to it that the driver's pool is on the given family: one on another family is let go
first. -/
def bindTo (pool : WorkPool) (family : UInt32) (units stamp : Nat) :
    Program (Except Error Unit × WorkPool) :=
  if pool.raw.isSome && pool.family = family then return (.ok (), pool)
  else do
    let pool ← pool.release units
    pool.create family stamp

/-- The pool as debug output shows it. -/
def describe (pool : WorkPool) : String :=
  "WorkPool \x7b pool: " ++ pool.handle.text ++ ", queue_family_index: " ++
    toString pool.family ++ ", .. \x7d"

end WorkPool

end VulkanExec
