import VulkanExec.Session.Basic
import VulkanExec.Proofs.WorkUnit.Turn

/-!
# Releases

The programs that release holders, written as sequences of single releases: a unit waits, frees its
fence and its buffer, and lets go of its pool; every holder lets go of its device last.

## Main definitions

- `Command.isTeardown`: the commands that releases are made of;
- `Command.device?`: the device that a command is for;
- `WorkUnit.dropFence`, `WorkUnit.dropBuffer`, `letGo`: the single releases.

The main statements are the equations `retireUnit_eq`, `drop_pool`, `drop_unit` and `drop_context`.
-/

namespace VulkanExec

/-- Whether the command destroys an object or waits for a device to have nothing to do. -/
def Command.isTeardown : Command → Bool
  | destroyInstance _ | destroyMessenger .. | destroyDevice _ | waitIdle _ | destroyPool ..
  | freeBuffer .. | destroyFence .. => true
  | _ => false

/-- The device whose functions a command calls. -/
def Command.device? : Command → Option DeviceHandle
  | destroyDevice d | waitIdle d | getQueue d _ _ | createPool d _ _ | destroyPool d _
  | allocateBuffer d _ | freeBuffer d _ _ | beginBuffer d _ _ | endBuffer d _ | resetBuffer d _
  | createFence d _ | destroyFence d _ | resetFence d _ | waitFence d _ _ | submit d _ _ _ => some d
  | _ => none

namespace WorkUnit

/-- Destroy the fence, if there is one. -/
def dropFence (u : WorkUnit) : Program Unit :=
  if u.fence.isNull then return ()
  else do
    let _ ← .ask (.destroyFence u.device.handle u.fence)
    return ()

/-- Free the buffer, if there is one. -/
def dropBuffer (u : WorkUnit) : Program Unit :=
  match u.pool with
  | none => return ()
  | some raw =>
    if u.isAllocated then do
      let _ ← .ask (.freeBuffer u.device.handle raw.handle u.buffer)
      return ()
    else return ()

theorem retire_eq (u : WorkUnit) : u.retire = do
    u.settle
    u.dropFence
    u.dropBuffer
    return u.retired := by
  unfold retire dropFence dropBuffer
  congr 1
  funext _
  cases u.fence.isNull <;> cases u.pool <;> cases u.isAllocated <;> rfl

end WorkUnit

/-- Let go of a share in a raw pool, if there is one. -/
def letGo (remaining : List Holder) : Option RawPool → Program Unit
  | none => return ()
  | some raw => releasePool remaining raw

theorem retireUnit_eq (remaining : List Holder) (u : WorkUnit) : retireUnit remaining u = do
    u.settle
    u.dropFence
    u.dropBuffer
    letGo remaining u.pool
    return u.retired := by
  simp only [retireUnit, WorkUnit.retire_eq, letGo, bind_assoc, pure_bind]
  cases u.pool <;> rfl

theorem runs_retireUnit {remaining : List Holder} {u v : WorkUnit} {events : List Event}
    (h : (retireUnit remaining u).Runs events v) : v = u.retired := by
  rw [retireUnit_eq] at h
  obtain ⟨_, _, _, _, _, hfence⟩ := Program.runs_bind_iff.1 h
  obtain ⟨_, _, _, _, _, hbuffer⟩ := Program.runs_bind_iff.1 hfence
  obtain ⟨_, _, _, _, _, hpool⟩ := Program.runs_bind_iff.1 hbuffer
  obtain ⟨_, _, _, _, _, hend⟩ := Program.runs_bind_iff.1 hpool
  exact (Program.runs_pure_iff.1 hend).2

theorem WorkPool.runs_release {p q : WorkPool} {units : Nat} {events : List Event}
    (h : (p.release units).Runs events q) : q = { p with raw := none } := by
  unfold release at h
  split at h
  next hnone =>
    obtain ⟨-, rfl⟩ := Program.runs_pure_iff.1 h
    obtain ⟨device, raw, family⟩ := q
    simpa using hnone
  next raw hraw =>
    split at h <;>
    · obtain ⟨_, _, _, _, _, hend⟩ := Program.runs_bind_iff.1 h
      exact (Program.runs_pure_iff.1 hend).2

namespace Holder

variable {remaining : List Holder}

theorem drop_pool (p : WorkPool) : (pool p).drop remaining =
    (do letGo remaining p.raw; releaseDevice remaining p.device) := by
  dsimp only [drop, letGo]
  cases p.raw <;> rfl

theorem drop_unit (u : WorkUnit) : (unit u).drop remaining =
    (do let _ ← retireUnit remaining u; releaseDevice remaining u.device) := rfl

/-- Tell how many others hold the device of a context, if there are any. -/
def tellOthers (remaining : List Holder) (c : Context) : Program Unit :=
  let others := holdersOf remaining c.device
  if others > 0 then
    .log .debug ("execution context dropped; " ++ toString others ++
      " other holder(s) keep the device alive")
  else return ()

theorem drop_context (c : Context) : (context c).drop remaining =
    (do tellOthers remaining c; releaseDevice remaining c.device) := by
  dsimp only [drop, tellOthers]
  split <;> rfl

end Holder

/-! ## Shares that others have -/

section Shared

variable {hs : List Holder} {h : Holder} {d : Device} {raw : RawPool}

theorem deviceHeld_of_mem (hmem : h ∈ hs) (hdevice : h.device? = some d) : deviceHeld hs d :=
  List.any_eq_true.2 ⟨h, hmem, by simp [hdevice]⟩

theorem poolHeld_of_mem (hmem : h ∈ hs) (hraw : h.rawPool? = some raw) : poolHeld hs raw :=
  List.any_eq_true.2 ⟨h, hmem, by simp [hraw]⟩

/-- A device stays as long as somebody has a share in it. -/
theorem releaseDevice_of_mem (hmem : h ∈ hs) (hdevice : h.device? = some d) :
    releaseDevice hs d = return () :=
  if_pos (deviceHeld_of_mem hmem hdevice)

/-- A raw pool stays as long as somebody has a share in it. -/
theorem letGo_of_mem (hmem : h ∈ hs) (hraw : h.rawPool? = some raw) :
    letGo hs (some raw) = return () :=
  if_pos (poolHeld_of_mem hmem hraw)

end Shared

/-! ## What releases ask for -/

section Only

open Program

variable {P : Command → Prop}

theorem only_drain {d : DeviceHandle} (h : P (.waitIdle d)) : Only P (Device.drain d) := by
  apply Only.bind (only_ask.2 h)
  intro answer
  cases answer <;> exact trivial

theorem only_instance_close {i : Instance} (h : P (.destroyInstance i.handle))
    (hm : ∀ callback, i.callback = some callback →
      P (.destroyMessenger i.handle callback.messenger)) : Only P i.close := by
  unfold Instance.close
  split
  · exact ⟨h, fun _ => trivial⟩
  · next callback hcallback => exact ⟨hm callback hcallback, fun _ => ⟨h, fun _ => trivial⟩⟩

/-- The last holder of a device waits for it, destroys it and closes its instance. -/
theorem only_releaseDevice_of_destroyDevice {remaining : List Holder} {d : Device}
    (hwait : P (.waitIdle d.handle)) (hdestroy : P (.destroyDevice d.handle))
    (hi : ∀ i, d.owner = some i → Only P i.close) : Only P (releaseDevice remaining d) := by
  unfold releaseDevice Device.close
  split
  · trivial
  · split
    · trivial
    · next i howner =>
      apply (only_drain hwait).bind
      intro _
      exact ⟨hdestroy, fun _ => hi i howner⟩

theorem only_releaseDevice {remaining : List Holder} {d : Device}
    (h : ∀ c : Command, c.isTeardown → c.device? = some d.handle → P c)
    (hi : ∀ i, d.owner = some i → Only P i.close) : Only P (releaseDevice remaining d) :=
  only_releaseDevice_of_destroyDevice (h _ rfl rfl) (h _ rfl rfl) hi

theorem only_letGo_of_destroyPool {remaining : List Holder} {pool : Option RawPool}
    (h : ∀ raw, pool = some raw → P (.destroyPool raw.device.handle raw.handle)) :
    Only P (letGo remaining pool) := by
  unfold letGo releasePool
  split
  · trivial
  · next raw =>
    split
    · trivial
    · exact ⟨h raw rfl, fun _ => trivial⟩

theorem only_letGo {remaining : List Holder} {pool : Option RawPool}
    (h : ∀ raw, pool = some raw →
      ∀ c : Command, c.isTeardown → c.device? = some raw.device.handle → P c) :
    Only P (letGo remaining pool) :=
  only_letGo_of_destroyPool fun raw hraw => h raw hraw _ rfl rfl

section Unit

variable {u : WorkUnit}

theorem only_settle_of_waitIdle (h : u.inFlight → P (.waitIdle u.device.handle)) :
    Only P u.settle := by
  unfold WorkUnit.settle
  split
  · next hflight => exact only_drain (h hflight)
  · trivial

theorem only_dropFence_of_destroyFence (h : P (.destroyFence u.device.handle u.fence)) :
    Only P u.dropFence := by
  unfold WorkUnit.dropFence
  split
  · trivial
  · exact ⟨h, fun _ => trivial⟩

theorem only_dropBuffer_of_freeBuffer
    (h : ∀ raw, u.pool = some raw → P (.freeBuffer u.device.handle raw.handle u.buffer)) :
    Only P u.dropBuffer := by
  unfold WorkUnit.dropBuffer
  split
  · trivial
  · next raw hraw =>
    split
    · exact ⟨h raw hraw, fun _ => trivial⟩
    · trivial

variable (h : ∀ c : Command, c.isTeardown → c.device? = some u.device.handle → P c)
include h

theorem only_dropFence : Only P u.dropFence := only_dropFence_of_destroyFence (h _ rfl rfl)

theorem only_dropBuffer : Only P u.dropBuffer :=
  only_dropBuffer_of_freeBuffer fun _ _ => h _ rfl rfl

theorem only_settle : Only P u.settle := only_settle_of_waitIdle fun _ => h _ rfl rfl

theorem only_retireUnit {remaining : List Holder}
    (hpool : ∀ raw, u.pool = some raw →
      ∀ c : Command, c.isTeardown → c.device? = some raw.device.handle → P c) :
    Only P (retireUnit remaining u) := by
  rw [retireUnit_eq]
  refine (only_settle h).bind fun _ => (only_dropFence h).bind fun _ => ?_
  exact (only_dropBuffer h).bind fun _ => (only_letGo hpool).bind fun _ => trivial

end Unit

/-- What is told about others is not asked of the driver. -/
theorem only_tellOthers {remaining : List Holder} {c : Context} :
    Only P (Holder.tellOthers remaining c) := by
  unfold Holder.tellOthers
  dsimp only
  split <;> trivial

theorem only_release {p : WorkPool} {units : Nat}
    (h : ∀ raw, p.raw = some raw → P (.destroyPool raw.device.handle raw.handle)) :
    Only P (p.release units) := by
  unfold WorkPool.release
  split
  · trivial
  · next raw hraw =>
    split
    · exact ⟨h raw hraw, fun _ => trivial⟩
    · trivial

theorem only_bindTo {p : WorkPool} {family : UInt32} {units stamp : Nat}
    (h : ∀ raw, p.raw = some raw → P (.destroyPool raw.device.handle raw.handle))
    (hcreate : ∀ d, P (.createPool d family resettableBuffers)) :
    Only P (p.bindTo family units stamp) := by
  unfold WorkPool.bindTo
  split
  · trivial
  · apply (only_release h).bind
    intro q
    refine ⟨hcreate _, fun answer => ?_⟩
    cases answer <;> trivial

/-- A drop does nothing but tear down. -/
theorem only_drop {remaining : List Holder} (h : ∀ c : Command, c.isTeardown → P c) (x : Holder) :
    Only P (x.drop remaining) := by
  have hclose (i : Instance) : Only P i.close := only_instance_close (h _ rfl) fun _ _ => h _ rfl
  have hdevice (d : Device) : Only P (releaseDevice remaining d) :=
    only_releaseDevice (fun c hc _ => h c hc) fun i _ => hclose i
  cases x with
  | context c =>
    rw [Holder.drop_context]
    exact only_tellOthers.bind fun _ => hdevice c.device
  | share d => exact hdevice d
  | pool p =>
    rw [Holder.drop_pool]
    exact (only_letGo fun _ _ c hc _ => h c hc).bind fun _ => hdevice p.device
  | unit u =>
    rw [Holder.drop_unit]
    have hretire : Only P (retireUnit remaining u) :=
      only_retireUnit (fun c hc _ => h c hc) fun _ _ c hc _ => h c hc
    exact hretire.bind fun _ => hdevice u.device
  | inst i => exact hclose i
  | bareDevice => trivial

end Only

end VulkanExec
