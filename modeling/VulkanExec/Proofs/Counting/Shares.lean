import VulkanExec.Proofs.WorkUnit.Representation

/-!
# Shares that can be counted

Whatever a driver answers, the holders of a session agree on what they share: stamps tell devices
and raw pools apart, a raw pool is held along with its device, it belongs to at most one work pool,
and a device to at most one context. So the shares of a device or of a raw pool can be counted by
sorts of holders.

## Main definitions

- `Holder.ownDevice?`: the device that a context has;
- `Counted`: holders that agree on what they share.

The main statement is `Session.counted_of_run`; nothing is asked of the handles that a driver gives
out.
-/

namespace VulkanExec

open Program

/-- The device that a context has. -/
def Holder.ownDevice? : Holder → Option Device
  | context c => some c.device
  | _ => none

/-- Holders that agree on what they share: a raw pool is held along with its device, and no two
contexts have the same device. -/
structure Counted (n : Nat) (hs : List Holder) : Prop extends Shared n hs where
  pool : ∀ h ∈ hs, ∀ raw, h.rawPool? = some raw → h.device? = some raw.device
  single : (hs.filterMap Holder.ownDevice?).Nodup

section Counted

variable {n m : Nat} {h x y : Holder} {hs hs' : List Holder} {c : Context} {d : Device}
  {p q : WorkPool} {u v : WorkUnit} {raw : RawPool} {events : List Event}

theorem counted_nil : Counted n [] where
  deviceStamps := ⟨by simp [devices], by simp [devices]⟩
  poolStamps := ⟨by simp [rawPools], by simp [rawPools]⟩
  once := by simp
  pool := by simp
  single := by simp

theorem Counted.mono (h : Counted n hs) (hn : n ≤ m) : Counted m hs :=
  { h with
    deviceStamps := h.deviceStamps.mono subset_rfl hn
    poolStamps := h.poolStamps.mono subset_rfl hn }

theorem Counted.perm (h : Counted n hs) (hperm : hs.Perm hs') : Counted n hs' where
  deviceStamps := devices_perm hperm ▸ h.deviceStamps
  poolStamps := rawPools_perm hperm ▸ h.poolStamps
  once := (hperm.filterMap _).nodup_iff.1 h.once
  pool x hx := h.pool x (hperm.mem_iff.2 hx)
  single := (hperm.filterMap _).nodup_iff.1 h.single

theorem Counted.tail (h : Counted n (x :: hs)) : Counted n hs where
  toShared := h.toShared.tail
  pool y hy := h.pool y (List.mem_cons_of_mem x hy)
  single := h.single.sublist ((List.sublist_cons_self x hs).filterMap _)

/-- A holder of what others share as well may come. -/
theorem Counted.hold (h : Counted n hs) (hdevice : ∀ d, y.device? = some d → d ∈ devices hs)
    (hpool : ∀ raw, y.rawPool? = some raw → raw ∈ rawPools hs ∧ y.device? = some raw.device)
    (hown : y.ownPool? = none) (hcontext : y.ownDevice? = none) : Counted n (y :: hs) where
  deviceStamps := by
    have hsame : devices (y :: hs) ⊆ devices hs := by
      rw [devices_cons]
      refine Finset.union_subset (fun d hd => hdevice d ?_) subset_rfl
      simpa [eq_comm] using hd
    exact h.deviceStamps.mono hsame le_rfl
  poolStamps := by
    have hsame : rawPools (y :: hs) ⊆ rawPools hs := by
      rw [rawPools_cons]
      refine Finset.union_subset (fun raw hraw => (hpool raw ?_).1) subset_rfl
      simpa [eq_comm] using hraw
    exact h.poolStamps.mono hsame le_rfl
  once := by simpa [hown] using h.once
  pool := List.forall_mem_cons.2 ⟨fun raw hraw => (hpool raw hraw).2, h.pool⟩
  single := by simpa [hcontext] using h.single

/-- The first holder may give way to one on the same device that shares no more. -/
theorem Counted.replace (h : Counted n (x :: hs)) (hdevice : y.device? = x.device?)
    (hpool : ∀ raw, y.rawPool? = some raw → x.rawPool? = some raw)
    (hown : ∀ raw, y.ownPool? = some raw → x.ownPool? = some raw)
    (hcontext : y.ownDevice? = none) : Counted n (y :: hs) where
  deviceStamps := by
    have hsame : devices (y :: hs) = devices (x :: hs) := by
      rw [devices_cons, devices_cons, hdevice]
    exact hsame ▸ h.deviceStamps
  poolStamps := by
    have hsub : rawPools (y :: hs) ⊆ rawPools (x :: hs) := by
      rw [rawPools_cons, rawPools_cons]
      refine Finset.union_subset_union_left fun raw hraw => ?_
      simpa [eq_comm] using hpool raw (by simpa [eq_comm] using hraw)
    exact h.poolStamps.mono hsub le_rfl
  once := by
    cases hy : y.ownPool? with
    | none => simpa [hy] using h.toShared.tail.once
    | some raw => simpa [hy, hown raw hy] using h.once
  pool := by
    refine List.forall_mem_cons.2 ⟨fun raw hraw => ?_, h.tail.pool⟩
    rw [hdevice]
    exact h.pool x List.mem_cons_self raw (hpool raw hraw)
  single := by simpa [hcontext] using h.tail.single

/-- A context may come with a new device. -/
theorem Counted.add_context (h : Counted n hs) (hstamp : c.device.stamp = n) :
    Counted (n + 1) (.context c :: hs) where
  deviceStamps := by
    rw [devices_cons, Holder.device?, Option.toFinset_some, ← Finset.insert_eq]
    exact h.deviceStamps.insert hstamp
  poolStamps := by
    have hsame : rawPools (.context c :: hs) = rawPools hs := by
      simp [rawPools_cons, Holder.rawPool?]
    exact hsame ▸ h.poolStamps.mono subset_rfl (Nat.le_succ n)
  once := h.once
  pool := List.forall_mem_cons.2 ⟨nofun, h.pool⟩
  single := by
    refine List.nodup_cons.2 ⟨fun hm => h.deviceStamps.notMem hstamp ?_, h.single⟩
    obtain ⟨x, hx, hown⟩ := List.mem_filterMap.1 hm
    cases x with
    | context c' => exact mem_devices.2 ⟨_, hx, hown⟩
    | share | pool | unit | inst | bareDevice => cases hown

/-- The first pool may take on a new raw pool. -/
theorem Counted.add_pool (h : Counted n (.pool p :: hs)) (hq : q.raw = some raw)
    (hdevice : q.device = p.device) (hraw : raw.device = p.device) (hstamp : raw.stamp = n) :
    Counted (n + 1) (.pool q :: hs) where
  toShared := h.toShared.add_pool hq hdevice hstamp
  pool := by
    refine List.forall_mem_cons.2 ⟨fun raw' hraw' => ?_, h.tail.pool⟩
    obtain rfl : raw = raw' := by simpa [Holder.rawPool?, hq] using hraw'
    rw [Holder.device?, hdevice, hraw]
  single := h.single

/-- A new pool may be made for a device that somebody has a share in. -/
theorem Counted.new_pool (h : Counted n hs) (hd : d ∈ devices hs) :
    Counted n (.pool (.ofDevice d) :: hs) :=
  h.hold (fun _ hsame => Option.some.inj hsame ▸ hd) nofun rfl rfl

/-- A new unit shares the raw pool behind a pool, and its device. -/
theorem Counted.new_unit (h : Counted n hs) (hp : .pool p ∈ hs) {queue : QueueHandle} :
    Counted n (.unit (.ofPool p queue) :: hs) := by
  refine h.hold ?_ ?_ rfl rfl
  · rintro d ⟨⟩
    exact mem_devices.2 ⟨_, hp, rfl⟩
  · intro raw hraw
    exact ⟨mem_rawPools.2 ⟨_, hp, hraw⟩, h.pool _ hp raw hraw⟩

theorem Counted.turns (h : Counted n (.unit u :: hs)) (hturns : u.Turns events v) :
    Counted n (.unit v :: hs) := by
  refine h.replace (congrArg some hturns.continues.device) (fun raw hraw => ?_) nofun rfl
  exact hturns.continues.pool.symm.trans hraw

theorem Counted.release (h : Counted n (.pool p :: hs)) :
    Counted n (.pool { p with raw := none } :: hs) := h.replace rfl nofun nofun rfl

theorem Counted.bind {family : UInt32} {units : Nat} {r : Except Error Unit × WorkPool}
    (h : Counted n (.pool p :: hs)) (hbinding : p.Binding family units n events r) :
    Counted (n + 1) (.pool r.2 :: hs) := by
  cases hbinding with
  | bound => exact h.mono (Nat.le_succ n)
  | refused => exact h.release.mono (Nat.le_succ n)
  | created => exact h.add_pool rfl rfl rfl rfl

end Counted

namespace Session

variable {s : Session} {operation : Operation} {operations : List Operation}
  {outcomes : List Outcome} {events : List Event} {h : Holder} {name : String}
  {r : Outcome × Session}

/-- A session without one holder is counted with another one in its place. -/
theorem counted_of_get? (hs : Counted s.nextStamp s.all) (hget : s.get? name = some h) :
    Counted s.nextStamp (h :: (s.erase name).all) := hs.perm (all_perm hget)

theorem Making.counted (hmaking : Making s operation events h) (hs : Counted s.nextStamp s.all) :
    Counted (s.spent operation).nextStamp (h :: s.all) := by
  cases hmaking with
  | establish establishing => exact hs.add_context (Context.stamp_of_establish establishing)
  | adopt adopting => exact hs.add_context (by rw [Context.device_of_adopt adopting])
  | shareDevice hd =>
    obtain ⟨x, hx, hxd⟩ := holder_of_device? hd
    refine hs.hold (fun d hd => ?_) nofun rfl rfl
    exact Option.some.inj hd ▸ mem_devices.2 ⟨x, hx, hxd⟩
  | openPool hc binding =>
    have hd := mem_devices.2 ⟨_, mem_all_of_get? (get?_of_context? hc), rfl⟩
    exact (hs.new_pool hd).bind (WorkPool.runs_bindTo binding)
  | newPool hd =>
    obtain ⟨x, hx, hxd⟩ := holder_of_device? hd
    exact hs.new_pool (mem_devices.2 ⟨x, hx, hxd⟩)
  | openUnit hp _ allocating =>
    exact (hs.new_unit (mem_all_of_get? (get?_of_pool? hp))).turns
      (WorkUnit.turns_allocate allocating)
  | newUnit hp => exact hs.new_unit (mem_all_of_get? (get?_of_pool? hp))

theorem counted_spent (hs : Counted s.nextStamp s.all) :
    Counted (s.spent operation).nextStamp (s.spent operation).all := by
  rw [all_spent]
  unfold spent
  split
  · exact hs.mono (Nat.le_succ _)
  · exact hs

/-- A step keeps holders counted. -/
theorem Step.counted (hstep : Step s operation events r) (hs : Counted s.nextStamp s.all) :
    Counted r.2.nextStamp r.2.all := by
  cases hstep with
  | absent => exact hs
  | failed => exact counted_spent hs
  | @made _ _ _ h making replacing =>
    have hmade := making.counted hs
    rw [all_set, all_erase_spent]
    cases replacing with
    | vacant hget => rwa [erase_of_get?_eq_none hget]
    | former hget =>
      exact (hmade.perm (((all_perm hget).cons h).trans (.swap _ h _))).tail
  | worked hwork hu working =>
    rw [update_snd]
    exact (counted_of_get? hs hu).turns (Operation.turns_of_work? hwork working)
  | retired hu => exact (counted_of_get? hs hu).replace rfl nofun nofun rfl
  | bound hp binding =>
    rw [update_snd, all_set, all_erase_spent]
    exact (counted_of_get? hs hp).bind (WorkPool.runs_bindTo binding)
  | released hp => exact (counted_of_get? hs hp).release
  | closed hc => exact (counted_of_get? hs hc).tail
  | dropped hget => exact (counted_of_get? hs hget).tail

/-- After any operations, the holders of a session are counted. -/
theorem counted_of_run (hrun : (empty.run operations).Runs events (outcomes, s)) :
    Counted s.nextStamp s.all :=
  run_induction (I := fun _ _ s => Counted s.nextStamp s.all) hrun counted_nil
    fun _ _ _ hstep => hstep.counted

end Session

end VulkanExec
