import VulkanExec.Proofs.Ledger.Making

/-!
# Working with units

The turns of a unit name its own objects, and only the allocation makes new ones. A turn that fails
half way releases what it has made.

The main statement, `accounts_keptByTurns`, covers all operations of a unit but its retirement.
-/

namespace VulkanExec

variable {host : Object → Prop} {n : Nat} {l : Ledger} {hs : List Holder} {u v : WorkUnit}
  {events : List Event}

/-- An event at which nothing is asked, or a harmless command is answered. -/
def Event.Harmless (host : Object → Prop) (live : Multiset Entry) : Event → Prop
  | answered c _ => VulkanExec.Harmless host live c
  | noted _ => True

/-- Harmless events are permitted, and leave the live objects as they are. -/
theorem along_of_harmless (h : ∀ e ∈ events, e.Harmless host l.live) :
    (ledger host).Along (ledger host).permits l events ∧
      ((ledger host).after l events).live = l.live := by
  induction events generalizing l with
  | nil => exact ⟨trivial, rfl⟩
  | cons e events ih =>
    have hstep : (ledger host).permits l e ∧ ((ledger host).step l e).live = l.live := by
      cases e with
      | answered c answer =>
        obtain ⟨hquiet, hnamed⟩ := h (.answered c answer) List.mem_cons_self
        exact ⟨Ledger.allows_of_named (Command.released_of_isQuiet hquiet) hnamed,
          Ledger.live_after_of_isQuiet hquiet answer⟩
      | noted n => exact ⟨trivial, rfl⟩
    obtain ⟨hpermits, hlive⟩ := ih (l := (ledger host).step l e) fun x hx => by
      rw [hstep.2]
      exact h x (List.mem_cons_of_mem e hx)
    exact ⟨⟨hstep.1, hpermits⟩, hlive.trans hstep.2⟩

/-- A turn of harmless events changes nothing but the state of the unit. -/
theorem Accounts.turn_of_harmless (hacc : Accounts host n (.unit u :: hs) l.live)
    (h : ∀ e ∈ events, e.Harmless host l.live) (hdevice : v.device = u.device)
    (hpool : v.pool = u.pool) (hbuffer : v.buffer = u.buffer) (hfence : v.fence = u.fence) :
    (ledger host).Along (ledger host).permits l events ∧
      Accounts host n (.unit v :: hs) ((ledger host).after l events).live := by
  obtain ⟨hpermits, hlive⟩ := along_of_harmless h
  exact ⟨hpermits, hlive ▸ hacc.unit_eq hdevice hpool hbuffer hfence⟩

/-- A command on the objects of a unit that has a buffer names live ones. -/
theorem Accounts.harmless_of_named (hacc : Accounts host n (.unit u :: hs) l.live)
    (halloc : u.isAllocated) {c : Command} (hquiet : c.isQuiet)
    (hnamed : ∀ o ∈ c.named,
      o = u.device.handle.object ∨ o = u.buffer.object ∨ o = u.fence.object) :
    Harmless host l.live c := by
  refine ⟨hquiet, ?_⟩
  intro o ho
  obtain ⟨hbuffer, hfence⟩ := hacc.unit_known halloc
  rcases hnamed o ho with rfl | rfl | rfl
  · exact hacc.device_known (mem_devices.2 ⟨_, List.mem_cons_self, rfl⟩)
  · exact .inl hbuffer
  · exact .inl hfence

/-- The device and the raw pool of a unit are live. -/
theorem Accounts.pool_named (hacc : Accounts host n (.unit u :: hs) l.live) {raw : RawPool}
    (hraw : u.pool = some raw) :
    ∀ o ∈ [u.device.handle.object, raw.handle.object], o ∈ objects l.live ∨ host o := by
  have hdevice := hacc.device_known (mem_devices.2 ⟨_, List.mem_cons_self, rfl⟩)
  have hpool : raw.handle.object ∈ objects l.live := by
    rw [hacc.live_eq]
    exact pool_known (mem_rawPools.2 ⟨_, List.mem_cons_self, hraw⟩)
  rintro o (_ | ⟨_, _ | ⟨_, ⟨⟩⟩⟩)
  · exact hdevice
  · exact .inl hpool

/-- A buffer that gets no fence is freed again. -/
theorem Accounts.fenceFailed (hacc : Accounts host n (.unit u :: hs) l.live) {raw : RawPool}
    (hraw : u.pool = some raw) {buffer : BufferHandle} {code : ResultCode}
    (hfresh : buffer.object ∉ objects l.live) :
    (ledger host).Along (ledger host).permits l
        [.answered (.allocateBuffer u.device.handle raw.handle) (.ok buffer),
          .answered (.createFence u.device.handle false) (.error code),
          .answered (.freeBuffer u.device.handle raw.handle buffer) ()] ∧
      Accounts host n (.unit u :: hs) ((ledger host).after l
        [.answered (.allocateBuffer u.device.handle raw.handle) (.ok buffer),
          .answered (.createFence u.device.handle false) (.error code),
          .answered (.freeBuffer u.device.handle raw.handle buffer) ()]).live := by
  let made : Entry := ⟨buffer.object, [u.device.handle.object, raw.handle.object]⟩
  have hnamed := hacc.pool_named hraw
  have hnodup : (objects (made ::ₘ l.live)).Nodup := nodup_objects_cons hfresh hacc.nodup
  have hdevice : ∀ o ∈ [u.device.handle.object],
      o ∈ objects (made ::ₘ l.live) ∨ host o :=
    List.forall_mem_singleton.2
      ((hnamed _ List.mem_cons_self).imp_left mem_objects_cons_of_mem)
  have hfree : ∀ t : Ledger, t.live = made ::ₘ l.live →
      t.Allows host (.freeBuffer u.device.handle raw.handle buffer) := by
    intro t ht
    exact Ledger.allows_release ht (ht ▸ hnodup) hacc.closed hnamed rfl
      (by simp [Command.named, made]) (by simp)
  refine ⟨⟨Ledger.allows_of_named rfl hnamed, Ledger.allows_of_named rfl hdevice,
    hfree _ rfl, trivial⟩, ?_⟩
  show Accounts host n _ ((made ::ₘ l.live).filter (·.object ≠ made.object))
  rw [filter_ne_object hnodup]
  exact hacc

/-- An allocation makes a buffer and a fence, which the unit owns from then on. -/
theorem Accounts.allocated (hacc : Accounts host n (.unit u :: hs) l.live) {raw : RawPool}
    (hraw : u.pool = some raw) (halloc : u.isAllocated = false) {buffer : BufferHandle}
    {fence : FenceHandle}
    (hexpects : (ledger host).Along (ledger host).expects l
      [.answered (.allocateBuffer u.device.handle raw.handle) (.ok buffer),
        .answered (.createFence u.device.handle false) (.ok fence)]) :
    (ledger host).Along (ledger host).permits l
        [.answered (.allocateBuffer u.device.handle raw.handle) (.ok buffer),
          .answered (.createFence u.device.handle false) (.ok fence)] ∧
      Accounts host n (.unit { u with buffer, fence, state := .initial, inFlight := false } :: hs)
        ((ledger host).after l
          [.answered (.allocateBuffer u.device.handle raw.handle) (.ok buffer),
            .answered (.createFence u.device.handle false) (.ok fence)]).live := by
  obtain ⟨hbuffer, hfence, -⟩ := hexpects
  obtain ⟨hbuffer, hnotBuffer⟩ := hbuffer _ rfl
  obtain ⟨hfence, hnotFence⟩ := hfence _ rfl
  have hnamed := hacc.pool_named hraw
  have hnodup := nodup_objects_cons hnotBuffer hacc.nodup
  refine ⟨⟨Ledger.allows_of_named rfl hnamed, Ledger.allows_of_named rfl ?_, trivial⟩, ?_⟩
  · exact List.forall_mem_singleton.2
      ((hnamed _ List.mem_cons_self).imp_left mem_objects_cons_of_mem)
  · exact hacc.add_unit hraw halloc (Handle.isNull_eq_false hbuffer)
      (Handle.isNull_eq_false hfence) (nodup_objects_cons hnotFence hnodup)

/-- Turns keep the accounts. -/
theorem accounts_keptByTurns :
    WorkUnit.KeptByTurns (ledger host) fun u l => Accounts host n (.unit u :: hs) l.live := by
  intro u events v l hturn hacc hexpects
  cases hturn with
  | allocationFailed hpool halloc =>
    exact ⟨⟨Ledger.allows_of_named rfl (hacc.pool_named hpool), trivial⟩, hacc⟩
  | fenceFailed hpool halloc => exact hacc.fenceFailed hpool (hexpects.1 _ rfl).2
  | allocated hpool halloc => exact hacc.allocated hpool halloc hexpects
  | beginFailed halloc hstate | endFailed halloc hstate | fenceResetFailed halloc hstate hflight
  | waitFailed halloc hflight =>
    refine hacc.turn_of_harmless ?_ rfl rfl rfl rfl
    intro e he
    obtain rfl := List.mem_singleton.1 he
    exact hacc.harmless_of_named halloc rfl (by simp [Command.named])
  | begun halloc hstate | ended halloc hstate | submitFailed halloc hstate hflight
  | submitted halloc hstate hflight | timedOut halloc hflight | resetFailed halloc hflight
  | settled halloc hflight =>
    refine hacc.turn_of_harmless ?_ rfl rfl rfl rfl
    intro e he
    simp only [List.mem_cons, List.not_mem_nil, or_false] at he
    rcases he with rfl | rfl | rfl <;>
      first
        | trivial
        | exact hacc.harmless_of_named halloc rfl (by simp [Command.named])

end VulkanExec
