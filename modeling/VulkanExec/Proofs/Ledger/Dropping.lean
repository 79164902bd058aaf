import VulkanExec.Proofs.Ledger.Holding

/-!
# Dropping holders

What a holder alone owns is released when it is dropped, and nothing else. The holder that is
dropped stands in front of the others, so that a drop takes the first holder off the accounts.

The main statement, `Accounts.drop`, is about any holder; it is put together from the releases of
instances, devices, raw pools and units.
-/

namespace VulkanExec

variable {host : Object → Prop} {n : Nat} {l : Ledger} {rest : Multiset Entry}
  {h h' : Holder} {hs : List Holder} {d : Device} {raw : RawPool} {u : WorkUnit}

/-! ## Instances and devices -/

theorem meets_instance_close {i : Instance} (hlive : l.live = i.entries + rest)
    (hnodup : (objects l.live).Nodup) (hrest : Closed host rest) :
    (ledger host).Meets i.close l fun _ t => t.live = rest := by
  obtain ⟨handle, callback⟩ := i
  cases callback with
  | none =>
    have hlive : l.live = ⟨handle.object, []⟩ ::ₘ rest := by simpa [Instance.entries] using hlive
    refine meets_release hlive hnodup hrest (by simp) rfl (by simp [Command.named]) (by simp) ?_
    intro _ t ht
    exact Monitor.meets_note trivial (Monitor.meets_done ht)
  | some callback =>
    have hlive : l.live = ⟨callback.messenger.object, [handle.object]⟩ ::ₘ
        ⟨handle.object, []⟩ ::ₘ rest := by simpa [Instance.entries] using hlive
    refine meets_release hlive hnodup (hrest.cons (by simp)) (by simp) rfl
      (by simp [Command.named]) (by simp) fun _ t ht => ?_
    rw [hlive] at hnodup
    have hnodup' : (objects t.live).Nodup := ht ▸ nodup_objects_tail hnodup
    refine meets_release ht hnodup' hrest (by simp) rfl (by simp [Command.named]) (by simp) ?_
    intro _ t ht
    exact Monitor.meets_note trivial (Monitor.meets_note trivial (Monitor.meets_done ht))

/-- A device has nothing to do after it was waited for, whatever the driver says to the wait. -/
theorem meets_drain {d : DeviceHandle} (hd : d.object ∈ objects l.live ∨ host d.object) :
    (ledger host).Meets (Device.drain d) l fun _ t => t.live = l.live ∧ d ∈ t.idle := by
  apply Monitor.meets_ask
  intro answer _
  constructor
  · exact Ledger.allows_of_named rfl (by simpa [Command.named] using hd)
  · have hidle : d ∈ (l.after (.answered (.waitIdle d) answer)).idle := List.mem_cons_self
    cases answer with
    | error code => exact Monitor.meets_note trivial (Monitor.meets_done ⟨rfl, hidle⟩)
    | ok => exact Monitor.meets_done ⟨rfl, hidle⟩

theorem meets_device_close (hlive : l.live = d.entries + rest) (hnodup : (objects l.live).Nodup)
    (hrest : Closed host rest) : (ledger host).Meets d.close l fun _ t => t.live = rest := by
  unfold Device.close
  unfold Device.entries at hlive
  split
  next howner =>
    rw [howner, zero_add] at hlive
    exact Monitor.meets_done hlive
  next i howner =>
    rw [howner, Multiset.cons_add] at hlive
    have hknown : d.handle.object ∈ objects l.live := by simp [hlive]
    apply (meets_drain (.inl hknown)).bind
    intro _ t hdrained
    obtain ⟨ht, hidle⟩ := hdrained
    rw [← ht] at hlive hnodup
    have hrest' : Closed host (i.entries + rest) := (closed_instance i).add hrest
    refine meets_release hlive hnodup hrest' ?_ rfl (by simp [Command.named]) ?_ fun _ t' ht' => ?_
    · simp [mem_instance_entries]
    · rintro _ ⟨⟩
      exact hidle
    · rw [hlive] at hnodup
      refine Monitor.meets_log trivial ?_
      exact meets_instance_close ht' (ht' ▸ nodup_objects_tail hnodup) hrest

/-- A share of a device goes, and with the last one what the device owns. -/
theorem Accounts.release_device (hacc : Accounts host n (h :: hs) l.live)
    (hdevice : h.device? = some d) (hpool : h.rawPool? = none) (hentries : h.entries = 0) :
    (ledger host).Meets (releaseDevice hs d) l fun _ t => Accounts host n hs t.live := by
  have hheld := hacc.coherent.deviceStamps.deviceHeld_iff hdevice
  unfold releaseDevice
  split
  case isTrue hd =>
    refine Monitor.meets_done (hacc.forget ?_ (by simp [hpool]) hentries)
    simpa [hdevice] using hheld.1 hd
  case isFalse hd =>
    have hadds : h.adds hs = d.entries :=
      adds_eq_device hdevice (fun hm => hd (hheld.2 hm)) hpool hentries
    have hlive : l.live = d.entries + owned hs := by rw [hacc.live_cons, hadds]
    have hnodup : (objects (owned hs)).Nodup := nodup_objects_right (hlive ▸ hacc.nodup)
    apply (meets_device_close hlive hacc.nodup hacc.coherent.tail.closed).mono
    intro _ t ht
    exact ⟨hacc.coherent.tail, ht, ht ▸ hnodup⟩

/-! ## Raw pools -/

/-- The second holder is the first without its share in a raw pool. -/
structure Holder.Unpooled (host : Object → Prop) (h h' : Holder) : Prop where
  sound : h'.Sound host
  device : h'.device? = h.device?
  pool : h'.rawPool? = none
  own : h'.ownPool? = none
  entries : h.entries = 0
  entries' : h'.entries = 0

/-- A share in a raw pool adds the pool when it is the only one. -/
theorem Holder.Unpooled.adds_eq (hh : h.Unpooled host h') : h.adds hs =
    ∑ raw ∈ h.rawPool?.toFinset \ rawPools hs, {raw.entry} + h'.adds hs := by
  simp only [Holder.adds, hh.device, hh.pool, hh.entries, hh.entries']
  simp [add_comm]

theorem Holder.Unpooled.adds_eq_cons (hh : h.Unpooled host h') (hraw : h.rawPool? = some raw)
    (hlast : raw ∉ rawPools hs) : h.adds hs = raw.entry ::ₘ h'.adds hs := by
  have hsingle : h.rawPool?.toFinset \ rawPools hs = {raw} := by
    rw [hraw, Option.toFinset_some, Finset.sdiff_eq_self_iff_disjoint,
      Finset.disjoint_singleton_left]
    exact hlast
  rw [hh.adds_eq, hsingle, Finset.sum_singleton, Multiset.singleton_add]

theorem Coherent.unpooled (hcoherent : Coherent host n (h :: hs)) (hh : h.Unpooled host h') :
    Coherent host n (h' :: hs) := by
  refine hcoherent.of_subset ?_ ?_ ?_ ?_
  · intro x hx
    rcases List.mem_cons.1 hx with rfl | hx
    · exact hh.sound
    · exact hcoherent.sound x (by simp [hx])
  · rw [devices_cons, devices_cons, hh.device]
  · rw [rawPools_cons, rawPools_cons, hh.pool]
    exact Finset.union_subset (by simp) Finset.subset_union_right
  · simpa [hh.own] using hcoherent.tail.once

/-- A holder lets go of a raw pool that others share. -/
theorem Accounts.unpooled {live : Multiset Entry} (hacc : Accounts host n (h :: hs) live)
    (hh : h.Unpooled host h') (hshared : ∀ raw, h.rawPool? = some raw → raw ∈ rawPools hs) :
    Accounts host n (h' :: hs) live := by
  have hnone : h.rawPool?.toFinset \ rawPools hs = ∅ := by
    simpa [Finset.sdiff_eq_empty_iff_subset, Finset.subset_iff] using hshared
  refine ⟨hacc.coherent.unpooled hh, ?_, hacc.nodup⟩
  rw [hacc.live_cons, hh.adds_eq, hnone, Finset.sum_empty, zero_add, owned_cons]

/-- A holder lets go of a raw pool that nobody else shares. -/
theorem Accounts.destroy_pool (hacc : Accounts host n (h :: hs) l.live) (hh : h.Unpooled host h')
    (hraw : h.rawPool? = some raw) (hlast : raw ∉ rawPools hs) :
    (ledger host).Meets raw.destroy l fun _ t => Accounts host n (h' :: hs) t.live := by
  have hcoherent := hacc.coherent.unpooled hh
  have hlive : l.live = raw.entry ::ₘ owned (h' :: hs) := by
    rw [hacc.live_cons, hh.adds_eq_cons hraw hlast, Multiset.cons_add, owned_cons]
  have hd : raw.device ∈ devices (h' :: hs) := by
    refine mem_devices.2 ⟨h', List.mem_cons_self, hh.device.trans ?_⟩
    exact (hacc.coherent.sound h List.mem_cons_self).pool raw hraw
  refine meets_release hlive hacc.nodup hcoherent.closed ?_ rfl ?_ (by simp) fun _ t ht => ?_
  · exact List.forall_mem_singleton.2 (hcoherent.device_known hd)
  · simp [Command.named, RawPool.entry]
  · have hnodup : (objects t.live).Nodup := ht ▸ nodup_objects_tail (hlive ▸ hacc.nodup)
    exact Monitor.meets_note trivial (Monitor.meets_done ⟨hcoherent, ht, hnodup⟩)

/-- A holder lets go of its raw pool, which goes with the last share in it. -/
theorem Accounts.let_go (hacc : Accounts host n (h :: hs) l.live) (hh : h.Unpooled host h') :
    (ledger host).Meets (letGo hs h.rawPool?) l fun _ t => Accounts host n (h' :: hs) t.live := by
  unfold letGo releasePool
  split
  next hnone => exact Monitor.meets_done (hacc.unpooled hh (by simp [hnone]))
  next raw hraw =>
    have hheld := hacc.coherent.poolStamps.poolHeld_iff hraw
    split
    case isTrue hshared =>
      exact Monitor.meets_done (hacc.unpooled hh (by simpa [hraw] using hheld.1 hshared))
    case isFalse hlast => exact hacc.destroy_pool hh hraw fun hm => hlast (hheld.2 hm)

theorem Coherent.unpooled_pool {p : WorkPool} (hcoherent : Coherent host n (.pool p :: hs)) :
    (Holder.pool p).Unpooled host (.pool { p with raw := none }) where
  sound := ⟨(hcoherent.sound _ List.mem_cons_self).device, nofun, nofun⟩
  device := rfl
  pool := rfl
  own := rfl
  entries := rfl
  entries' := rfl

/-- A work pool lets go of its raw pool, given how many units share it. -/
theorem Accounts.release_pool {p : WorkPool} (hacc : Accounts host n (.pool p :: hs) l.live)
    {units : Nat} (hunits : ∀ raw, p.raw = some raw → units = unitsOn (.pool p :: hs) raw) :
    (ledger host).Meets (p.release units) l fun q t =>
      q = { p with raw := none } ∧ Accounts host n (.pool { p with raw := none } :: hs) t.live := by
  have hh := hacc.coherent.unpooled_pool
  have hrelease : (ledger host).Meets (p.release units) l fun _ t =>
      Accounts host n (.pool { p with raw := none } :: hs) t.live := by
    unfold WorkPool.release
    split
    next hnone => exact Monitor.meets_done (hacc.unpooled hh (by simp [Holder.rawPool?, hnone]))
    next raw hraw =>
      have hzero := hacc.coherent.shared.unitsOn_eq_zero_iff hraw
      rw [← hunits raw hraw] at hzero
      split
      case isTrue hlast =>
        apply (hacc.destroy_pool hh hraw (hzero.1 hlast)).bind
        intro _ t ht
        exact Monitor.meets_done ht
      case isFalse hshared =>
        refine Monitor.meets_log trivial (Monitor.meets_done (hacc.unpooled hh ?_))
        have hm : raw ∈ rawPools hs := by simpa using mt hzero.2 hshared
        simpa [Holder.rawPool?, hraw] using hm
  exact hrelease.with_result fun _ _ => WorkPool.runs_release

/-! ## Units -/

/-- The unit without its fence and its buffer, which keeps its share in a raw pool. -/
def WorkUnit.emptied (u : WorkUnit) : WorkUnit :=
  { u with buffer := .null, fence := .null, state := .initial, inFlight := false }

@[simp] theorem WorkUnit.entries_emptied (u : WorkUnit) : u.emptied.entries = 0 := by
  have hbuffer : u.emptied.bufferEntries = 0 := by
    unfold bufferEntries
    split <;> rfl
  rw [entries, hbuffer]
  rfl

@[simp] theorem WorkUnit.entries_retired (u : WorkUnit) : u.retired.entries = 0 := rfl

theorem WorkUnit.sound_emptied (u : WorkUnit) : u.emptied.Sound := ⟨rfl, nofun⟩

theorem WorkUnit.sound_retired (u : WorkUnit) : u.retired.Sound := ⟨rfl, nofun⟩

theorem WorkUnit.sound_ofPool (p : WorkPool) (queue : QueueHandle) : (ofPool p queue).Sound :=
  ⟨rfl, nofun⟩

/-- A unit adds what it owns alone to what it adds without that. -/
theorem adds_unit (u : WorkUnit) (hs : List Holder) :
    (Holder.unit u).adds hs = u.entries + (Holder.unit u.emptied).adds hs := by
  have hentries : (Holder.unit u.emptied).entries = 0 := u.entries_emptied
  simp only [Holder.adds, hentries]
  rw [add_zero, add_comm]
  rfl

/-- A sound holder stays one when the unit in it does. -/
theorem Holder.Sound.unit_of_eq {v : WorkUnit} (h : (Holder.unit u).Sound host) (hv : v.Sound)
    (hdevice : v.device = u.device) (hpool : ∀ raw, v.pool = some raw → u.pool = some raw) :
    (Holder.unit v).Sound host where
  device := by simpa [Holder.device?, hdevice] using h.device
  pool raw hraw := by simpa [Holder.device?, hdevice] using h.pool raw (hpool raw hraw)
  unit w hw := by
    cases hw
    exact hv

theorem Coherent.unit_of_eq {v : WorkUnit} (hcoherent : Coherent host n (.unit u :: hs))
    (hv : v.Sound) (hdevice : v.device = u.device) (hpool : v.pool = u.pool) :
    Coherent host n (.unit v :: hs) := by
  refine hcoherent.of_subset ?_ ?_ ?_ ?_
  · intro x hx
    rcases List.mem_cons.1 hx with rfl | hx
    · exact (hcoherent.sound _ (by simp)).unit_of_eq hv hdevice (by simp [hpool])
    · exact hcoherent.sound x (by simp [hx])
  · rw [devices_cons, devices_cons, Holder.device?, Holder.device?, hdevice]
  · rw [rawPools_cons, rawPools_cons, Holder.rawPool?, Holder.rawPool?, hpool]
  · exact hcoherent.once

theorem meets_dropFence (hlive : l.live = u.fenceEntries + rest) (hnodup : (objects l.live).Nodup)
    (hrest : Closed host rest)
    (hdevice : u.device.handle.object ∈ objects rest ∨ host u.device.handle.object) :
    (ledger host).Meets u.dropFence l fun _ t => t.live = rest := by
  unfold WorkUnit.dropFence
  unfold WorkUnit.fenceEntries at hlive
  split
  case isTrue hnull =>
    rw [if_pos hnull, zero_add] at hlive
    exact Monitor.meets_done hlive
  case isFalse hnull =>
    rw [if_neg hnull, Multiset.singleton_add] at hlive
    refine meets_release hlive hnodup hrest (by simpa using hdevice) rfl ?_ (by simp) ?_
    · simp [Command.named]
    · intro _ t ht
      exact Monitor.meets_done ht

theorem closed_buffer_add (hrest : Closed host rest)
    (hdevice : u.device.handle.object ∈ objects rest ∨ host u.device.handle.object)
    (hpool : ∀ raw, u.pool = some raw → raw.handle.object ∈ objects rest) :
    Closed host (u.bufferEntries + rest) := by
  unfold WorkUnit.bufferEntries
  cases hraw : u.pool with
  | none => simpa using hrest
  | some raw =>
    dsimp only
    split
    · refine hrest.cons ?_
      simpa using ⟨hdevice, .inl (hpool raw hraw)⟩
    · simpa using hrest

theorem meets_dropBuffer (hlive : l.live = u.bufferEntries + rest)
    (hnodup : (objects l.live).Nodup) (hrest : Closed host rest)
    (hdevice : u.device.handle.object ∈ objects rest ∨ host u.device.handle.object)
    (hpool : ∀ raw, u.pool = some raw → raw.handle.object ∈ objects rest) :
    (ledger host).Meets u.dropBuffer l fun _ t => t.live = rest := by
  unfold WorkUnit.dropBuffer
  unfold WorkUnit.bufferEntries at hlive
  cases hraw : u.pool with
  | none =>
    rw [hraw, zero_add] at hlive
    exact Monitor.meets_done hlive
  | some raw =>
    rw [hraw] at hlive
    dsimp only at hlive ⊢
    split
    case isTrue halloc =>
      rw [if_pos halloc, Multiset.singleton_add] at hlive
      refine meets_release hlive hnodup hrest ?_ rfl ?_ (by simp) ?_
      · simpa using ⟨hdevice, .inl (hpool raw hraw)⟩
      · simp [Command.named]
      · intro _ t ht
        exact Monitor.meets_done ht
    case isFalse halloc =>
      rw [if_neg halloc, zero_add] at hlive
      exact Monitor.meets_done hlive

/-- A unit destroys its fence and frees its buffer. -/
theorem Accounts.empty_unit {β : Type} {next : Program β} {Q : β → Ledger → Prop}
    (hacc : Accounts host n (.unit u :: hs) l.live)
    (h : ∀ t : Ledger, Accounts host n (.unit u.emptied :: hs) t.live →
      (ledger host).Meets next t Q) :
    (ledger host).Meets (do u.dropFence; u.dropBuffer; next) l Q := by
  have hemptied : Coherent host n (.unit u.emptied :: hs) :=
    hacc.coherent.unit_of_eq u.sound_emptied rfl rfl
  have hlive : l.live = u.fenceEntries + (u.bufferEntries + owned (.unit u.emptied :: hs)) := by
    rw [hacc.live_cons, adds_unit, owned_cons, WorkUnit.entries]
    simp only [add_assoc]
  have hdevice : u.device.handle.object ∈ objects (owned (.unit u.emptied :: hs)) ∨
      host u.device.handle.object :=
    hemptied.device_known (mem_devices.2 ⟨_, List.mem_cons_self, rfl⟩)
  have hpool : ∀ raw, u.pool = some raw →
      raw.handle.object ∈ objects (owned (.unit u.emptied :: hs)) := by
    intro raw hraw
    exact pool_known (mem_rawPools.2 ⟨_, List.mem_cons_self, hraw⟩)
  have hclosed : Closed host (u.bufferEntries + owned (.unit u.emptied :: hs)) :=
    closed_buffer_add hemptied.closed hdevice hpool
  have hdevice' : u.device.handle.object ∈
      objects (u.bufferEntries + owned (.unit u.emptied :: hs)) ∨
        host u.device.handle.object := by
    grind
  apply (meets_dropFence hlive hacc.nodup hclosed hdevice').bind
  intro _ t ht
  have hnodup : (objects t.live).Nodup := ht ▸ nodup_objects_right (hlive ▸ hacc.nodup)
  apply (meets_dropBuffer ht hnodup hemptied.closed hdevice hpool).bind
  intro _ t' ht'
  exact h t' ⟨hemptied, ht', ht' ▸ nodup_objects_right (ht ▸ hnodup)⟩

theorem Accounts.only_settle (hacc : Accounts host n (.unit u :: hs) l.live) :
    u.settle.Only (Harmless host l.live) := by
  have hdevice := hacc.device_known (mem_devices.2 ⟨_, List.mem_cons_self, rfl⟩)
  unfold WorkUnit.settle
  split
  · refine Program.Only.bind Program.only_log fun _ => only_drain ⟨rfl, ?_⟩
    simpa [Command.named] using hdevice
  · trivial

/-- The retirement of a unit releases its fence, its buffer and its share in a raw pool. -/
theorem Accounts.retire (hacc : Accounts host n (.unit u :: hs) l.live) :
    (ledger host).Meets (retireUnit hs u) l fun v t =>
      v = u.retired ∧ Accounts host n (.unit u.retired :: hs) t.live := by
  have hunpooled (hcoherent : Coherent host n (.unit u.emptied :: hs)) :
      (Holder.unit u.emptied).Unpooled host (.unit u.retired) := by
    refine ⟨?_, rfl, rfl, rfl, u.entries_emptied, u.entries_retired⟩
    exact (hcoherent.sound _ List.mem_cons_self).unit_of_eq u.sound_retired rfl
      (by simp [WorkUnit.retired])
  have hretire : (ledger host).Meets (retireUnit hs u) l fun _ t =>
      Accounts host n (.unit u.retired :: hs) t.live := by
    rw [retireUnit_eq]
    apply (meets_quiet hacc.only_settle).bind
    intro _ t ht
    rw [← ht] at hacc
    refine hacc.empty_unit fun t' hacc' => ?_
    refine (hacc'.let_go (hunpooled hacc'.coherent)).bind ?_
    intro _ t'' hacc''
    exact Monitor.meets_done hacc''
  exact hretire.with_result fun _ _ => runs_retireUnit

/-! ## Any holder -/

/-- A drop releases what the holder alone owns; the others own what they did. -/
theorem Accounts.drop (hacc : Accounts host n (h :: hs) l.live) :
    (ledger host).Meets (h.drop hs) l fun _ t => Accounts host n hs t.live := by
  have hsound := hacc.coherent.sound h List.mem_cons_self
  cases h with
  | context c =>
    rw [Holder.drop_context]
    apply (meets_quiet only_tellOthers).bind
    intro _ t ht
    rw [← ht] at hacc
    exact hacc.release_device rfl rfl rfl
  | share d => exact hacc.release_device rfl rfl rfl
  | pool p =>
    rw [Holder.drop_pool]
    apply (hacc.let_go hacc.coherent.unpooled_pool).bind
    intro _ t ht
    exact ht.release_device rfl rfl rfl
  | unit u =>
    rw [Holder.drop_unit]
    apply hacc.retire.bind
    intro v t ht
    exact ht.2.release_device rfl rfl u.entries_retired
  | inst i =>
    obtain ⟨d, hd, -⟩ := hsound.device
    cases hd
  | bareDevice d =>
    obtain ⟨d, hd, -⟩ := hsound.device
    cases hd

end VulkanExec
