import VulkanExec.Proofs.Establishment.Course
import VulkanExec.Proofs.Ledger.Dropping

/-!
# Making holders

What a creation makes is owned by the new holder, and what was made before a failure is released
again. Each step says what is live after it besides the rest: nothing, or what it has made.

The main statements are `Accounts.establish` and `Accounts.adopt` for contexts.
-/

namespace VulkanExec

variable {host : Object → Prop} {n : Nat} {l : Ledger} {rest : Multiset Entry}
  {hs : List Holder}

/-- What is made is live besides the rest, and nothing is after a failure. -/
structure Made {α : Type} (entries : α → Multiset Entry) (rest : Multiset Entry)
    (r : Except Error α) (t : Ledger) : Prop where
  live : t.live = r.toOption.elim 0 entries + rest
  nodup : (objects t.live).Nodup

theorem Made.error_live {α : Type} {entries : α → Multiset Entry} {e : Error} {t : Ledger}
    (h : Made entries rest (.error e) t) : t.live = rest := by
  simpa [Except.toOption] using h.live

theorem made_error {α : Type} {entries : α → Multiset Entry} {e : Error} {t : Ledger}
    (hlive : t.live = rest) (hnodup : (objects t.live).Nodup) :
    Made entries rest (.error e) t := ⟨by simpa [Except.toOption] using hlive, hnodup⟩

/-! ## Instances -/

theorem meets_instance_create {config : Config} (hnodup : (objects l.live).Nodup) :
    (ledger host).Meets (Instance.create config) l fun r t =>
      Made Instance.entries l.live r t ∧ ∀ i, r = .ok i → i.callback = none := by
  unfold Instance.create
  split
  · exact Monitor.meets_done ⟨made_error rfl hnodup, by simp⟩
  · apply Monitor.meets_ask
    intro answer hfresh
    constructor
    · exact Ledger.allows_of_named rfl (by simp [Command.named])
    · cases answer with
      | error code => exact Monitor.meets_done ⟨made_error rfl hnodup, by simp⟩
      | ok handle =>
        obtain ⟨-, hnot⟩ := hfresh _ rfl
        refine Monitor.meets_note trivial (Monitor.meets_done ⟨⟨?_, ?_⟩, ?_⟩)
        · exact (Multiset.singleton_add _ _).symm
        · exact nodup_objects_cons hnot hnodup
        · rintro _ ⟨⟩
          rfl

/-- An instance without a messenger stays as it is after a failure. -/
theorem meets_registerSink {i : Instance} {table : EntryTable} {sink : SinkId}
    (hcallback : i.callback = none) (hlive : l.live = i.entries + rest)
    (hnodup : (objects l.live).Nodup) :
    (ledger host).Meets (i.registerSink table sink) l fun r t =>
      t.live = (r.toOption.getD i).entries + rest ∧ (objects t.live).Nodup := by
  obtain ⟨handle, callback⟩ := i
  obtain rfl : callback = none := hcallback
  unfold Instance.registerSink
  split
  · exact Monitor.meets_done ⟨hlive, hnodup⟩
  · have hknown : handle.object ∈ objects l.live := by simp [hlive, Instance.entries, objects]
    apply Monitor.meets_ask
    intro answer hfresh
    constructor
    · exact Ledger.allows_of_named rfl (List.forall_mem_singleton.2 (.inl hknown))
    · cases answer with
      | error code => exact Monitor.meets_done ⟨hlive, hnodup⟩
      | ok messenger =>
        obtain ⟨-, hnot⟩ := hfresh _ rfl
        have hentries : (⟨handle, some ⟨messenger, sink⟩⟩ : Instance).entries =
            ⟨messenger.object, [handle.object]⟩ ::ₘ (⟨handle, none⟩ : Instance).entries := rfl
        have hmade : ⟨messenger.object, [handle.object]⟩ ::ₘ l.live =
            (⟨handle, some ⟨messenger, sink⟩⟩ : Instance).entries + rest := by
          rw [hentries, Multiset.cons_add, hlive]
        refine Monitor.meets_note trivial (Monitor.meets_done ⟨hmade, ?_⟩)
        exact nodup_objects_cons hnot hnodup

theorem meets_equip {i : Instance} {config : Config} {table : EntryTable} {sink : SinkId}
    (hcallback : i.callback = none) (hlive : l.live = i.entries + rest)
    (hnodup : (objects l.live).Nodup) :
    (ledger host).Meets (i.equip config table sink) l fun r t =>
      t.live = ((r.toOption.map Prod.fst).getD i).entries + rest ∧ (objects t.live).Nodup := by
  have hknown : i.handle.object ∈ objects l.live := by simp [hlive, mem_instance_entries]
  have hquiet : ∀ name, Harmless host l.live (.resolve i.handle name) := by
    intro name
    refine ⟨rfl, ?_⟩
    intro o ho
    have ho : i.handle.isNull = false ∧ o = i.handle.object := by simpa [Command.named] using ho
    exact .inl (ho.2 ▸ hknown)
  apply (meets_quiet (only_resolveWith hquiet)).bind
  intro resolved t ht
  rw [← ht] at hlive hnodup
  cases resolved with
  | error e => exact Monitor.meets_done ⟨hlive, hnodup⟩
  | ok table =>
    dsimp only
    split
    · apply (meets_registerSink hcallback hlive hnodup).bind
      intro registered t ht
      cases registered with
      | error e => exact Monitor.meets_done ht
      | ok i => exact Monitor.meets_done ht
    · exact Monitor.meets_done ⟨hlive, hnodup⟩

theorem meets_instance_establish {config : Config} {table : EntryTable} {sink : SinkId}
    (hnodup : (objects l.live).Nodup) (hclosed : Closed host l.live) :
    (ledger host).Meets (Instance.establish config table sink) l
      (Made (fun r => r.1.entries) l.live) := by
  have hquiet : (Instance.checkSupport config).Only (Harmless host l.live) :=
    only_checkSupport ⟨rfl, by simp [Command.named]⟩ fun _ => ⟨rfl, by simp [Command.named]⟩
  apply (meets_quiet hquiet).bind
  intro checked t ht
  rw [← ht] at hnodup hclosed ⊢
  cases checked with
  | error e => exact Monitor.meets_done (made_error rfl hnodup)
  | ok =>
    apply (meets_instance_create hnodup).bind
    intro created t' hcreated
    obtain ⟨ht', hcallback⟩ := hcreated
    cases created with
    | error e => exact Monitor.meets_done (made_error ht'.error_live ht'.nodup)
    | ok i =>
      apply (meets_equip (hcallback i rfl) ht'.live ht'.nodup).bind
      intro equipped t'' ht''
      cases equipped with
      | error e =>
        apply (meets_instance_close ht''.1 ht''.2 hclosed).bind
        intro _ s hs
        exact Monitor.meets_done (made_error hs (hs ▸ hnodup))
      | ok equipped => exact Monitor.meets_done ⟨ht''.1, ht''.2⟩

/-! ## Devices -/

/-- A device whose queue cannot be had is destroyed before it was put to work. -/
theorem meets_createDevice {i : InstanceHandle} {physical : PhysicalDeviceHandle} {family : UInt32}
    {capabilities : List Capability} {extensions : List String} (hnodup : (objects l.live).Nodup)
    (hclosed : Closed host l.live) (hi : i.object ∈ objects l.live) :
    (ledger host).Meets (createDevice i physical family capabilities extensions) l
      (Made (fun r => {⟨r.1.object, [i.object]⟩}) l.live) := by
  unfold createDevice
  split
  · exact Monitor.meets_done (made_error rfl hnodup)
  · apply Monitor.meets_ask
    intro answer hfresh
    constructor
    · exact Ledger.allows_of_named rfl (List.forall_mem_singleton.2 (.inl hi))
    · cases answer with
      | error code => exact Monitor.meets_done (made_error rfl hnodup)
      | ok d =>
        obtain ⟨-, hnot⟩ := hfresh _ rfl
        have hnodup' := nodup_objects_cons hnot hnodup
        apply Monitor.meets_ask
        intro queue _
        constructor
        · apply Ledger.allows_of_named rfl
          intro o ho
          obtain rfl : o = d.object := by simpa [Command.named] using ho
          exact .inl (mem_objects_of_mem (Multiset.mem_cons_self _ _))
        · split
          · refine meets_release rfl hnodup' hclosed ?_ rfl ?_ ?_ fun _ t ht => ?_
            · exact List.forall_mem_singleton.2 (.inl hi)
            · simp [Command.named]
            · rintro _ ⟨⟩
              exact List.mem_cons_self
            · exact Monitor.meets_done (made_error ht (ht ▸ hnodup))
          · exact Monitor.meets_done ⟨(Multiset.singleton_add _ _).symm, hnodup'⟩

theorem meets_negotiate {config : Config} {i : InstanceHandle} (hnodup : (objects l.live).Nodup)
    (hclosed : Closed host l.live) (hi : i.object ∈ objects l.live) :
    (ledger host).Meets (Context.negotiate config i) l
      (Made (fun r => {⟨r.2.1.object, [i.object]⟩}) l.live) := by
  have hnamed : ∀ o ∈ [i.object], o ∈ objects l.live ∨ host o := by simp [hi]
  have hquiet : (Candidate.choose i config.capabilities config.extensions).Only
      (Harmless host l.live) :=
    only_choose ⟨rfl, hnamed⟩ (fun _ => ⟨rfl, hnamed⟩) (fun _ => ⟨rfl, hnamed⟩)
      fun _ => ⟨rfl, hnamed⟩
  apply (meets_quiet hquiet).bind
  intro chosen t ht
  rw [← ht] at hnodup hclosed hi ⊢
  cases chosen with
  | error e => exact Monitor.meets_done (made_error rfl hnodup)
  | ok choice =>
    apply (meets_createDevice hnodup hclosed hi).bind
    intro created t' ht'
    cases created with
    | error e => exact Monitor.meets_done (made_error ht'.error_live ht'.nodup)
    | ok r => exact Monitor.meets_done ⟨ht'.live, ht'.nodup⟩

/-! ## Contexts -/

/-- What a creation leaves to the holders: a new holder after a success, nothing after a failure. -/
def Accounted {α : Type} (host : Object → Prop) (n : Nat) (holder : α → Holder)
    (hs : List Holder) (r : Except Error α) (live : Multiset Entry) : Prop :=
  match r with
  | .error _ => Accounts host n hs live
  | .ok a => Accounts host n (holder a :: hs) live

/-- A context on a device with a new stamp owns what the device does. -/
theorem Accounts.add_context {live : Multiset Entry} (hacc : Accounts host n hs live) {c : Context}
    (hstamp : c.device.stamp = n) (hhost : c.device.owner = none → host c.device.handle.object)
    (hnodup : (objects (c.device.entries + live)).Nodup) :
    Accounts host (n + 1) (.context c :: hs) (c.device.entries + live) := by
  have hnew : c.device ∉ devices hs := hacc.coherent.deviceStamps.notMem hstamp
  refine ⟨⟨?_, ?_, ?_, ?_⟩, ?_, hnodup⟩
  · intro x hx
    rcases List.mem_cons.1 hx with rfl | hx
    · exact ⟨⟨c.device, rfl, hhost⟩, by simp [Holder.rawPool?], by simp⟩
    · exact hacc.coherent.sound x hx
  · have hinsert : devices (.context c :: hs) = insert c.device (devices hs) := by
      rw [devices_cons, Finset.insert_eq]
      rfl
    exact hinsert ▸ hacc.coherent.deviceStamps.insert hstamp
  · have hsame : rawPools (.context c :: hs) = rawPools hs := by
      rw [rawPools_cons]
      exact Finset.empty_union _
    exact hsame ▸ hacc.coherent.poolStamps.mono subset_rfl (Nat.le_succ n)
  · exact hacc.coherent.once
  · rw [owned_cons, adds_eq_device (h := .context c) rfl hnew rfl rfl, hacc.live_eq]

theorem harmless_resolve_null {live : Multiset Entry} (name : String) :
    Harmless host live (.resolve .null name) := by
  refine ⟨rfl, ?_⟩
  intro o ho
  have hnull : (Handle.null : InstanceHandle).isNull := rfl
  simp [Command.named, hnull] at ho

/-- A context is made around a device that is live with its instance. -/
theorem Accounts.around {live : Multiset Entry} (hacc : Accounts host n hs live) {i : Instance}
    {d : DeviceHandle} (hlive : l.live = (Device.mk n d (some i)).entries + live)
    (hnodup : (objects l.live).Nodup) {config : Config} {entries : EntryTable}
    {physical : PhysicalDeviceHandle} {queue : QueueHandle} {family : UInt32} :
    (ledger host).Meets
      (Context.around config entries ⟨n, d, some i⟩ i.handle physical queue family) l fun c t =>
        Accounts host (n + 1) (.context c :: hs) t.live := by
  have hknown : i.handle.object ∈ objects l.live := by
    simp [hlive, Device.entries, mem_instance_entries]
  have hnamed : ∀ o ∈ [i.handle.object], o ∈ objects l.live ∨ host o := by simp [hknown]
  refine ((meets_quiet (only_around ⟨rfl, hnamed⟩ ⟨rfl, hnamed⟩)).with_result
    fun _ _ => runs_around).mono ?_
  intro c t hmade
  obtain ⟨hc, ht⟩ := hmade
  have hlive' : t.live = c.device.entries + live := by rw [ht, hlive, hc]
  rw [hlive']
  refine hacc.add_context (by rw [hc]) (by simp [hc]) ?_
  rw [← hlive', ht]
  exact hnodup

/-- A context that is established owns its device and its instance; after a failure nothing is left
of either. -/
theorem Accounts.establish (hacc : Accounts host n hs l.live) {config : Config} {sink : SinkId} :
    (ledger host).Meets (Context.establish config sink n) l fun r t =>
      Accounted host (n + 1) .context hs r t.live := by
  have hfailed {e : Error} {t : Ledger} (ht : t.live = l.live) :
      Accounted (α := Context) host (n + 1) .context hs (.error e) t.live := by
    rw [ht]
    exact hacc.mono (Nat.le_succ n)
  apply (meets_quiet (only_resolveWith harmless_resolve_null)).bind
  intro resolved t ht
  cases resolved with
  | error e => exact Monitor.meets_done (hfailed ht)
  | ok table =>
    have hnodup : (objects t.live).Nodup := ht ▸ hacc.nodup
    have hclosed : Closed host t.live := ht ▸ hacc.closed
    apply (meets_instance_establish hnodup hclosed).bind
    intro made t' ht'
    cases made with
    | error e => exact Monitor.meets_done (hfailed (ht'.error_live.trans ht))
    | ok made =>
      obtain ⟨i, entries⟩ := made
      have hlive : t'.live = i.entries + t.live := ht'.live
      have hclosed' : Closed host t'.live := hlive ▸ (closed_instance i).add hclosed
      have hi : i.handle.object ∈ objects t'.live := by simp [hlive, mem_instance_entries]
      apply (meets_negotiate ht'.nodup hclosed' hi).bind
      intro negotiated t'' ht''
      cases negotiated with
      | error e =>
        have hback : t''.live = i.entries + t.live := ht''.error_live.trans hlive
        apply (meets_instance_close hback ht''.nodup hclosed).bind
        intro _ s hs
        exact Monitor.meets_done (hfailed (hs.trans ht))
      | ok negotiated =>
        obtain ⟨choice, d, queue⟩ := negotiated
        have hdevice : t''.live = (Device.mk n d (some i)).entries + l.live := by
          have hentries : (Device.mk n d (some i)).entries =
              ⟨d.object, [i.handle.object]⟩ ::ₘ i.entries := rfl
          rw [hentries, Multiset.cons_add, ← ht, ← hlive]
          exact ht''.live.trans (Multiset.singleton_add _ _)
        apply (hacc.around hdevice ht''.nodup).bind
        intro c s hs
        exact Monitor.meets_log trivial (Monitor.meets_done hs)

/-- A context that is adopted owns nothing. -/
theorem Accounts.adopt (hacc : Accounts host n hs l.live) {handles : HostHandles} {config : Config}
    (hinst : host handles.inst.object) (hdevice : host handles.device.object) :
    (ledger host).Meets (Context.adopt handles config n) l fun r t =>
      Accounted host (n + 1) .context hs r t.live := by
  have hnamed : ∀ o ∈ [handles.inst.object], o ∈ objects l.live ∨ host o := by simp [hinst]
  have hquiet : (Context.adopt handles config n).Only (Harmless host l.live) := by
    refine only_adopt harmless_resolve_null (fun name => ⟨rfl, fun o ho => .inr ?_⟩)
      ⟨rfl, hnamed⟩ ⟨rfl, ?_⟩ ⟨rfl, hnamed⟩ ⟨rfl, hnamed⟩
    · have ho : handles.inst.isNull = false ∧ o = handles.inst.object := by
        simpa [Command.named] using ho
      exact ho.2 ▸ hinst
    · simp [Command.named, hinst, hdevice]
  have hdevice' : ∀ events r, (Context.adopt handles config n).Runs events r →
      ∀ c, r = .ok c → c.device = ⟨n, handles.device, none⟩ := by
    rintro events r hruns c rfl
    exact Context.device_of_adopt hruns
  apply ((meets_quiet hquiet).with_result hdevice').mono
  intro r t hmade
  obtain ⟨hr, ht⟩ := hmade
  rw [ht]
  cases r with
  | error e => exact hacc.mono (Nat.le_succ n)
  | ok c =>
    have hc : c.device = ⟨n, handles.device, none⟩ := hr c rfl
    have hentries : c.device.entries + l.live = l.live := by
      rw [hc]
      exact zero_add _
    have hcontext := hacc.add_context (c := c) (by rw [hc]) (by simpa [hc] using hdevice)
      (by rw [hentries]; exact hacc.nodup)
    rwa [hentries] at hcontext

/-! ## Pools -/

/-- A work pool without a raw pool may take on one with a new stamp. -/
theorem Coherent.add_pool {p q : WorkPool} {raw : RawPool}
    (hcoherent : Coherent host n (.pool p :: hs)) (hq : q.raw = some raw)
    (hdevice : q.device = p.device) (hraw : raw.device = p.device) (hstamp : raw.stamp = n) :
    Coherent host (n + 1) (.pool q :: hs) := by
  have hsound := hcoherent.sound _ List.mem_cons_self
  obtain ⟨hdeviceStamps, hpoolStamps, honce⟩ := hcoherent.shared.add_pool hq hdevice hstamp
  refine ⟨?_, hdeviceStamps, hpoolStamps, honce⟩
  intro x hx
  rcases List.mem_cons.1 hx with rfl | hx
  · refine ⟨?_, ?_, by simp⟩
    · simpa [Holder.device?, hdevice] using hsound.device
    · intro raw' hraw'
      obtain rfl : raw = raw' := by simpa [Holder.rawPool?, hq] using hraw'
      simp [Holder.device?, hdevice, hraw]
  · exact hcoherent.sound x (List.mem_cons_of_mem _ hx)

/-- A new raw pool belongs to the work pool that created it. -/
theorem Accounts.add_pool {live : Multiset Entry} {p q : WorkPool} {raw : RawPool}
    (hacc : Accounts host n (.pool p :: hs) live) (hp : p.raw = none) (hq : q.raw = some raw)
    (hdevice : q.device = p.device) (hraw : raw.device = p.device) (hstamp : raw.stamp = n)
    (hnodup : (objects (raw.entry ::ₘ live)).Nodup) :
    Accounts host (n + 1) (.pool q :: hs) (raw.entry ::ₘ live) := by
  have hunpooled : (Holder.pool q).Unpooled host (.pool p) := by
    refine ⟨hacc.coherent.sound _ List.mem_cons_self, ?_, hp, hp, rfl, rfl⟩
    simp [Holder.device?, hdevice]
  have hnew : raw ∉ rawPools hs := hacc.coherent.tail.poolStamps.notMem hstamp
  refine ⟨hacc.coherent.add_pool hq hdevice hraw hstamp, ?_, hnodup⟩
  rw [owned_cons, hunpooled.adds_eq_cons hq hnew, Multiset.cons_add, ← hacc.live_cons]

theorem Accounts.create_pool {p : WorkPool} (hacc : Accounts host n (.pool p :: hs) l.live)
    (hp : p.raw = none) {family : UInt32} :
    (ledger host).Meets (p.create family n) l fun r t =>
      Accounts host (n + 1) (.pool r.2 :: hs) t.live := by
  have hd := hacc.device_known (mem_devices.2 ⟨_, List.mem_cons_self, rfl⟩)
  apply Monitor.meets_ask
  intro answer hfresh
  constructor
  · exact Ledger.allows_of_named rfl (List.forall_mem_singleton.2 hd)
  · cases answer with
    | error code => exact Monitor.meets_done (hacc.mono (Nat.le_succ n))
    | ok handle =>
      obtain ⟨-, hnot⟩ := hfresh _ rfl
      let raw : RawPool := ⟨n, p.device, handle⟩
      have hraw : (objects (raw.entry ::ₘ l.live)).Nodup := nodup_objects_cons hnot hacc.nodup
      have hadded : Accounts host (n + 1) (.pool { p with raw := some raw, family } :: hs)
          (raw.entry ::ₘ l.live) := hacc.add_pool hp rfl rfl rfl rfl hraw
      exact Monitor.meets_note trivial (Monitor.meets_done hadded)

theorem Accounts.bind_pool {p : WorkPool} (hacc : Accounts host n (.pool p :: hs) l.live)
    {family : UInt32} {units : Nat}
    (hunits : ∀ raw, p.raw = some raw → units = unitsOn (.pool p :: hs) raw) :
    (ledger host).Meets (p.bindTo family units n) l fun r t =>
      Accounts host (n + 1) (.pool r.2 :: hs) t.live := by
  unfold WorkPool.bindTo
  split
  · exact Monitor.meets_done (hacc.mono (Nat.le_succ n))
  · apply (hacc.release_pool hunits).bind
    intro q t ht
    obtain ⟨rfl, ht⟩ := ht
    exact ht.create_pool rfl

/-! ## Units -/

section Units

variable {live : Multiset Entry} {u v : WorkUnit}

/-- The objects of a unit that has a buffer are live. -/
theorem Accounts.unit_known (hacc : Accounts host n (.unit u :: hs) live)
    (halloc : u.isAllocated) : u.buffer.object ∈ objects live ∧ u.fence.object ∈ objects live := by
  obtain ⟨hfence, hpool⟩ := (hacc.coherent.sound _ List.mem_cons_self).unit u rfl
  obtain ⟨raw, hraw⟩ := Option.ne_none_iff_exists'.1 (hpool halloc)
  have hnull : u.fence.isNull = false := by simpa [halloc] using hfence
  have hentries : u.entries = {⟨u.fence.object, [u.device.handle.object]⟩,
      ⟨u.buffer.object, [u.device.handle.object, raw.handle.object]⟩} := by
    simp [WorkUnit.entries, WorkUnit.fenceEntries, WorkUnit.bufferEntries, hnull, hraw, halloc]
  rw [hacc.live_cons, adds_unit, hentries]
  simp

/-- A unit without a buffer owns nothing. -/
theorem WorkUnit.Sound.entries_eq_zero (h : u.Sound) (halloc : u.isAllocated = false) :
    u.entries = 0 := by
  have hnull : u.fence.isNull := by simpa [halloc] using h.fence
  unfold entries fenceEntries bufferEntries
  rw [if_pos hnull, zero_add]
  split
  · rfl
  · simp [halloc]

/-- A unit may change what is not an object. -/
theorem Accounts.unit_eq (hacc : Accounts host n (.unit u :: hs) live)
    (hdevice : v.device = u.device) (hpool : v.pool = u.pool) (hbuffer : v.buffer = u.buffer)
    (hfence : v.fence = u.fence) :
    Accounts host n (.unit v :: hs) live := by
  have hsound := (hacc.coherent.sound _ List.mem_cons_self).unit u rfl
  have hentries : v.entries = u.entries := by
    simp [WorkUnit.entries, WorkUnit.fenceEntries, WorkUnit.bufferEntries, WorkUnit.isAllocated,
      hdevice, hpool, hbuffer, hfence]
  refine ⟨hacc.coherent.unit_of_eq ⟨?_, ?_⟩ hdevice hpool, ?_, hacc.nodup⟩
  · simpa [WorkUnit.isAllocated, hbuffer, hfence] using hsound.fence
  · simpa [WorkUnit.isAllocated, hbuffer, hpool] using hsound.pool
  · rw [hacc.live_cons, owned_cons]
    simp [Holder.adds, Holder.device?, Holder.rawPool?, Holder.entries, hentries, hdevice, hpool]

/-- A new buffer and a new fence are the unit's. -/
theorem Accounts.add_unit {raw : RawPool} {buffer : BufferHandle} {fence : FenceHandle}
    (hacc : Accounts host n (.unit u :: hs) live) (hpool : u.pool = some raw)
    (halloc : u.isAllocated = false) (hbuffer : buffer.isNull = false)
    (hfence : fence.isNull = false)
    (hnodup : (objects (⟨fence.object, [u.device.handle.object]⟩ ::ₘ
      ⟨buffer.object, [u.device.handle.object, raw.handle.object]⟩ ::ₘ live)).Nodup) :
    Accounts host n (.unit { u with buffer, fence, state := .initial, inFlight := false } :: hs)
      (⟨fence.object, [u.device.handle.object]⟩ ::ₘ
        ⟨buffer.object, [u.device.handle.object, raw.handle.object]⟩ ::ₘ live) := by
  have hsound := (hacc.coherent.sound _ List.mem_cons_self).unit u rfl
  refine ⟨hacc.coherent.unit_of_eq ⟨?_, fun _ => ?_⟩ rfl rfl, ?_, hnodup⟩
  · simp [WorkUnit.isAllocated, hbuffer, hfence]
  · simp [hpool]
  · rw [owned_cons, adds_unit, hacc.live_cons, adds_unit u, hsound.entries_eq_zero halloc, zero_add]
    simp [WorkUnit.entries, WorkUnit.fenceEntries, WorkUnit.bufferEntries, WorkUnit.isAllocated,
      hbuffer, hfence, hpool, WorkUnit.emptied]

end Units

end VulkanExec
