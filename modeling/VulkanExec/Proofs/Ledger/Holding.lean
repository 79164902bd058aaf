import Mathlib.Algebra.BigOperators.Group.Finset.Basic
import Mathlib.Data.Finset.Option
import Mathlib.Tactic.Abel
import VulkanExec.Proofs.Ledger.Basic
import VulkanExec.Proofs.Release

/-!
# What holders own

Every live object is owned by exactly one device, raw pool or unit. A device and a raw pool are
owned by all their holders together, so they count once however many shares there are.

## Main definitions

- `Instance.entries`, `Device.entries`, `RawPool.entry`, `WorkUnit.entries`: what each owns;
- `devices`, `rawPools`: the devices and the raw pools that some holders share;
- `owned`: all that some holders own;
- `Shared`: holders whose stamps tell apart what they share;
- `Coherent`: holders that agree on what they share;
- `Accounts`: coherent holders that own exactly the live objects.

The main statements: what a single holder adds (`owned_cons`), and that all that holders own was
created from what they own (`Coherent.closed`).
-/

namespace VulkanExec

/-! ## Entries -/

/-- The messenger and the instance. -/
def Instance.entries (i : Instance) : Multiset Entry :=
  match i.callback with
  | none => {⟨i.handle.object, []⟩}
  | some callback =>
    {⟨callback.messenger.object, [i.handle.object]⟩, ⟨i.handle.object, []⟩}

/-- The device and its instance; nothing for the caller's own device. -/
def Device.entries (d : Device) : Multiset Entry :=
  match d.owner with
  | none => 0
  | some i => ⟨d.handle.object, [i.handle.object]⟩ ::ₘ i.entries

/-- The raw pool, which was created from its device. -/
def RawPool.entry (raw : RawPool) : Entry := ⟨raw.handle.object, [raw.device.handle.object]⟩

namespace WorkUnit

/-- The fence, if there is one. -/
def fenceEntries (u : WorkUnit) : Multiset Entry :=
  if u.fence.isNull then 0 else {⟨u.fence.object, [u.device.handle.object]⟩}

/-- The buffer, if there is one. -/
def bufferEntries (u : WorkUnit) : Multiset Entry :=
  match u.pool with
  | none => 0
  | some raw =>
    if u.isAllocated then {⟨u.buffer.object, [u.device.handle.object, raw.handle.object]⟩} else 0

/-- The fence and the buffer. -/
def entries (u : WorkUnit) : Multiset Entry := u.fenceEntries + u.bufferEntries

end WorkUnit

namespace Holder

/-- What a holder owns alone. -/
def entries : Holder → Multiset Entry
  | unit u => u.entries
  | _ => 0

/-- The raw pool that a holder created. -/
def ownPool? : Holder → Option RawPool
  | pool p => p.raw
  | _ => none

end Holder

/-! ## Shares -/

/-- The devices that some holders have a share in. -/
def devices (hs : List Holder) : Finset Device := (hs.filterMap Holder.device?).toFinset

/-- The raw pools that some holders have a share in. -/
def rawPools (hs : List Holder) : Finset RawPool := (hs.filterMap Holder.rawPool?).toFinset

section Shares

variable {h : Holder} {hs hs' : List Holder} {d : Device} {raw : RawPool}

theorem mem_devices : d ∈ devices hs ↔ ∃ h ∈ hs, h.device? = some d := by simp [devices]

theorem mem_rawPools : raw ∈ rawPools hs ↔ ∃ h ∈ hs, h.rawPool? = some raw := by simp [rawPools]

theorem devices_cons : devices (h :: hs) = h.device?.toFinset ∪ devices hs := by
  ext d
  simp [mem_devices, eq_comm]

theorem rawPools_cons : rawPools (h :: hs) = h.rawPool?.toFinset ∪ rawPools hs := by
  ext raw
  simp [mem_rawPools, eq_comm]

theorem devices_perm (hperm : hs.Perm hs') : devices hs = devices hs' :=
  List.toFinset_eq_of_perm _ _ (hperm.filterMap _)

theorem rawPools_perm (hperm : hs.Perm hs') : rawPools hs = rawPools hs' :=
  List.toFinset_eq_of_perm _ _ (hperm.filterMap _)

end Shares

/-- All that some holders own. -/
def owned (hs : List Holder) : Multiset Entry :=
  ∑ d ∈ devices hs, d.entries + ∑ raw ∈ rawPools hs, {raw.entry} + (hs.map Holder.entries).sum

/-- What a holder adds to what others own. -/
def Holder.adds (h : Holder) (hs : List Holder) : Multiset Entry :=
  ∑ d ∈ h.device?.toFinset \ devices hs, d.entries +
    ∑ raw ∈ h.rawPool?.toFinset \ rawPools hs, {raw.entry} + h.entries

section Owned

variable {h : Holder} {hs hs' : List Holder} {d : Device} {raw : RawPool}

theorem owned_cons (h : Holder) (hs : List Holder) : owned (h :: hs) = h.adds hs + owned hs := by
  have hsplit {α : Type} [DecidableEq α] (s t : Finset α) (f : α → Multiset Entry) :
      ∑ a ∈ s ∪ t, f a = ∑ a ∈ s \ t, f a + ∑ a ∈ t, f a := by
    rw [← Finset.sdiff_union_self_eq_union, Finset.sum_union Finset.sdiff_disjoint]
  rw [owned, owned, Holder.adds, devices_cons, rawPools_cons, hsplit, hsplit, List.map_cons,
    List.sum_cons]
  abel

theorem owned_perm (hperm : hs.Perm hs') : owned hs = owned hs' := by
  rw [owned, owned, devices_perm hperm, rawPools_perm hperm, (hperm.map _).sum_eq]

@[simp] theorem owned_nil : owned [] = 0 := rfl

/-- A holder adds only what it owns alone when others share its device and its raw pool. -/
theorem adds_eq_entries (hdevice : ∀ d, h.device? = some d → d ∈ devices hs)
    (hpool : ∀ raw, h.rawPool? = some raw → raw ∈ rawPools hs) : h.adds hs = h.entries := by
  have hd : h.device?.toFinset \ devices hs = ∅ := by
    simpa [Finset.sdiff_eq_empty_iff_subset, Finset.subset_iff] using hdevice
  have hr : h.rawPool?.toFinset \ rawPools hs = ∅ := by
    simpa [Finset.sdiff_eq_empty_iff_subset, Finset.subset_iff] using hpool
  simp [Holder.adds, hd, hr]

/-- The last share in a device adds all that the device owns. -/
theorem adds_eq_device (hdevice : h.device? = some d) (hd : d ∉ devices hs)
    (hpool : h.rawPool? = none) (hentries : h.entries = 0) : h.adds hs = d.entries := by
  simp [Holder.adds, hdevice, hpool, hentries, Finset.sdiff_eq_self_of_disjoint, hd]

theorem mem_owned {e : Entry} : e ∈ owned hs ↔ (∃ d ∈ devices hs, e ∈ d.entries) ∨
    (∃ raw ∈ rawPools hs, e = raw.entry) ∨ ∃ h ∈ hs, e ∈ h.entries := by
  have hsum : e ∈ (hs.map Holder.entries).sum ↔ ∃ h ∈ hs, e ∈ h.entries := by
    induction hs with
    | nil => simp
    | cons h hs ih => simp [ih]
  simp [owned, hsum, Multiset.mem_sum, or_assoc]

end Owned

/-! ## Coherent holders -/

/-- Stamps below `n` tell shared objects apart. -/
structure Stamped {α : Type} (stamp : α → Nat) (n : Nat) (s : Finset α) : Prop where
  lt : ∀ a ∈ s, stamp a < n
  inj : ∀ a ∈ s, ∀ b ∈ s, stamp a = stamp b → a = b

section Stamped

variable {α : Type} {stamp : α → Nat} {n m : Nat} {s t : Finset α}

theorem Stamped.mono (h : Stamped stamp n s) (hsub : t ⊆ s) (hn : n ≤ m) : Stamped stamp m t where
  lt a ha := (h.lt a (hsub ha)).trans_le hn
  inj a ha b hb := h.inj a (hsub ha) b (hsub hb)

/-- What has a new stamp is new. -/
theorem Stamped.notMem (h : Stamped stamp n s) {a : α} (ha : stamp a = n) : a ∉ s := by
  intro hm
  have hlt := h.lt a hm
  omega

theorem Stamped.insert [DecidableEq α] (h : Stamped stamp n s) {a : α} (ha : stamp a = n) :
    Stamped stamp (n + 1) (insert a s) := by
  constructor
  · intro b hb
    rcases Finset.mem_insert.1 hb with rfl | hbs
    · omega
    · grind [h.lt b hbs]
  · intro b hb c hc hbc
    rcases Finset.mem_insert.1 hb with hba | hbs <;> rcases Finset.mem_insert.1 hc with hca | hcs
    · rw [hba, hca]
    · grind [h.lt c hcs]
    · grind [h.lt b hbs]
    · exact h.inj b hbs c hcs hbc

/-- Whether one of some holders has a share is told by the stamp. -/
theorem Stamped.any_iff (h : Stamped stamp n s) {hs : List Holder} {share : Holder → Option α}
    (hshare : ∀ x ∈ hs, ∀ a, share x = some a → a ∈ s) {a : α} (ha : a ∈ s) :
    hs.any (fun x => (share x).map stamp == some (stamp a)) ↔ ∃ x ∈ hs, share x = some a := by
  simp only [List.any_eq_true, beq_iff_eq]
  constructor
  · rintro ⟨x, hx, heq⟩
    obtain ⟨b, hb, hstamp⟩ := Option.map_eq_some_iff.1 heq
    obtain rfl : b = a := h.inj b (hshare x hx b hb) a ha hstamp
    exact ⟨x, hx, hb⟩
  · rintro ⟨x, hx, hxa⟩
    exact ⟨x, hx, by simp [hxa]⟩

/-- Somebody else has a share in a device exactly when its stamp is that of one of theirs. -/
theorem Stamped.deviceHeld_iff {x : Holder} {hs : List Holder} {d : Device}
    (h : Stamped Device.stamp n (devices (x :: hs))) (hd : x.device? = some d) :
    deviceHeld hs d ↔ d ∈ devices hs := by
  rw [mem_devices]
  apply h.any_iff
  · intro y hy d hd
    exact mem_devices.2 ⟨y, List.mem_cons_of_mem x hy, hd⟩
  · exact mem_devices.2 ⟨x, List.mem_cons_self, hd⟩

theorem Stamped.poolHeld_iff {x : Holder} {hs : List Holder} {raw : RawPool}
    (h : Stamped RawPool.stamp n (rawPools (x :: hs))) (hraw : x.rawPool? = some raw) :
    poolHeld hs raw ↔ raw ∈ rawPools hs := by
  rw [mem_rawPools]
  apply h.any_iff
  · intro y hy raw hraw
    exact mem_rawPools.2 ⟨y, List.mem_cons_of_mem x hy, hraw⟩
  · exact mem_rawPools.2 ⟨x, List.mem_cons_self, hraw⟩

end Stamped

/-- Stamps tell apart what some holders share, and no two work pools own the same raw pool. -/
structure Shared (n : Nat) (hs : List Holder) : Prop where
  deviceStamps : Stamped Device.stamp n (devices hs)
  poolStamps : Stamped RawPool.stamp n (rawPools hs)
  once : (hs.filterMap Holder.ownPool?).Nodup

section Shared

variable {n : Nat} {h x : Holder} {hs : List Holder} {raw : RawPool} {p q : WorkPool}

theorem Shared.tail (hshared : Shared n (h :: hs)) : Shared n hs where
  deviceStamps := hshared.deviceStamps.mono (devices_cons ▸ Finset.subset_union_right) le_rfl
  poolStamps := hshared.poolStamps.mono (rawPools_cons ▸ Finset.subset_union_right) le_rfl
  once := hshared.once.sublist ((List.sublist_cons_self h hs).filterMap _)

/-- A work pool may take on a raw pool with a new stamp, in place of the one that it had. -/
theorem Shared.add_pool (hshared : Shared n (.pool p :: hs)) (hq : q.raw = some raw)
    (hdevice : q.device = p.device) (hstamp : raw.stamp = n) : Shared (n + 1) (.pool q :: hs) := by
  have hsame : devices (.pool q :: hs) = devices (.pool p :: hs) := by
    simp [devices_cons, Holder.device?, hdevice]
  have hinsert : rawPools (.pool q :: hs) = insert raw (rawPools hs) := by
    rw [rawPools_cons, Holder.rawPool?, hq, Option.toFinset_some, Finset.insert_eq]
  refine ⟨hsame ▸ hshared.deviceStamps.mono subset_rfl (Nat.le_succ n),
    hinsert ▸ hshared.tail.poolStamps.insert hstamp, ?_⟩
  rw [List.filterMap_cons, Holder.ownPool?, hq]
  refine List.nodup_cons.2 ⟨?_, hshared.tail.once⟩
  intro hm
  obtain ⟨x, hx, hown⟩ := List.mem_filterMap.1 hm
  cases x with
  | pool p' => exact hshared.tail.poolStamps.notMem hstamp (mem_rawPools.2 ⟨_, hx, hown⟩)
  | context | share | unit | inst | bareDevice => cases hown

/-- Only units can share the raw pool of a work pool, and a stamp tells whether one does. -/
theorem Shared.isUnitOn_iff (hshared : Shared n (.pool p :: hs)) (hraw : p.raw = some raw)
    (hx : x ∈ hs) : x.isUnitOn raw ↔ x.rawPool? = some raw := by
  cases x with
  | unit u =>
    simp only [Holder.isUnitOn, beq_iff_eq, Option.map_eq_some_iff, Holder.rawPool?]
    constructor
    · rintro ⟨raw', hraw', hstamp⟩
      have hmem : raw ∈ rawPools (.pool p :: hs) := mem_rawPools.2 ⟨_, List.mem_cons_self, hraw⟩
      have hmem' : raw' ∈ rawPools (.pool p :: hs) :=
        mem_rawPools.2 ⟨_, List.mem_cons_of_mem _ hx, hraw'⟩
      exact hshared.poolStamps.inj raw' hmem' raw hmem hstamp ▸ hraw'
    · intro hu
      exact ⟨raw, hu, rfl⟩
  | pool p' =>
    have hother : p'.raw ≠ some raw := by
      intro heq
      have honce := hshared.once
      simp only [List.filterMap_cons, Holder.ownPool?, hraw, List.nodup_cons] at honce
      exact honce.1 (List.mem_filterMap.2 ⟨_, hx, heq⟩)
    simp [Holder.isUnitOn, Holder.rawPool?, hother]
  | context | share | inst | bareDevice => simp [Holder.isUnitOn, Holder.rawPool?]

theorem Shared.unitsOn_eq_zero_iff (hshared : Shared n (.pool p :: hs)) (hraw : p.raw = some raw) :
    unitsOn (.pool p :: hs) raw = 0 ↔ raw ∉ rawPools hs := by
  have hunits : unitsOn (.pool p :: hs) raw = unitsOn hs raw := by simp [unitsOn, Holder.isUnitOn]
  rw [hunits, unitsOn, List.countP_eq_zero, mem_rawPools, not_exists]
  apply forall_congr'
  intro x
  rw [not_and]
  apply imp_congr_right
  intro hx
  exact not_congr (hshared.isUnitOn_iff hraw hx)

end Shared

/-- The buffer and the fence are there together, and only with a pool. -/
structure WorkUnit.Sound (u : WorkUnit) : Prop where
  fence : u.isAllocated = !u.fence.isNull
  pool : u.isAllocated → u.pool ≠ none

/-- A holder has a share in a device and in at most one raw pool, which is of that device. -/
structure Holder.Sound (host : Object → Prop) (h : Holder) : Prop where
  device : ∃ d, h.device? = some d ∧ (d.owner = none → host d.handle.object)
  pool : ∀ raw, h.rawPool? = some raw → h.device? = some raw.device
  unit : ∀ u, h = .unit u → u.Sound

/-- Holders that agree on what they share. A raw pool belongs to the one work pool that created
it, and to units. -/
structure Coherent (host : Object → Prop) (n : Nat) (hs : List Holder) : Prop where
  sound : ∀ h ∈ hs, h.Sound host
  deviceStamps : Stamped Device.stamp n (devices hs)
  poolStamps : Stamped RawPool.stamp n (rawPools hs)
  once : (hs.filterMap Holder.ownPool?).Nodup

section Coherent

variable {host : Object → Prop} {n m : Nat} {h : Holder} {hs hs' : List Holder} {d : Device}
  {raw : RawPool}

theorem Coherent.shared (hcoherent : Coherent host n hs) : Shared n hs :=
  ⟨hcoherent.deviceStamps, hcoherent.poolStamps, hcoherent.once⟩

/-- Sound holders that share no more than coherent ones do are coherent. -/
theorem Coherent.of_subset (hcoherent : Coherent host n hs) (hsound : ∀ h ∈ hs', h.Sound host)
    (hdevices : devices hs' ⊆ devices hs)
    (hpools : rawPools hs' ⊆ rawPools hs) (honce : (hs'.filterMap Holder.ownPool?).Nodup) :
    Coherent host n hs' where
  sound := hsound
  deviceStamps := hcoherent.deviceStamps.mono hdevices le_rfl
  poolStamps := hcoherent.poolStamps.mono hpools le_rfl
  once := honce

theorem Coherent.mono (hcoherent : Coherent host n hs) (hn : n ≤ m) : Coherent host m hs where
  sound := hcoherent.sound
  deviceStamps := hcoherent.deviceStamps.mono subset_rfl hn
  poolStamps := hcoherent.poolStamps.mono subset_rfl hn
  once := hcoherent.once

theorem Coherent.perm (hcoherent : Coherent host n hs) (hperm : hs.Perm hs') :
    Coherent host n hs' :=
  hcoherent.of_subset (fun h hm => hcoherent.sound h (hperm.mem_iff.2 hm))
    (devices_perm hperm).ge (rawPools_perm hperm).ge
    ((hperm.filterMap _).nodup_iff.1 hcoherent.once)

theorem Coherent.tail (hcoherent : Coherent host n (h :: hs)) : Coherent host n hs := by
  refine hcoherent.of_subset ?_ ?_ ?_ ?_
  · intro x hm
    exact hcoherent.sound x (by simp [hm])
  · rw [devices_cons]
    exact Finset.subset_union_right
  · rw [rawPools_cons]
    exact Finset.subset_union_right
  · exact hcoherent.once.sublist ((List.sublist_cons_self h hs).filterMap _)

theorem coherent_nil : Coherent host n [] where
  sound := by simp
  deviceStamps := ⟨by simp [devices], by simp [devices]⟩
  poolStamps := ⟨by simp [rawPools], by simp [rawPools]⟩
  once := by simp

theorem Coherent.device_known (hcoherent : Coherent host n hs)
    (hd : d ∈ devices hs) :
    d.handle.object ∈ objects (owned hs) ∨ host d.handle.object := by
  obtain ⟨h, hm, hdevice⟩ := mem_devices.1 hd
  obtain ⟨d', hdevice', hhost⟩ := (hcoherent.sound h hm).device
  obtain rfl : d' = d := by simpa [hdevice] using hdevice'.symm
  cases howner : d'.owner with
  | none => exact .inr (hhost howner)
  | some i =>
    refine .inl (mem_objects.2 ⟨⟨d'.handle.object, [i.handle.object]⟩, ?_, rfl⟩)
    exact mem_owned.2 (.inl ⟨d', hd, by simp [Device.entries, howner]⟩)

theorem pool_known (hraw : raw ∈ rawPools hs) : raw.handle.object ∈ objects (owned hs) :=
  mem_objects.2 ⟨raw.entry, mem_owned.2 (.inr (.inl ⟨raw, hraw, rfl⟩)), rfl⟩

theorem closed_instance (i : Instance) : Closed host i.entries := by
  obtain ⟨handle, callback⟩ := i
  cases callback with
  | none => simp [Closed, Instance.entries]
  | some callback => simp [Closed, Instance.entries, objects]

theorem mem_instance_entries (i : Instance) : i.handle.object ∈ objects i.entries := by
  obtain ⟨handle, callback⟩ := i
  cases callback <;> simp [Instance.entries, objects]

theorem closed_device (d : Device) : Closed host d.entries := by
  unfold Device.entries
  split
  · exact closed_zero
  · next i _ => exact (closed_instance i).cons (by simp [mem_instance_entries])

/-- The fence and the buffer of a unit are made from its device and its raw pool. -/
theorem WorkUnit.eq_of_mem_parents {u : WorkUnit} {e : Entry} (he : e ∈ u.entries) {o : Object}
    (ho : o ∈ e.parents) :
    o = u.device.handle.object ∨ ∃ raw, u.pool = some raw ∧ o = raw.handle.object := by
  rcases Multiset.mem_add.1 he with hfence | hbuffer
  · unfold fenceEntries at hfence
    split at hfence
    · simp at hfence
    · obtain rfl := Multiset.mem_singleton.1 hfence
      grind
  · unfold bufferEntries at hbuffer
    split at hbuffer
    · simp at hbuffer
    next raw hpool =>
      split at hbuffer
      · obtain rfl := Multiset.mem_singleton.1 hbuffer
        grind
      · simp at hbuffer

/-- All that coherent holders own was created from what they own or the caller brought along. -/
theorem Coherent.closed (hcoherent : Coherent host n hs) : Closed host (owned hs) := by
  intro e he o ho
  rcases mem_owned.1 he with ⟨d, hd, he'⟩ | ⟨raw, hraw, rfl⟩ | ⟨h, hm, he'⟩
  · rcases closed_device d e he' o ho with hknown | hhost
    · obtain ⟨x, hx, rfl⟩ := mem_objects.1 hknown
      exact .inl (mem_objects_of_mem (mem_owned.2 (.inl ⟨d, hd, hx⟩)))
    · exact .inr hhost
  · obtain ⟨h, hm, hpool⟩ := mem_rawPools.1 hraw
    obtain rfl : o = raw.device.handle.object := by simpa [RawPool.entry] using ho
    exact hcoherent.device_known (mem_devices.2 ⟨h, hm, (hcoherent.sound h hm).pool raw hpool⟩)
  · cases h with
    | unit u =>
      rcases WorkUnit.eq_of_mem_parents he' ho with rfl | ⟨raw, hpool, rfl⟩
      · exact hcoherent.device_known (mem_devices.2 ⟨_, hm, rfl⟩)
      · exact .inl (pool_known (mem_rawPools.2 ⟨_, hm, hpool⟩))
    | context | share | pool | inst | bareDevice => simp [Holder.entries] at he'

end Coherent

/-! ## Accounts -/

/-- Coherent holders own exactly the live objects, each once. -/
structure Accounts (host : Object → Prop) (n : Nat) (hs : List Holder) (live : Multiset Entry) :
    Prop where
  coherent : Coherent host n hs
  live_eq : live = owned hs
  nodup : (objects live).Nodup

section Accounts

variable {host : Object → Prop} {n m : Nat} {h h' : Holder} {hs hs' : List Holder}
  {live : Multiset Entry} {d : Device} {raw : RawPool}

theorem accounts_nil : Accounts host n [] 0 := ⟨coherent_nil, rfl, by simp⟩

theorem Accounts.mono (hacc : Accounts host n hs live) (hn : n ≤ m) : Accounts host m hs live :=
  ⟨hacc.coherent.mono hn, hacc.live_eq, hacc.nodup⟩

theorem Accounts.perm (hacc : Accounts host n hs live) (hperm : hs.Perm hs') :
    Accounts host n hs' live :=
  ⟨hacc.coherent.perm hperm, hacc.live_eq.trans (owned_perm hperm), hacc.nodup⟩

theorem Accounts.closed (hacc : Accounts host n hs live) : Closed host live :=
  hacc.live_eq ▸ hacc.coherent.closed

theorem Accounts.live_cons (hacc : Accounts host n (h :: hs) live) :
    live = h.adds hs + owned hs := hacc.live_eq.trans (owned_cons h hs)

/-- What holders have a share in is known to the ledger. -/
theorem Accounts.device_known (hacc : Accounts host n hs live) (hd : d ∈ devices hs) :
    d.handle.object ∈ objects live ∨ host d.handle.object :=
  hacc.live_eq ▸ hacc.coherent.device_known hd

/-- A holder of what others share as well may come or go. -/
theorem Accounts.hold (hacc : Accounts host n hs live) (hsound : h.Sound host)
    (hdevice : ∀ d, h.device? = some d → d ∈ devices hs)
    (hpool : ∀ raw, h.rawPool? = some raw → raw ∈ rawPools hs) (hentries : h.entries = 0)
    (hown : h.ownPool? = none) : Accounts host n (h :: hs) live := by
  have hadds : h.adds hs = 0 := (adds_eq_entries hdevice hpool).trans hentries
  refine ⟨hacc.coherent.of_subset ?_ ?_ ?_ ?_, ?_, hacc.nodup⟩
  · intro x hx
    rcases List.mem_cons.1 hx with rfl | hx
    · exact hsound
    · exact hacc.coherent.sound x hx
  · rw [devices_cons]
    apply Finset.union_subset _ subset_rfl
    intro d hd
    exact hdevice d (by simpa [eq_comm] using hd)
  · rw [rawPools_cons]
    apply Finset.union_subset _ subset_rfl
    intro raw hraw
    exact hpool raw (by simpa [eq_comm] using hraw)
  · simpa [hown] using hacc.coherent.once
  · rw [owned_cons, hadds, zero_add]
    exact hacc.live_eq

theorem Accounts.forget (hacc : Accounts host n (h :: hs) live)
    (hdevice : ∀ d, h.device? = some d → d ∈ devices hs)
    (hpool : ∀ raw, h.rawPool? = some raw → raw ∈ rawPools hs) (hentries : h.entries = 0) :
    Accounts host n hs live := by
  have hadds : h.adds hs = 0 := (adds_eq_entries hdevice hpool).trans hentries
  refine ⟨hacc.coherent.tail, ?_, hacc.nodup⟩
  rw [hacc.live_cons, hadds, zero_add]

end Accounts

end VulkanExec
