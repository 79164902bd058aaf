import VulkanExec.Proofs.Release

/-!
# Calls of driver functions

A command calls a function of the driver. Before the call, the name of the function has to be
resolved in its scope: without an instance, or with the instance that the command belongs to.

## Main definitions

- `Resolved`, `AllResolved`: a name was found with an instance; several were;
- `BelongsTo`: a device belongs to an instance;
- `Command.inst?`: the instance that a command is for;
- `Command.Found`: the function of a command was found in its scope;
- `Command.Callable`, `calls`: what is owed at a call, and the monitor of it;
- `Instance.Ready`, `Device.Ready`, `Holder.Ready`: all that a release calls was found.

A single call is spared: the release of an instance with which the name of this very function was
looked for in vain. What is ready stays ready, and may be dropped at any time
(`Holder.Ready.only_drop`).
-/

namespace VulkanExec

open Program

/-- A name was found with an instance. -/
def Resolved (past : List Event) (inst : InstanceHandle) (name : String) : Prop :=
  ∃ address, .answered (.resolve inst name) (some address) ∈ past

/-- Each of some names was found with an instance. -/
def AllResolved (past : List Event) (inst : InstanceHandle) (names : List String) : Prop :=
  ∀ name ∈ names, Resolved past inst name

/-- A device was created from an instance, or wrapped with it. -/
def BelongsTo (past : List Event) (d : DeviceHandle) (inst : InstanceHandle) : Prop :=
  (∃ physical request, .answered (.createDevice inst physical request) (.ok d) ∈ past) ∨
    .answered (.wrapDevice inst d) () ∈ past

namespace Command

/-- The instance whose functions a command calls. -/
def inst? : Command → Option InstanceHandle
  | destroyInstance i | createMessenger i _ | destroyMessenger i _ | physicalDevices i
  | features i _ | deviceExtensions i _ | queueFamilies i _ | properties i _ | memoryLayout i _
  | createDevice i _ _ => some i
  | _ => none

/-- The function of a command was found in the scope that it is listed under: the command is for an
instance or for a device that belongs to one, unless the scope is the global one. -/
def Found (past : List Event) (c : Command) (entry : EntryPoint) : Prop :=
  match entry.scope with
  | .global => Resolved past .null entry.name
  | .perInstance => ∃ i, (c.inst? = some i ∨ ∃ d, c.device? = some d ∧ BelongsTo past d i) ∧
      Resolved past i entry.name

/-- The function of a command was found, or the command is the release of an instance with which
this function was looked for in vain. -/
def Callable (past : List Event) (c : Command) : Prop :=
  ∀ name, c.function? = some name → ∃ entry ∈ EntryPoint.catalog, entry.name = name ∧
    (c.Found past entry ∨ ∃ i, c = .destroyInstance i ∧ .answered (.resolve i name) none ∈ past)

end Command

/-- What is owed at an event. -/
def Event.Callable (past : List Event) : Event → Prop
  | answered c _ => c.Callable past
  | noted _ => True

/-- The monitor of calls. -/
def calls : Monitor (List Event) := .history fun past e => e.Callable past

section Callable

variable {past later events : List Event} {inst : InstanceHandle} {d : DeviceHandle}
  {name : String} {c : Command}

theorem Resolved.mono (h : Resolved past inst name) (hle : past ⊆ later) :
    Resolved later inst name := by
  obtain ⟨address, h⟩ := h
  exact ⟨address, hle h⟩

theorem AllResolved.mono {names : List String} (h : AllResolved past inst names)
    (hle : past ⊆ later) : AllResolved later inst names :=
  fun name hname => (h name hname).mono hle

theorem BelongsTo.mono (h : BelongsTo past d inst) (hle : past ⊆ later) :
    BelongsTo later d inst := by
  rcases h with ⟨physical, request, h⟩ | h
  · exact .inl ⟨physical, request, hle h⟩
  · exact .inr (hle h)

namespace Command

theorem Found.mono {entry : EntryPoint} (h : c.Found past entry) (hle : past ⊆ later) :
    c.Found later entry := by
  unfold Found at *
  split at h
  · exact h.mono hle
  · obtain ⟨i, hi | ⟨d, hd, hbelongs⟩, hresolved⟩ := h
    · exact ⟨i, .inl hi, hresolved.mono hle⟩
    · exact ⟨i, .inr ⟨d, hd, hbelongs.mono hle⟩, hresolved.mono hle⟩

theorem Callable.mono (h : c.Callable past) (hle : past ⊆ later) : c.Callable later := by
  intro name hname
  obtain ⟨entry, hentry, heq, hfound | ⟨i, hi, hnone⟩⟩ := h name hname
  · exact ⟨entry, hentry, heq, .inl (hfound.mono hle)⟩
  · exact ⟨entry, hentry, heq, .inr ⟨i, hi, hle hnone⟩⟩

/-- A command that calls no function may always be put. -/
theorem callable_of_none (h : c.function? = none) : c.Callable past := by
  intro name hname
  simp [h] at hname

/-- A command for a global function may be put when all of them were found. -/
theorem callable_of_global (h : AllResolved past .null EntryPoint.globalNames)
    (hc : ∃ name ∈ EntryPoint.globalNames, c.function? = some name) : c.Callable past := by
  intro name hname
  obtain ⟨_, hmem, hsame⟩ := hc
  obtain rfl := Option.some.inj (hname.symm.trans hsame)
  exact ⟨⟨name, .global, true⟩, by simp [EntryPoint.catalog, hmem], rfl, .inl (h name hmem)⟩

/-- The functions of a device's commands are required of every instance. -/
theorem mem_instanceNames_of_device (h : c.device? = some d) (hname : c.function? = some name) :
    name ∈ EntryPoint.instanceNames := by
  cases c <;> simp only [device?, reduceCtorEq] at h <;> cases hname <;> decide +kernel

/-- The functions of an instance's commands are listed under the instance. -/
theorem mem_names_of_inst (h : c.inst? = some inst) (hname : c.function? = some name) :
    name ∈ EntryPoint.instanceNames ∨ name ∈ EntryPoint.messengerNames := by
  cases c <;> simp only [inst?, reduceCtorEq] at h <;> cases hname <;> decide +kernel

/-- A command for an instance may be put when its function was found with the instance. -/
theorem callable_of_inst {names : List String} (h : AllResolved past inst names)
    (hinst : c.inst? = some inst) (hc : ∃ name ∈ names, c.function? = some name) :
    c.Callable past := by
  intro name hname
  obtain ⟨_, hmem, hsame⟩ := hc
  obtain rfl := Option.some.inj (hname.symm.trans hsame)
  rcases mem_names_of_inst hinst hname with hlisted | hlisted
  · exact ⟨⟨name, .perInstance, true⟩, by simp [EntryPoint.catalog, hlisted], rfl,
      .inl ⟨inst, .inl hinst, h name hmem⟩⟩
  · exact ⟨⟨name, .perInstance, false⟩, by simp [EntryPoint.catalog, hlisted], rfl,
      .inl ⟨inst, .inl hinst, h name hmem⟩⟩

/-- A command for a device may be put when the required functions were found with its instance. -/
theorem callable_of_device (h : AllResolved past inst EntryPoint.instanceNames)
    (hbelongs : BelongsTo past d inst) (hc : c.device? = some d) : c.Callable past := by
  intro name hname
  have hmem := mem_instanceNames_of_device hc hname
  exact ⟨⟨name, .perInstance, true⟩, by simp [EntryPoint.catalog, hmem], rfl,
    .inl ⟨inst, .inr ⟨d, hc, hbelongs⟩, h name hmem⟩⟩

end Command

theorem Event.Callable.mono {e : Event} (h : e.Callable past) (hle : past ⊆ later) :
    e.Callable later := by
  cases e with
  | answered c answer => exact Command.Callable.mono h hle
  | noted n => trivial

end Callable

/-! ## Calls in a row -/

/-- Every command among events may be put where it is. -/
def AllCallable (past events : List Event) : Prop := calls.Along calls.permits past events

section AllCallable

variable {past first second events : List Event} {α : Type} {p : Program α}

@[simp] theorem calls_step (past : List Event) (e : Event) : calls.step past e = past ++ [e] := rfl

theorem after_calls (past events : List Event) : calls.after past events = past ++ events :=
  Monitor.after_history past events

theorem allCallable_append : AllCallable past (first ++ second) ↔
    AllCallable past first ∧ AllCallable (past ++ first) second := by
  rw [AllCallable, Monitor.along_append, after_calls]
  rfl

/-- What may be put at once may be put at any time later. -/
theorem allCallable_of_forall (h : ∀ e ∈ events, e.Callable past) : AllCallable past events := by
  refine Monitor.along_iff.2 fun before e rest he => ?_
  rw [after_calls]
  exact (h e (by simp [he])).mono (List.subset_append_left past before)

theorem allCallable_of_only {a : α} (h : p.Only (Command.Callable past)) (hruns : p.Runs events a) :
    AllCallable past events := by
  refine allCallable_of_forall fun e he => ?_
  cases e with
  | answered c answer => exact h.of_mem hruns he
  | noted n => trivial

/-- A program whose commands may all be put at once adds to what has happened. -/
theorem meets_of_only (h : p.Only (Command.Callable past)) :
    calls.Meets p past fun _ t => past ⊆ t := by
  intro events a hruns _
  rw [after_calls]
  exact ⟨allCallable_of_only h hruns, List.subset_append_left past events⟩

end AllCallable

/-! ## Readiness -/

/-- All functions that the release of an instance calls were found with it. -/
structure Instance.Ready (past : List Event) (i : Instance) : Prop where
  required : AllResolved past i.handle EntryPoint.instanceNames
  messenger : i.callback.isSome → AllResolved past i.handle EntryPoint.messengerNames

/-- All functions for a device were found with an instance that it belongs to, and the instance that
is released after it is ready. -/
structure Device.Ready (past : List Event) (d : Device) : Prop where
  usable : ∃ i, BelongsTo past d.handle i ∧ AllResolved past i EntryPoint.instanceNames
  owner : ∀ i, d.owner = some i → i.Ready past

/-- All that a holder has a share in is ready. -/
structure Holder.Ready (past : List Event) (h : Holder) : Prop where
  device : ∀ d, h.device? = some d → d.Ready past
  pool : ∀ raw, h.rawPool? = some raw → raw.device.Ready past
  inst : ∀ i, h = .inst i → i.Ready past

section Ready

variable {past later : List Event}

theorem Instance.Ready.mono {i : Instance} (h : i.Ready past) (hle : past ⊆ later) :
    i.Ready later where
  required := h.required.mono hle
  messenger hcallback := (h.messenger hcallback).mono hle

theorem Device.Ready.mono {d : Device} (h : d.Ready past) (hle : past ⊆ later) :
    d.Ready later where
  usable := by
    obtain ⟨i, hbelongs, hresolved⟩ := h.usable
    exact ⟨i, hbelongs.mono hle, hresolved.mono hle⟩
  owner i howner := (h.owner i howner).mono hle

theorem Holder.Ready.mono {h : Holder} (hready : h.Ready past) (hle : past ⊆ later) :
    h.Ready later where
  device d hd := (hready.device d hd).mono hle
  pool raw hraw := (hready.pool raw hraw).mono hle
  inst i hi := (hready.inst i hi).mono hle

/-- A ready instance may be released at any time. -/
theorem Instance.Ready.only_close {i : Instance} (h : i.Ready past) :
    i.close.Only (Command.Callable past) := by
  apply only_instance_close
  · exact Command.callable_of_inst h.required rfl ⟨_, by decide, rfl⟩
  · intro callback hcallback
    exact Command.callable_of_inst (h.messenger (by simp [hcallback])) rfl ⟨_, by decide, rfl⟩

/-- A ready device may be used with any of its commands. -/
theorem Device.Ready.callable {d : Device} (h : d.Ready past) {c : Command}
    (hc : c.device? = some d.handle) : c.Callable past := by
  obtain ⟨i, hbelongs, hresolved⟩ := h.usable
  exact Command.callable_of_device hresolved hbelongs hc

theorem Device.Ready.only_release {d : Device} (h : d.Ready past) (remaining : List Holder) :
    (releaseDevice remaining d).Only (Command.Callable past) :=
  only_releaseDevice (fun _ _ hc => h.callable hc) fun i howner => (h.owner i howner).only_close

theorem Holder.Ready.only_retire {u : WorkUnit} (h : (unit u).Ready past)
    (remaining : List Holder) : (retireUnit remaining u).Only (Command.Callable past) :=
  only_retireUnit (fun _ _ hc => (h.device _ rfl).callable hc) fun raw hraw _ _ hc =>
    (h.pool raw hraw).callable hc

/-- A ready holder may be dropped at any time. -/
theorem Holder.Ready.only_drop {h : Holder} (hready : h.Ready past) (remaining : List Holder) :
    (h.drop remaining).Only (Command.Callable past) := by
  cases h with
  | context c =>
    rw [drop_context]
    exact only_tellOthers.bind fun _ => (hready.device _ rfl).only_release remaining
  | share d => exact (hready.device _ rfl).only_release remaining
  | pool p =>
    rw [drop_pool]
    exact (only_letGo fun raw hraw _ _ hc => (hready.pool raw hraw).callable hc).bind fun _ =>
      (hready.device _ rfl).only_release remaining
  | unit u =>
    rw [drop_unit]
    exact (hready.only_retire remaining).bind fun _ => (hready.device _ rfl).only_release remaining
  | inst i => exact (hready.inst i rfl).only_close
  | bareDevice d => trivial

end Ready

end VulkanExec
