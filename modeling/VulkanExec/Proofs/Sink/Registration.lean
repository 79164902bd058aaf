import VulkanExec.Proofs.Sink.Notes

/-!
# Registered sinks

What happens to sinks and messengers in an establishment and in the drop of a holder. A messenger
is created on the way to a context, and it goes when the device of that context does, or at once if
there is no device in the end.

## Main definitions

- `registrations`, `unregistrations`: the messengers that events create and destroy;
- `sinksOffered`, `sinksLetGo`: the sinks that messengers are asked for, and those that owners let
  go of;
- `devicesMade`: the devices that events create, each with its instance;
- `Event.Mute`: an event about no messenger and no sink;
- `Context.Enrolment`: what becomes of the sink of an establishment;
- `Holder.Dropping`: what goes with a holder.

The main statements are `Context.Course.enrolment` and `Holder.runs_drop`.
-/

namespace VulkanExec

open Program

/-! ## Messengers, sinks and devices among events -/

namespace Event

/-- The sink that a new messenger is asked for. -/
def offers? : Event → Option SinkId
  | answered (.createMessenger _ sink) _ => some sink
  | _ => none

/-- The messenger that an event creates, with its instance. -/
def registers? : Event → Option (InstanceHandle × MessengerHandle)
  | answered (.createMessenger i _) (.ok messenger) => some (i, messenger)
  | _ => none

/-- The messenger that an event destroys, with its instance. -/
def unregisters? : Event → Option (InstanceHandle × MessengerHandle)
  | answered (.destroyMessenger i messenger) _ => some (i, messenger)
  | _ => none

/-- The sink that an owner lets go of. -/
def letsGo? : Event → Option SinkId
  | noted (.releaseSink sink) => some sink
  | _ => none

/-- The device that an event creates, with its instance. -/
def makesDevice? : Event → Option (InstanceHandle × DeviceHandle)
  | answered (.createDevice i _ _) (.ok d) => some (i, d)
  | _ => none

end Event

/-- The sinks that new messengers are asked for, whether they are created or not. -/
def sinksOffered (events : List Event) : List SinkId := events.filterMap Event.offers?

/-- The messengers that events create, each with its instance. -/
def registrations (events : List Event) : List (InstanceHandle × MessengerHandle) :=
  events.filterMap Event.registers?

/-- The messengers that events destroy, each with its instance. -/
def unregistrations (events : List Event) : List (InstanceHandle × MessengerHandle) :=
  events.filterMap Event.unregisters?

/-- The sinks that owners let go of. -/
def sinksLetGo (events : List Event) : List SinkId := events.filterMap Event.letsGo?

/-- The devices that events create, each with its instance. -/
def devicesMade (events : List Event) : List (InstanceHandle × DeviceHandle) :=
  events.filterMap Event.makesDevice?

/-- Whether a command creates or destroys a messenger. -/
def Command.isForMessenger : Command → Bool
  | createMessenger .. | destroyMessenger .. => true
  | _ => false

/-- An event about no messenger and no sink. -/
def Event.Mute : Event → Prop
  | answered c _ => c.isForMessenger = false
  | noted n => ∃ r, n = .log r

section Lists

variable {first second events : List Event} {e : Event}

@[simp] theorem sinksOffered_append :
    sinksOffered (first ++ second) = sinksOffered first ++ sinksOffered second :=
  List.filterMap_append ..

@[simp] theorem registrations_append :
    registrations (first ++ second) = registrations first ++ registrations second :=
  List.filterMap_append ..

@[simp] theorem unregistrations_append :
    unregistrations (first ++ second) = unregistrations first ++ unregistrations second :=
  List.filterMap_append ..

@[simp] theorem sinksLetGo_append :
    sinksLetGo (first ++ second) = sinksLetGo first ++ sinksLetGo second :=
  List.filterMap_append ..

@[simp] theorem devicesMade_append :
    devicesMade (first ++ second) = devicesMade first ++ devicesMade second :=
  List.filterMap_append ..

@[simp] theorem sinksOffered_nil : sinksOffered [] = [] := rfl

@[simp] theorem sinksOffered_cons :
    sinksOffered (e :: events) = e.offers?.toList ++ sinksOffered events := by
  simp [sinksOffered, List.filterMap_eq_flatMap_toList]

@[simp] theorem registrations_nil : registrations [] = [] := rfl

@[simp] theorem registrations_cons :
    registrations (e :: events) = e.registers?.toList ++ registrations events := by
  simp [registrations, List.filterMap_eq_flatMap_toList]

@[simp] theorem unregistrations_nil : unregistrations [] = [] := rfl

@[simp] theorem unregistrations_cons :
    unregistrations (e :: events) = e.unregisters?.toList ++ unregistrations events := by
  simp [unregistrations, List.filterMap_eq_flatMap_toList]

@[simp] theorem sinksLetGo_nil : sinksLetGo [] = [] := rfl

@[simp] theorem sinksLetGo_cons :
    sinksLetGo (e :: events) = e.letsGo?.toList ++ sinksLetGo events := by
  simp [sinksLetGo, List.filterMap_eq_flatMap_toList]

@[simp] theorem devicesMade_nil : devicesMade [] = [] := rfl

@[simp] theorem devicesMade_cons :
    devicesMade (e :: events) = e.makesDevice?.toList ++ devicesMade events := by
  simp [devicesMade, List.filterMap_eq_flatMap_toList]

theorem Event.Quiet.mute (h : e.Quiet) : e.Mute := by
  cases e with
  | answered c answer => cases c <;> first | rfl | cases h
  | noted n => exact h

/-- Mute events are about no messenger and no sink. -/
theorem silent_of_mute (h : ∀ e ∈ events, e.Mute) : sinksOffered events = [] ∧
    registrations events = [] ∧ unregistrations events = [] ∧ sinksLetGo events = [] := by
  refine ⟨?_, ?_, ?_, ?_⟩ <;> refine List.filterMap_eq_nil_iff.2 fun e he => ?_
  · unfold Event.offers?
    split <;> first | rfl | cases h _ he
  · unfold Event.registers?
    split <;> first | rfl | cases h _ he
  · unfold Event.unregisters?
    split <;> first | rfl | cases h _ he
  · unfold Event.letsGo?
    split
    · obtain ⟨r, hr⟩ := h _ he
      cases hr
    · rfl

theorem devicesMade_of_quiet (h : ∀ e ∈ events, e.Quiet) : devicesMade events = [] := by
  refine List.filterMap_eq_nil_iff.2 fun e he => ?_
  have hquiet := h e he
  unfold Event.makesDevice?
  split
  · cases hquiet
  · rfl

theorem forall_mute_of_quiet (h : ∀ e ∈ events, e.Quiet) : ∀ e ∈ events, e.Mute :=
  fun e he => (h e he).mute

end Lists

/-! ## Drops -/

section Drops

variable {events : List Event} {d : Device} {i : Instance} {h : Holder} {remaining : List Holder}

/-- The release of an instance without a messenger is mute. -/
theorem Instance.forall_mute_closing (hi : i.callback = none) : ∀ e ∈ i.closing, e.Mute := by
  simp [closing, hi, Event.Mute, Command.isForMessenger]

/-- A device is waited for and destroyed, and its instance is released right after it. -/
theorem Device.runs_close (howner : d.owner = some i) (h : d.close.Runs events ()) :
    ∃ waiting record, (∀ e ∈ waiting, e.Quiet) ∧ events =
      waiting ++ .answered (.destroyDevice d.handle) () :: .noted (.log record) :: i.closing := by
  unfold close at h
  rw [howner] at h
  obtain ⟨waiting, _, _, rfl, hdrain, hdestroy⟩ := runs_bind_iff.1 h
  obtain ⟨_, _, rfl, hlog⟩ := runs_ask_iff.1 hdestroy
  obtain ⟨_, rfl, hclose⟩ := runs_log_iff.1 hlog
  obtain rfl := Instance.runs_close hclose
  have honly : Only (Command.Spares fun _ => True) (drain d.handle) :=
    only_drain (Command.spares_waitIdle trivial)
  exact ⟨waiting, _, forall_quiet honly logs_drain hdrain, rfl⟩

/-- What goes with a holder: nothing that concerns sinks while others hold its device, and
otherwise the instance after the device. -/
inductive Holder.Dropping (remaining : List Holder) (h : Holder) : List Event → Prop where
  | kept {events : List Event} (hquiet : ∀ e ∈ events, e.Quiet)
    (hheld : ∀ d i, h.device? = some d → d.owner = some i → deviceHeld remaining d) :
    Dropping remaining h events
  | closed {d : Device} {i : Instance} {before : List Event} {record : LogRecord}
    (hdevice : h.device? = some d) (howner : d.owner = some i)
    (hlast : deviceHeld remaining d = false) (hquiet : ∀ e ∈ before, e.Quiet) :
    Dropping remaining h
      (before ++ .answered (.destroyDevice d.handle) () :: .noted (.log record) :: i.closing)

/-- A holder that has done everything else lets go of its device. -/
theorem Holder.Dropping.of_releaseDevice {before : List Event} (hd : h.device? = some d)
    (hquiet : ∀ e ∈ before, e.Quiet) (hruns : (releaseDevice remaining d).Runs events ()) :
    h.Dropping remaining (before ++ events) := by
  unfold releaseDevice at hruns
  split at hruns
  · next hheld =>
    obtain ⟨rfl, -⟩ := runs_pure_iff.1 hruns
    refine .kept (by simpa using hquiet) ?_
    rintro d' i hd' -
    obtain rfl : d = d' := by simpa [hd] using hd'
    exact hheld
  · next hlast =>
    cases howner : d.owner with
    | none =>
      unfold Device.close at hruns
      rw [howner] at hruns
      obtain ⟨rfl, -⟩ := runs_pure_iff.1 hruns
      refine .kept (by simpa using hquiet) ?_
      rintro d' i hd' howner'
      obtain rfl : d = d' := by simpa [hd] using hd'
      simp [howner] at howner'
    | some i =>
      obtain ⟨waiting, record, hwaiting, rfl⟩ := Device.runs_close howner hruns
      rw [← List.append_assoc]
      refine .closed hd howner (by simpa using hlast) ?_
      exact List.forall_mem_append.2 ⟨hquiet, hwaiting⟩

/-- Every run of a drop but that of a bare instance is one of these. -/
theorem Holder.runs_drop (hinst : ∀ i, h ≠ .inst i) (hruns : (h.drop remaining).Runs events ()) :
    h.Dropping remaining events := by
  cases h with
  | context c =>
    rw [drop_context] at hruns
    obtain ⟨_, _, _, rfl, htell, hrelease⟩ := runs_bind_iff.1 hruns
    exact .of_releaseDevice rfl (forall_quiet only_tellOthers logs_tellOthers htell) hrelease
  | share d =>
    rw [← List.nil_append events]
    exact .of_releaseDevice rfl nofun hruns
  | pool p =>
    rw [drop_pool] at hruns
    obtain ⟨_, _, _, rfl, hletGo, hrelease⟩ := runs_bind_iff.1 hruns
    exact .of_releaseDevice rfl (forall_quiet only_letGo_spares logs_letGo hletGo) hrelease
  | unit u =>
    rw [drop_unit] at hruns
    obtain ⟨_, _, _, rfl, hretire, hrelease⟩ := runs_bind_iff.1 hruns
    refine .of_releaseDevice rfl (forall_quiet ?_ logs_retireUnit hretire) hrelease
    exact only_retireUnit_spares fun _ => trivial
  | inst i => exact absurd rfl (hinst i)
  | bareDevice d =>
    obtain ⟨rfl, -⟩ := runs_pure_iff.1 hruns
    exact .kept nofun nofun

end Drops

/-! ## Establishments -/

/-- The first device that events create, if any, was created from an instance and is destroyed at
their end. -/
def DestroysFirst (i : InstanceHandle) (events : List Event) : Prop :=
  ∀ made, (devicesMade events).head? = some made → made.1 = i ∧
    ∃ (before : List Event) (notes : List Note), events =
      before ++ .answered (.destroyDevice made.2) () :: notes.map .noted

/-- What becomes of the sink of an establishment. It is registered only if validation is on; it is
let go of right after its messenger if there is no device in the end. -/
inductive Context.Enrolment (config : Config) (sink : SinkId) (stamp : Nat) :
    List Event → Except Error Context → Prop where
  | failed {events : List Event} {e : Error} (hmute : ∀ e ∈ events, e.Mute) :
    Enrolment config sink stamp events (.error e)
  | refused {before after : List Event} {i : InstanceHandle} {code : ResultCode} {e : Error}
    (hon : config.validation = true) (hbefore : ∀ e ∈ before, e.Mute)
    (hafter : ∀ e ∈ after, e.Mute) :
    Enrolment config sink stamp
      (before ++ .answered (.createMessenger i sink) (.error code) :: after) (.error e)
  | silent {events : List Event} {c : Context} {d : DeviceHandle} {i : InstanceHandle}
    (hoff : config.validation = false) (hmute : ∀ e ∈ events, e.Mute)
    (hdevice : c.device = ⟨stamp, d, some ⟨i, none⟩⟩) :
    Enrolment config sink stamp events (.ok c)
  | undone {before after : List Event} {i : InstanceHandle} {messenger : MessengerHandle}
    {e : Error} (hon : config.validation = true) (hbefore : ∀ e ∈ before, e.Mute)
    (hafter : ∀ e ∈ after, e.Mute) (hfirst : DestroysFirst i after) :
    Enrolment config sink stamp
      (before ++ .answered (.createMessenger i sink) (.ok messenger) ::
        (after ++ (Instance.mk i (some ⟨messenger, sink⟩)).closing)) (.error e)
  | registered {before after : List Event} {i : InstanceHandle} {messenger : MessengerHandle}
    {d : DeviceHandle} {c : Context} (hon : config.validation = true)
    (hbefore : ∀ e ∈ before, e.Mute) (hafter : ∀ e ∈ after, e.Mute)
    (hfirst : (devicesMade after).head? = some (i, d))
    (hdevice : c.device = ⟨stamp, d, some ⟨i, some ⟨messenger, sink⟩⟩⟩) :
    Enrolment config sink stamp
      (before ++ .answered (.createMessenger i sink) (.ok messenger) :: after) (.ok c)

theorem DestroysFirst.prepend {i : InstanceHandle} {first events : List Event}
    (h : DestroysFirst i events) (hfirst : ∀ e ∈ first, e.Quiet) :
    DestroysFirst i (first ++ events) := by
  intro made hmade
  rw [devicesMade_append, devicesMade_of_quiet hfirst, List.nil_append] at hmade
  obtain ⟨hi, before, notes, rfl⟩ := h made hmade
  exact ⟨hi, first ++ before, notes, by simp⟩

section Enrolment

variable {config : Config} {sink : SinkId} {stamp : Nat} {events : List Event}

theorem forall_quiet_resolve {table : EntryTable} {scope : EntryScope} {inst : InstanceHandle}
    {r : Except Error EntryTable} (h : (table.resolveWith scope inst).Runs events r) :
    ∀ e ∈ events, e.Quiet :=
  forall_quiet (only_resolveWith fun _ => ⟨rfl, nofun⟩) logs_resolveWith h

theorem forall_quiet_checkSupport {r : Except Error Unit}
    (h : (Instance.checkSupport config).Runs events r) : ∀ e ∈ events, e.Quiet :=
  forall_quiet (only_checkSupport ⟨rfl, nofun⟩ fun _ => ⟨rfl, nofun⟩) logs_checkSupport h

theorem forall_quiet_choose {inst : InstanceHandle} {capabilities : List Capability}
    {extensions : List String} {r : Except Error Choice}
    (h : (Candidate.choose inst capabilities extensions).Runs events r) :
    ∀ e ∈ events, e.Quiet :=
  forall_quiet (only_choose ⟨rfl, nofun⟩ (fun _ => ⟨rfl, nofun⟩) (fun _ => ⟨rfl, nofun⟩)
    fun _ => ⟨rfl, nofun⟩) logs_choose h

theorem forall_quiet_around {entries : EntryTable} {device : Device} {inst : InstanceHandle}
    {physical : PhysicalDeviceHandle} {queue : QueueHandle} {family : UInt32} {c : Context}
    (h : (Context.around config entries device inst physical queue family).Runs events c) :
    ∀ e ∈ events, e.Quiet :=
  forall_quiet (only_around ⟨rfl, nofun⟩ ⟨rfl, nofun⟩) logs_around h

namespace Instance

/-- An instance is created without a messenger, and mutely. -/
theorem Creation.mute {r : Except Error Instance} (h : Creation config events r) :
    (∀ e ∈ events, e.Mute) ∧ ∀ i, r = .ok i → i.callback = none := by
  cases h with
  | refused => exact ⟨nofun, nofun⟩
  | failed => exact ⟨by simp [Event.Mute, Command.isForMessenger], nofun⟩
  | created =>
    refine ⟨by simp [Event.Mute, Command.isForMessenger], ?_⟩
    rintro _ ⟨⟩
    rfl

/-- How an instance gets its messenger: the sink is registered, or it is refused, or validation is
off. -/
inductive Enrolment (config : Config) (sink : SinkId) :
    List Event → Except Error Instance → Prop where
  | failed {events : List Event} {e : Error} (hmute : ∀ e ∈ events, e.Mute) :
    Enrolment config sink events (.error e)
  | refused {before after : List Event} {i : InstanceHandle} {code : ResultCode} {e : Error}
    (hon : config.validation = true) (hbefore : ∀ e ∈ before, e.Mute)
    (hafter : ∀ e ∈ after, e.Mute) :
    Enrolment config sink
      (before ++ .answered (.createMessenger i sink) (.error code) :: after) (.error e)
  | silent {events : List Event} {i : InstanceHandle} (hoff : config.validation = false)
    (hmute : ∀ e ∈ events, e.Mute) : Enrolment config sink events (.ok ⟨i, none⟩)
  | registered {before after : List Event} {i : InstanceHandle} {messenger : MessengerHandle}
    (hon : config.validation = true) (hbefore : ∀ e ∈ before, e.Mute)
    (hafter : ∀ e ∈ after, e.Quiet) :
    Enrolment config sink
      (before ++ .answered (.createMessenger i sink) (.ok messenger) :: after)
      (.ok ⟨i, some ⟨messenger, sink⟩⟩)

/-- Mute events may come before. -/
theorem Enrolment.prepend {first : List Event} {r : Except Error Instance}
    (h : Enrolment config sink events r) (hfirst : ∀ e ∈ first, e.Mute) :
    Enrolment config sink (first ++ events) r := by
  cases h with
  | failed hmute => exact .failed (List.forall_mem_append.2 ⟨hfirst, hmute⟩)
  | refused hon hbefore hafter =>
    rw [← List.append_assoc]
    exact .refused hon (List.forall_mem_append.2 ⟨hfirst, hbefore⟩) hafter
  | silent hoff hmute => exact .silent hoff (List.forall_mem_append.2 ⟨hfirst, hmute⟩)
  | registered hon hbefore hafter =>
    rw [← List.append_assoc]
    exact .registered hon (List.forall_mem_append.2 ⟨hfirst, hbefore⟩) hafter

/-- Mute events may come after a failure. -/
theorem Enrolment.append {last : List Event} {e : Error}
    (h : Enrolment config sink events (.error e)) (hlast : ∀ e ∈ last, e.Mute) :
    Enrolment config sink (events ++ last) (.error e) := by
  cases h with
  | failed hmute => exact .failed (List.forall_mem_append.2 ⟨hmute, hlast⟩)
  | refused hon hbefore hafter =>
    rw [List.append_assoc, List.cons_append]
    exact .refused hon hbefore (List.forall_mem_append.2 ⟨hafter, hlast⟩)

theorem Registration.enrolment {i : Instance} {table : EntryTable} {r : Except Error Instance}
    (h : Registration i table sink events r) (hon : config.validation = true)
    (hi : i.callback = none) : Enrolment config sink events r := by
  have hnil : ∀ e ∈ ([] : List Event), e.Mute := nofun
  cases h with
  | refused => exact .failed hnil
  | failed => exact .refused hon hnil hnil
  | registered notes _ hnotes =>
    refine .registered hon hnil ?_
    simpa [Event.Quiet] using hnotes hi

theorem Equipment.enrolment {i : Instance} {table : EntryTable}
    {r : Except Error (Instance × EntryTable)} (h : Equipment i config table sink events r)
    (hi : i.callback = none) : Enrolment config sink events (r.map Prod.fst) := by
  obtain ⟨handle, callback⟩ := i
  obtain rfl : callback = none := hi
  cases h with
  | unresolved resolving =>
    exact .failed (forall_mute_of_quiet (forall_quiet_resolve resolving))
  | silent hoff resolving =>
    exact .silent hoff (forall_mute_of_quiet (forall_quiet_resolve resolving))
  | unregistered hon resolving registering | registered hon resolving registering =>
    exact (registering.enrolment hon rfl).prepend
      (forall_mute_of_quiet (forall_quiet_resolve resolving))

theorem Course.enrolment {table : EntryTable} {r : Except Error (Instance × EntryTable)}
    (h : Course config table sink events r) : Enrolment config sink events (r.map Prod.fst) := by
  cases h with
  | unsupported checking =>
    exact .failed (forall_mute_of_quiet (forall_quiet_checkSupport checking))
  | uncreated checking creating =>
    refine .failed (List.forall_mem_append.2 ⟨?_, creating.mute.1⟩)
    exact forall_mute_of_quiet (forall_quiet_checkSupport checking)
  | unequipped checking creating equipping =>
    obtain ⟨hmute, hnone⟩ := creating.mute
    have hi := hnone _ rfl
    refine Enrolment.prepend ?_ (forall_mute_of_quiet (forall_quiet_checkSupport checking))
    refine Enrolment.prepend ?_ hmute
    exact (equipping.enrolment hi).append (forall_mute_closing hi)
  | established checking creating equipping =>
    obtain ⟨hmute, hnone⟩ := creating.mute
    refine Enrolment.prepend ?_ (forall_mute_of_quiet (forall_quiet_checkSupport checking))
    exact (equipping.enrolment (hnone _ rfl)).prepend hmute

end Instance

namespace Context

theorem Negotiation.mute {i : InstanceHandle}
    {r : Except Error (Choice × DeviceHandle × QueueHandle)} (h : Negotiation config i events r) :
    ∀ e ∈ events, e.Mute := by
  cases h with
  | unchosen choosing => exact forall_mute_of_quiet (forall_quiet_choose choosing)
  | uncreated choosing creating | created choosing creating =>
    refine List.forall_mem_append.2 ⟨forall_mute_of_quiet (forall_quiet_choose choosing), ?_⟩
    cases creating <;> simp [Event.Mute, Command.isForMessenger]

/-- A device whose queue cannot be had is destroyed before the negotiation ends. -/
theorem Negotiation.destroysFirst {i : InstanceHandle} {e : Error}
    (h : Negotiation config i events (.error e)) : DestroysFirst i events := by
  cases h with
  | unchosen choosing =>
    intro made hmade
    simp [devicesMade_of_quiet (forall_quiet_choose choosing)] at hmade
  | uncreated choosing creating =>
    have hnone := devicesMade_of_quiet (forall_quiet_choose choosing)
    intro made hmade
    rw [devicesMade_append, hnone, List.nil_append] at hmade
    cases creating with
    | refused | failed => cases hmade
    | queueless =>
      cases hmade
      exact ⟨rfl, _ ++ [_, _], [], by simp; rfl⟩

theorem Negotiation.head_devicesMade {i : InstanceHandle} {choice : Choice} {d : DeviceHandle}
    {queue : QueueHandle} (h : Negotiation config i events (.ok (choice, d, queue))) :
    (devicesMade events).head? = some (i, d) := by
  cases h with
  | created choosing creating =>
    rw [devicesMade_append, devicesMade_of_quiet (forall_quiet_choose choosing)]
    cases creating
    rfl

theorem Enrolment.of_instance {e : Error}
    (h : Instance.Enrolment config sink events (.error e)) :
    Enrolment config sink stamp events (.error e) := by
  cases h with
  | failed hmute => exact .failed hmute
  | refused hon hbefore hafter => exact .refused hon hbefore hafter

/-- Every establishment is one of these. -/
theorem Course.enrolment {r : Except Error Context} (h : Course config sink stamp events r) :
    Enrolment config sink stamp events r := by
  cases h with
  | unresolved resolving => exact .failed (forall_mute_of_quiet (forall_quiet_resolve resolving))
  | uninstanced resolving establishing =>
    refine .of_instance (Instance.Enrolment.prepend establishing.enrolment ?_)
    exact forall_mute_of_quiet (forall_quiet_resolve resolving)
  | @undeviced first second third _ _ _ _ resolving establishing negotiating =>
    have hinstance := establishing.enrolment.prepend
      (forall_mute_of_quiet (forall_quiet_resolve resolving))
    rw [← List.append_assoc]
    generalize first ++ second = made at hinstance ⊢
    cases hinstance with
    | silent _ hmute =>
      refine .failed (List.forall_mem_append.2 ⟨hmute, List.forall_mem_append.2 ⟨?_, ?_⟩⟩)
      · exact negotiating.mute
      · exact Instance.forall_mute_closing rfl
    | registered hon hbefore hafter =>
      rw [List.append_assoc, List.cons_append, ← List.append_assoc]
      refine .undone hon hbefore ?_ (negotiating.destroysFirst.prepend hafter)
      exact List.forall_mem_append.2 ⟨forall_mute_of_quiet hafter, negotiating.mute⟩
  | @established first second third fourth _ _ _ _ _ _ _ record resolving establishing negotiating
      describing =>
    have hinstance := establishing.enrolment.prepend
      (forall_mute_of_quiet (forall_quiet_resolve resolving))
    have hdevice := runs_around describing
    have hrest : ∀ e ∈ third ++ (fourth ++ [.noted (.log record)]), e.Mute := by
      refine List.forall_mem_append.2 ⟨negotiating.mute, List.forall_mem_append.2 ⟨?_, ?_⟩⟩
      · exact forall_mute_of_quiet (forall_quiet_around describing)
      · exact List.forall_mem_singleton.2 ⟨record, rfl⟩
    rw [← List.append_assoc]
    generalize first ++ second = made at hinstance ⊢
    cases hinstance with
    | silent hoff hmute =>
      exact .silent hoff (List.forall_mem_append.2 ⟨hmute, hrest⟩) hdevice
    | registered hon hbefore hafter =>
      rw [List.append_assoc, List.cons_append]
      refine .registered hon hbefore ?_ ?_ hdevice
      · exact List.forall_mem_append.2 ⟨forall_mute_of_quiet hafter, hrest⟩
      · rw [devicesMade_append, devicesMade_of_quiet hafter, devicesMade_append, List.nil_append,
          List.head?_append, negotiating.head_devicesMade, Option.some_or]

end Context

end Enrolment

end VulkanExec
