import VulkanExec.Proofs.Queries

/-!
# The course of an establishment

A context is established in stages, and each stage can end it. Here every stage is described once
by what can happen in it: the events of its runs, with the result.

## Main definitions

- `Instance.Creation`, `Instance.Registration`: the creation of an instance and of its messenger;
- `Instance.closing`: the events of the release of an instance;
- `Instance.Equipment`, `Instance.Course`: an instance with all that belongs to it;
- `DeviceCreation`, `Context.Negotiation`: the creation of a device;
- `Context.Course`: the whole;
- `Context.Adoption`: how a context is adopted around handles of the caller.

The main statements say that every run is one of these: `Instance.runs_create` and the like, up to
`Context.runs_establish`, and `Context.runs_adopt`.
-/

namespace VulkanExec

namespace Program

variable {α β : Type}

/-- A program that goes on from a result goes on from an error or from a value. -/
theorem runs_except_bind {p : Program (Except Error α)} {f : Except Error α → Program β}
    {events : List Event} {b : β} (h : (p >>= f).Runs events b) :
    (∃ first second e, events = first ++ second ∧ p.Runs first (.error e) ∧
      (f (.error e)).Runs second b) ∨
    ∃ first second a, events = first ++ second ∧ p.Runs first (.ok a) ∧
      (f (.ok a)).Runs second b := by
  obtain ⟨first, second, r, rfl, hp, hf⟩ := runs_bind_iff.1 h
  cases r with
  | error e => exact .inl ⟨first, second, e, rfl, hp, hf⟩
  | ok a => exact .inr ⟨first, second, a, rfl, hp, hf⟩

end Program

open Program

/-! ## Instances -/

namespace Instance

/-- How an instance is created: its request cannot be made, or the driver refuses, or it is
there. -/
inductive Creation (config : Config) : List Event → Except Error Instance → Prop where
  | refused {e : Error} (h : config.instanceSpec = .error e) : Creation config [] (.error e)
  | failed {request : InstanceSpec} {code : ResultCode} (h : config.instanceSpec = .ok request) :
    Creation config [.answered (.createInstance request) (.error code)]
      (.error (.instanceCreationFailed code))
  | created {request : InstanceSpec} {handle : InstanceHandle} {record : LogRecord}
    (h : config.instanceSpec = .ok request) :
    Creation config [.answered (.createInstance request) (.ok handle), .noted (.log record)]
      (.ok ⟨handle, none⟩)

/-- How a messenger is created: its functions are missing, or the driver refuses, or it is there. -/
inductive Registration (i : Instance) (table : EntryTable) (sink : SinkId) :
    List Event → Except Error Instance → Prop where
  | refused {e : Error} (h : table.demand EntryPoint.messengerNames = .error e) :
    Registration i table sink [] (.error e)
  | failed {code : ResultCode} (h : table.demand EntryPoint.messengerNames = .ok ()) :
    Registration i table sink [.answered (.createMessenger i.handle sink) (.error code)]
      (.error (.callbackInstallFailed "vkCreateDebugUtilsMessengerEXT" code))
  | registered {messenger : MessengerHandle} (notes : List Note)
    (h : table.demand EntryPoint.messengerNames = .ok ())
    (hnotes : i.callback = none → ∀ n ∈ notes, ∃ r, n = .log r) :
    Registration i table sink
      (.answered (.createMessenger i.handle sink) (.ok messenger) :: notes.map .noted)
      (.ok { i with callback := some ⟨messenger, sink⟩ })

/-- The events of the release of an instance. -/
def closing (i : Instance) : List Event :=
  match i.callback with
  | none =>
    [.answered (.destroyInstance i.handle) (), .noted (.log ⟨.info, "vulkan instance destroyed"⟩)]
  | some callback =>
    [.answered (.destroyMessenger i.handle callback.messenger) (),
      .answered (.destroyInstance i.handle) (), .noted (.releaseSink callback.sink),
      .noted (.log ⟨.info, "vulkan instance destroyed"⟩)]

/-- How a new instance gets its entry points and, if validation is on, its messenger. -/
inductive Equipment (i : Instance) (config : Config) (table : EntryTable) (sink : SinkId) :
    List Event → Except Error (Instance × EntryTable) → Prop where
  | unresolved {events : List Event} {e : Error}
    (resolving : (table.resolveWith .perInstance i.handle).Runs events (.error e)) :
    Equipment i config table sink events (.error e)
  | silent {events : List Event} {full : EntryTable} (hoff : config.validation = false)
    (resolving : (table.resolveWith .perInstance i.handle).Runs events (.ok full)) :
    Equipment i config table sink events (.ok (i, full))
  | unregistered {first second : List Event} {full : EntryTable} {e : Error}
    (hon : config.validation = true)
    (resolving : (table.resolveWith .perInstance i.handle).Runs first (.ok full))
    (registering : Registration i full sink second (.error e)) :
    Equipment i config table sink (first ++ second) (.error e)
  | registered {first second : List Event} {full : EntryTable} {j : Instance}
    (hon : config.validation = true)
    (resolving : (table.resolveWith .perInstance i.handle).Runs first (.ok full))
    (registering : Registration i full sink second (.ok j)) :
    Equipment i config table sink (first ++ second) (.ok (j, full))

/-- How an instance is established. One that cannot be equipped is released at once. -/
inductive Course (config : Config) (table : EntryTable) (sink : SinkId) :
    List Event → Except Error (Instance × EntryTable) → Prop where
  | unsupported {events : List Event} {e : Error}
    (checking : (checkSupport config).Runs events (.error e)) :
    Course config table sink events (.error e)
  | uncreated {first second : List Event} {e : Error}
    (checking : (checkSupport config).Runs first (.ok ()))
    (creating : Creation config second (.error e)) :
    Course config table sink (first ++ second) (.error e)
  | unequipped {first second third : List Event} {i : Instance} {e : Error}
    (checking : (checkSupport config).Runs first (.ok ()))
    (creating : Creation config second (.ok i))
    (equipping : Equipment i config table sink third (.error e)) :
    Course config table sink (first ++ (second ++ (third ++ i.closing))) (.error e)
  | established {first second third : List Event} {i j : Instance} {full : EntryTable}
    (checking : (checkSupport config).Runs first (.ok ()))
    (creating : Creation config second (.ok i))
    (equipping : Equipment i config table sink third (.ok (j, full))) :
    Course config table sink (first ++ (second ++ third)) (.ok (j, full))

variable {i : Instance} {config : Config} {table : EntryTable} {sink : SinkId}
  {events : List Event}

theorem runs_create {r : Except Error Instance} (h : (create config).Runs events r) :
    Creation config events r := by
  unfold create at h
  split at h
  · next e hrefused =>
    obtain ⟨rfl, rfl⟩ := runs_pure_iff.1 h
    exact .refused hrefused
  · next request hrequest =>
    obtain ⟨answer, rest, rfl, hrest⟩ := runs_ask_iff.1 h
    cases answer with
    | error code =>
      obtain ⟨rfl, rfl⟩ := runs_pure_iff.1 hrest
      exact .failed hrequest
    | ok handle =>
      obtain ⟨_, rfl, hend⟩ := runs_log_iff.1 hrest
      obtain ⟨rfl, rfl⟩ := runs_pure_iff.1 hend
      exact .created hrequest

theorem runs_registerSink {r : Except Error Instance}
    (h : (i.registerSink table sink).Runs events r) : Registration i table sink events r := by
  obtain ⟨handle, callback⟩ := i
  unfold registerSink at h
  split at h
  · next e hrefused =>
    obtain ⟨rfl, rfl⟩ := runs_pure_iff.1 h
    exact .refused hrefused
  · next hdemand =>
    obtain ⟨answer, rest, rfl, hrest⟩ := runs_ask_iff.1 h
    cases answer with
    | error code =>
      obtain ⟨rfl, rfl⟩ := runs_pure_iff.1 hrest
      exact .failed hdemand
    | ok messenger =>
      cases callback with
      | none =>
        obtain ⟨_, rfl, hend⟩ := runs_log_iff.1 hrest
        obtain ⟨rfl, rfl⟩ := runs_pure_iff.1 hend
        exact .registered [_] hdemand (by simp)
      | some former =>
        obtain ⟨_, rfl, hlog⟩ := runs_note_iff.1 hrest
        obtain ⟨_, rfl, hend⟩ := runs_log_iff.1 hlog
        obtain ⟨rfl, rfl⟩ := runs_pure_iff.1 hend
        exact .registered [_, _] hdemand nofun

theorem runs_close (h : i.close.Runs events ()) : events = i.closing := by
  obtain ⟨handle, callback⟩ := i
  cases callback with
  | none =>
    obtain ⟨_, _, rfl, hlog⟩ := runs_ask_iff.1 h
    obtain ⟨_, rfl, hend⟩ := runs_note_iff.1 hlog
    rw [(runs_done_iff.1 hend).1]
    rfl
  | some callback =>
    obtain ⟨_, _, rfl, hinst⟩ := runs_ask_iff.1 h
    obtain ⟨_, _, rfl, hsink⟩ := runs_ask_iff.1 hinst
    obtain ⟨_, rfl, hlog⟩ := runs_note_iff.1 hsink
    obtain ⟨_, rfl, hend⟩ := runs_note_iff.1 hlog
    rw [(runs_done_iff.1 hend).1]
    rfl

theorem runs_closing (i : Instance) : i.close.Runs i.closing () := by
  obtain ⟨handle, callback⟩ := i
  cases callback with
  | none => exact .put (.note (.done ()))
  | some callback => exact .put (.put (.note (.note (.done ()))))

theorem runs_equip {r : Except Error (Instance × EntryTable)}
    (h : (i.equip config table sink).Runs events r) : Equipment i config table sink events r := by
  rcases runs_except_bind h with
    ⟨first, _, e, rfl, hfirst, hend⟩ | ⟨first, _, full, rfl, hfirst, hrest⟩
  · obtain ⟨rfl, rfl⟩ := runs_pure_iff.1 hend
    rw [List.append_nil]
    exact .unresolved hfirst
  · dsimp only at hrest
    split at hrest
    · next hon =>
      rcases runs_except_bind hrest with
        ⟨second, _, e, rfl, hsecond, hend⟩ | ⟨second, _, j, rfl, hsecond, hend⟩
      · obtain ⟨rfl, rfl⟩ := runs_pure_iff.1 hend
        rw [List.append_nil]
        exact .unregistered hon hfirst (runs_registerSink hsecond)
      · obtain ⟨rfl, rfl⟩ := runs_pure_iff.1 hend
        rw [List.append_nil]
        exact .registered hon hfirst (runs_registerSink hsecond)
    · next hoff =>
      obtain ⟨rfl, rfl⟩ := runs_pure_iff.1 hrest
      rw [List.append_nil]
      exact .silent (by simpa using hoff) hfirst

/-- An instance is equipped under its handle. -/
theorem Equipment.handle_eq {j : Instance} {full : EntryTable}
    (h : Equipment i config table sink events (.ok (j, full))) : j.handle = i.handle := by
  cases h with
  | silent => rfl
  | registered _ _ registering =>
    cases registering
    rfl

theorem runs_establish {r : Except Error (Instance × EntryTable)}
    (h : (establish config table sink).Runs events r) : Course config table sink events r := by
  rcases runs_except_bind h with
    ⟨first, _, e, rfl, hfirst, hend⟩ | ⟨first, _, _, rfl, hfirst, hrest⟩
  · obtain ⟨rfl, rfl⟩ := runs_pure_iff.1 hend
    rw [List.append_nil]
    exact .unsupported hfirst
  · rcases runs_except_bind hrest with
      ⟨second, _, e, rfl, hsecond, hend⟩ | ⟨second, _, i, rfl, hsecond, hrest⟩
    · obtain ⟨rfl, rfl⟩ := runs_pure_iff.1 hend
      rw [List.append_nil]
      exact .uncreated hfirst (runs_create hsecond)
    · rcases runs_except_bind hrest with
        ⟨third, _, e, rfl, hthird, hrest⟩ | ⟨third, _, ⟨j, full⟩, rfl, hthird, hend⟩
      · obtain ⟨last, _, _, rfl, hlast, hend⟩ := runs_bind_iff.1 hrest
        obtain ⟨rfl, rfl⟩ := runs_pure_iff.1 hend
        obtain rfl := runs_close hlast
        rw [List.append_nil]
        exact .unequipped hfirst (runs_create hsecond) (runs_equip hthird)
      · obtain ⟨rfl, rfl⟩ := runs_pure_iff.1 hend
        rw [List.append_nil]
        exact .established hfirst (runs_create hsecond) (runs_equip hthird)

end Instance

/-! ## Devices -/

/-- How a device is created: its request cannot be made, or the driver refuses, or its queue cannot
be had and it is destroyed again, or it is there with its queue. -/
inductive DeviceCreation (inst : InstanceHandle) (physical : PhysicalDeviceHandle) (family : UInt32)
    (capabilities : List Capability) (extensions : List String) :
    List Event → Except Error (DeviceHandle × QueueHandle) → Prop where
  | refused {e : Error} (h : deviceSpec family capabilities extensions = .error e) :
    DeviceCreation inst physical family capabilities extensions [] (.error e)
  | failed {request : DeviceSpec} {code : ResultCode}
    (h : deviceSpec family capabilities extensions = .ok request) :
    DeviceCreation inst physical family capabilities extensions
      [.answered (.createDevice inst physical request) (.error code)]
      (.error (.deviceCreationFailed code))
  | queueless {request : DeviceSpec} {device : DeviceHandle} {queue : QueueHandle}
    (h : deviceSpec family capabilities extensions = .ok request) (hqueue : queue.isNull = true) :
    DeviceCreation inst physical family capabilities extensions
      [.answered (.createDevice inst physical request) (.ok device),
        .answered (.getQueue device family 0) queue, .answered (.destroyDevice device) ()]
      (.error (.queueUnavailable family))
  | created {request : DeviceSpec} {device : DeviceHandle} {queue : QueueHandle}
    (h : deviceSpec family capabilities extensions = .ok request) (hqueue : queue.isNull = false) :
    DeviceCreation inst physical family capabilities extensions
      [.answered (.createDevice inst physical request) (.ok device),
        .answered (.getQueue device family 0) queue]
      (.ok (device, queue))

theorem runs_createDevice {inst : InstanceHandle} {physical : PhysicalDeviceHandle}
    {family : UInt32} {capabilities : List Capability} {extensions : List String}
    {events : List Event} {r : Except Error (DeviceHandle × QueueHandle)}
    (h : (createDevice inst physical family capabilities extensions).Runs events r) :
    DeviceCreation inst physical family capabilities extensions events r := by
  unfold createDevice at h
  split at h
  · next e hrefused =>
    obtain ⟨rfl, rfl⟩ := runs_pure_iff.1 h
    exact .refused hrefused
  · next request hrequest =>
    obtain ⟨answer, _, rfl, hrest⟩ := runs_ask_iff.1 h
    cases answer with
    | error code =>
      obtain ⟨rfl, rfl⟩ := runs_pure_iff.1 hrest
      exact .failed hrequest
    | ok device =>
      obtain ⟨queue, _, rfl, hqueue⟩ := runs_ask_iff.1 hrest
      split at hqueue
      · next hnull =>
        obtain ⟨_, _, rfl, hend⟩ := runs_ask_iff.1 hqueue
        obtain ⟨rfl, rfl⟩ := runs_pure_iff.1 hend
        exact .queueless hrequest hnull
      · next hthere =>
        obtain ⟨rfl, rfl⟩ := runs_pure_iff.1 hqueue
        exact .created hrequest (by simpa using hthere)

/-! ## Contexts -/

namespace Context

/-- How a physical device is chosen and a device is created on it. -/
inductive Negotiation (config : Config) (inst : InstanceHandle) :
    List Event → Except Error (Choice × DeviceHandle × QueueHandle) → Prop where
  | unchosen {events : List Event} {e : Error}
    (choosing : (Candidate.choose inst config.capabilities config.extensions).Runs events
      (.error e)) :
    Negotiation config inst events (.error e)
  | uncreated {first second : List Event} {choice : Choice} {e : Error}
    (choosing : (Candidate.choose inst config.capabilities config.extensions).Runs first
      (.ok choice))
    (creating : DeviceCreation inst choice.candidate.handle choice.family config.capabilities
      config.extensions second (.error e)) :
    Negotiation config inst (first ++ second) (.error e)
  | created {first second : List Event} {choice : Choice} {device : DeviceHandle}
    {queue : QueueHandle}
    (choosing : (Candidate.choose inst config.capabilities config.extensions).Runs first
      (.ok choice))
    (creating : DeviceCreation inst choice.candidate.handle choice.family config.capabilities
      config.extensions second (.ok (device, queue))) :
    Negotiation config inst (first ++ second) (.ok (choice, device, queue))

/-- How a context is established. An instance on which no device can be had is released. -/
inductive Course (config : Config) (sink : SinkId) (stamp : Nat) :
    List Event → Except Error Context → Prop where
  | unresolved {events : List Event} {e : Error}
    (resolving : (EntryTable.empty.resolveWith .global .null).Runs events (.error e)) :
    Course config sink stamp events (.error e)
  | uninstanced {first second : List Event} {table : EntryTable} {e : Error}
    (resolving : (EntryTable.empty.resolveWith .global .null).Runs first (.ok table))
    (establishing : Instance.Course config table sink second (.error e)) :
    Course config sink stamp (first ++ second) (.error e)
  | undeviced {first second third : List Event} {table entries : EntryTable} {i : Instance}
    {e : Error}
    (resolving : (EntryTable.empty.resolveWith .global .null).Runs first (.ok table))
    (establishing : Instance.Course config table sink second (.ok (i, entries)))
    (negotiating : Negotiation config i.handle third (.error e)) :
    Course config sink stamp (first ++ (second ++ (third ++ i.closing))) (.error e)
  | established {first second third fourth : List Event} {table entries : EntryTable}
    {i : Instance} {choice : Choice} {device : DeviceHandle} {queue : QueueHandle}
    {context : Context} {record : LogRecord}
    (resolving : (EntryTable.empty.resolveWith .global .null).Runs first (.ok table))
    (establishing : Instance.Course config table sink second (.ok (i, entries)))
    (negotiating : Negotiation config i.handle third (.ok (choice, device, queue)))
    (describing : (around config entries ⟨stamp, device, some i⟩ i.handle
      choice.candidate.handle queue choice.family).Runs fourth context) :
    Course config sink stamp
      (first ++ (second ++ (third ++ (fourth ++ [.noted (.log record)])))) (.ok context)

/-- How a context is adopted: it is refused after names were looked for, or the handles are
wrapped. -/
inductive Adoption (host : HostHandles) (config : Config) (stamp : Nat) :
    List Event → Except Error Context → Prop where
  | refused {events : List Event} {r : Except Error EntryTable} {e : Error}
    (resolving : (resolveAll host.inst).Runs events r) :
    Adoption host config stamp events (.error e)
  | adopted {first second : List Event} {entries : EntryTable} {context : Context}
    {record : LogRecord}
    (resolving : (resolveAll host.inst).Runs first (.ok entries))
    (describing : (around config entries ⟨stamp, host.device, none⟩ host.inst host.physicalDevice
      host.queue host.family).Runs second context) :
    Adoption host config stamp
      (first ++ ([.answered (.wrapInstance host.inst) (),
        .answered (.wrapDevice host.inst host.device) ()] ++
          (second ++ [.noted (.log record)]))) (.ok context)

variable {config : Config} {sink : SinkId} {stamp : Nat} {inst : InstanceHandle}
  {events : List Event}

theorem runs_negotiate {r : Except Error (Choice × DeviceHandle × QueueHandle)}
    (h : (negotiate config inst).Runs events r) : Negotiation config inst events r := by
  rcases runs_except_bind h with
    ⟨first, _, e, rfl, hfirst, hend⟩ | ⟨first, _, choice, rfl, hfirst, hrest⟩
  · obtain ⟨rfl, rfl⟩ := runs_pure_iff.1 hend
    rw [List.append_nil]
    exact .unchosen hfirst
  · rcases runs_except_bind hrest with
      ⟨second, _, e, rfl, hsecond, hend⟩ | ⟨second, _, ⟨device, queue⟩, rfl, hsecond, hend⟩
    · obtain ⟨rfl, rfl⟩ := runs_pure_iff.1 hend
      rw [List.append_nil]
      exact .uncreated hfirst (runs_createDevice hsecond)
    · obtain ⟨rfl, rfl⟩ := runs_pure_iff.1 hend
      rw [List.append_nil]
      exact .created hfirst (runs_createDevice hsecond)

theorem runs_establish {r : Except Error Context}
    (h : (establish config sink stamp).Runs events r) : Course config sink stamp events r := by
  rcases runs_except_bind h with
    ⟨first, _, e, rfl, hfirst, hend⟩ | ⟨first, _, table, rfl, hfirst, hrest⟩
  · obtain ⟨rfl, rfl⟩ := runs_pure_iff.1 hend
    rw [List.append_nil]
    exact .unresolved hfirst
  · rcases runs_except_bind hrest with
      ⟨second, _, e, rfl, hsecond, hend⟩ | ⟨second, _, ⟨i, entries⟩, rfl, hsecond, hrest⟩
    · obtain ⟨rfl, rfl⟩ := runs_pure_iff.1 hend
      rw [List.append_nil]
      exact .uninstanced hfirst (Instance.runs_establish hsecond)
    · have hinstance := Instance.runs_establish hsecond
      rcases runs_except_bind hrest with
        ⟨third, _, e, rfl, hthird, hrest⟩ | ⟨third, _, ⟨choice, device, queue⟩, rfl, hthird, hrest⟩
      · obtain ⟨last, _, _, rfl, hlast, hend⟩ := runs_bind_iff.1 hrest
        obtain ⟨rfl, rfl⟩ := runs_pure_iff.1 hend
        obtain rfl := Instance.runs_close hlast
        rw [List.append_nil]
        exact .undeviced hfirst hinstance (runs_negotiate hthird)
      · obtain ⟨fourth, _, context, rfl, hfourth, hlog⟩ := runs_bind_iff.1 hrest
        obtain ⟨_, rfl, hend⟩ := runs_log_iff.1 hlog
        obtain ⟨rfl, rfl⟩ := runs_pure_iff.1 hend
        exact .established hfirst hinstance (runs_negotiate hthird) hfourth

theorem runs_adopt {host : HostHandles} {r : Except Error Context}
    (h : (adopt host config stamp).Runs events r) :
    Adoption host config stamp events r := by
  rcases runs_except_bind h with
    ⟨first, _, e, rfl, hfirst, hend⟩ | ⟨first, _, entries, rfl, hfirst, hrest⟩
  · obtain ⟨rfl, rfl⟩ := runs_pure_iff.1 hend
    rw [List.append_nil]
    exact .refused hfirst
  · dsimp only at hrest
    split at hrest
    · obtain ⟨rfl, rfl⟩ := runs_pure_iff.1 hrest
      rw [List.append_nil]
      exact .refused hfirst
    · split at hrest
      · obtain ⟨rfl, rfl⟩ := runs_pure_iff.1 hrest
        rw [List.append_nil]
        exact .refused hfirst
      · obtain ⟨_, _, rfl, hdevice⟩ := runs_ask_iff.1 hrest
        obtain ⟨_, _, rfl, haround⟩ := runs_ask_iff.1 hdevice
        obtain ⟨second, _, context, rfl, hsecond, hlog⟩ := runs_bind_iff.1 haround
        obtain ⟨_, rfl, hend⟩ := runs_log_iff.1 hlog
        obtain ⟨rfl, rfl⟩ := runs_pure_iff.1 hend
        exact .adopted hfirst hsecond

/-- An established context is around a device with the stamp that was given out for it. -/
theorem stamp_of_establish {c : Context} (h : (establish config sink stamp).Runs events (.ok c)) :
    c.device.stamp = stamp := by
  cases runs_establish h with
  | established _ _ _ describing => rw [runs_around describing]

/-- An adopted context is around the caller's own device. -/
theorem device_of_adopt {host : HostHandles} {c : Context}
    (h : (adopt host config stamp).Runs events (.ok c)) :
    c.device = ⟨stamp, host.device, none⟩ := by
  cases runs_adopt h with
  | adopted resolving describing => exact runs_around describing

end Context

end VulkanExec
