import VulkanExec.Proofs.Establishment.Course
import VulkanExec.Proofs.Numbering

/-!
# What an establishment leaves behind

An establishment creates at most an instance, a messenger and a device. If it fails, all that was
created is released again, the latest first; if not, all of it is there and nothing was released.

## Main definitions

- `creations`, `releases`: the objects that events create and release, in order;
- `Undone`: releases that come after all creations and mirror them;
- `Instance.objects`: the objects of an instance.

The main statement is `establish_all_or_nothing`.
-/

namespace VulkanExec

/-- The object that is created at an event. -/
def Event.created? : Event → Option Object
  | answered c answer => c.created answer
  | noted _ => none

/-- The object that is released at an event. -/
def Event.released? : Event → Option Object
  | answered c _ => c.released
  | noted _ => none

/-- The objects that events create, in order. -/
def creations (events : List Event) : List Object := events.filterMap Event.created?

/-- The objects that events release, in order. -/
def releases (events : List Event) : List Object := events.filterMap Event.released?

/-- Whatever was created is released again: the releases come after all creations and undo them in
reverse order. -/
def Undone (events : List Event) : Prop :=
  ∃ first last, events = first ++ last ∧ releases first = [] ∧ creations last = [] ∧
    releases last = (creations first).reverse

/-- The objects of an instance, in the order in which they are created. -/
def Instance.objects (i : Instance) : List Object :=
  i.handle.object :: (i.callback.map (·.messenger.object)).toList

section Undone

variable {first second last events : List Event}

@[simp] theorem creations_nil : creations [] = [] := rfl

@[simp] theorem releases_nil : releases [] = [] := rfl

@[simp] theorem creations_noted (n : Note) : creations [.noted n] = [] := rfl

@[simp] theorem releases_noted (n : Note) : releases [.noted n] = [] := rfl

@[simp] theorem creations_append :
    creations (first ++ second) = creations first ++ creations second := List.filterMap_append

@[simp] theorem releases_append :
    releases (first ++ second) = releases first ++ releases second := List.filterMap_append

theorem undone_of_quiet (hcreations : creations events = []) (hreleases : releases events = []) :
    Undone events := ⟨events, [], by simp, hreleases, rfl, by simp [hcreations, releases]⟩

/-- What comes first may be undone last, around what undoes itself. -/
theorem Undone.enclose (hsecond : Undone second) (hreleases : releases first = [])
    (hcreations : creations last = []) (hlast : releases last = (creations first).reverse) :
    Undone (first ++ (second ++ last)) := by
  obtain ⟨before, after, rfl, hbefore, hafter, hmirror⟩ := hsecond
  refine ⟨first ++ before, after ++ last, by simp, by simp [hreleases, hbefore],
    by simp [hafter, hcreations], ?_⟩
  simp [hmirror, hlast]

/-- What undoes itself may come after what leaves everything as it is. -/
theorem Undone.append_left (hsecond : Undone second) (hcreations : creations first = [])
    (hreleases : releases first = []) : Undone (first ++ second) := by
  have h : Undone (first ++ (second ++ [])) :=
    hsecond.enclose hreleases rfl (by simp [hcreations, releases])
  rwa [List.append_nil] at h

/-- The kinds of what was undone are those of the creations, in reverse order. -/
theorem Undone.kinds (h : Undone events) {kinds : List ObjectKind}
    (hkinds : ((creations events).map Object.kind).Sublist kinds) :
    ((releases events).map Object.kind).Sublist kinds.reverse := by
  obtain ⟨before, after, rfl, hbefore, hafter, hmirror⟩ := h
  rw [releases_append, hbefore, List.nil_append, hmirror, List.map_reverse]
  rw [creations_append, hafter, List.append_nil] at hkinds
  exact hkinds.reverse

end Undone

open Program

/-- Quiet commands neither create nor release. -/
theorem quiet_of_only {α : Type} {p : Program α} {events : List Event} {a : α}
    (h : p.Only fun c => c.isQuiet) (hruns : p.Runs events a) :
    creations events = [] ∧ releases events = [] := by
  constructor
  · refine List.filterMap_eq_nil_iff.2 fun e he => ?_
    cases e with
    | noted n => rfl
    | answered c answer =>
      exact Option.map_eq_none_iff.1 (Command.made_of_isQuiet (h.of_mem hruns he) answer)
  · refine List.filterMap_eq_nil_iff.2 fun e he => ?_
    cases e with
    | noted n => rfl
    | answered c answer => exact Command.released_of_isQuiet (h.of_mem hruns he)

section Stages

variable {config : Config} {table full : EntryTable} {sink : SinkId} {events : List Event}
  {i j : Instance} {e : Error}

theorem quiet_resolveWith {scope : EntryScope} {inst : InstanceHandle}
    {r : Except Error EntryTable} (h : (table.resolveWith scope inst).Runs events r) :
    creations events = [] ∧ releases events = [] :=
  quiet_of_only (only_resolveWith fun _ => rfl) h

theorem quiet_checkSupport {r : Except Error Unit}
    (h : (Instance.checkSupport config).Runs events r) :
    creations events = [] ∧ releases events = [] :=
  quiet_of_only (only_checkSupport rfl fun _ => rfl) h

theorem quiet_choose {inst : InstanceHandle} {capabilities : List Capability}
    {extensions : List String} {r : Except Error Choice}
    (h : (Candidate.choose inst capabilities extensions).Runs events r) :
    creations events = [] ∧ releases events = [] :=
  quiet_of_only (only_choose rfl (fun _ => rfl) (fun _ => rfl) fun _ => rfl) h

namespace Instance

theorem kinds_objects (i : Instance) :
    (i.objects.map Object.kind).Sublist [.inst, .messenger] := by
  obtain ⟨handle, callback⟩ := i
  cases callback with
  | none => exact .cons_cons _ (.cons _ .slnil)
  | some callback => exact .refl _

/-- The messenger of an instance is released before the instance. -/
theorem undoes_closing : creations i.closing = [] ∧ releases i.closing = i.objects.reverse := by
  obtain ⟨handle, callback⟩ := i
  cases callback <;> exact ⟨rfl, rfl⟩

theorem Creation.of_error (h : Creation config events (.error e)) :
    creations events = [] ∧ releases events = [] := by
  cases h <;> exact ⟨rfl, rfl⟩

theorem Creation.of_ok (h : Creation config events (.ok i)) :
    creations events = i.objects ∧ releases events = [] ∧ i.callback = none := by
  cases h
  exact ⟨rfl, rfl, rfl⟩

theorem Registration.of_error (h : Registration i table sink events (.error e)) :
    creations events = [] ∧ releases events = [] := by
  cases h <;> exact ⟨rfl, rfl⟩

theorem Registration.of_ok (h : Registration i table sink events (.ok j)) :
    ∃ messenger, j = { i with callback := some ⟨messenger, sink⟩ } ∧
      creations events = [messenger.object] ∧ releases events = [] := by
  cases h with
  | registered notes hdemand =>
    refine ⟨_, rfl, ?_, ?_⟩
    · simp [creations, Event.created?, Command.created]
    · simp [releases, Event.released?, Command.released]

theorem Equipment.of_error (h : Equipment i config table sink events (.error e)) :
    creations events = [] ∧ releases events = [] := by
  cases h with
  | unresolved resolving => exact quiet_resolveWith resolving
  | unregistered hon resolving registering =>
    obtain ⟨hcreations, hreleases⟩ := quiet_resolveWith resolving
    simp [hcreations, hreleases, registering.of_error]

/-- An equipped instance is the same one, with the messenger that validation asks for. -/
theorem Equipment.of_ok (h : Equipment i config table sink events (.ok (j, full)))
    (hcallback : i.callback = none) :
    i.objects ++ creations events = j.objects ∧ releases events = [] ∧
      j.callback.map Callback.sink = if config.validation then some sink else none := by
  cases h with
  | silent hoff resolving =>
    obtain ⟨hcreations, hreleases⟩ := quiet_resolveWith resolving
    simp [hcreations, hreleases, hcallback, hoff]
  | registered hon resolving registering =>
    obtain ⟨hcreations, hreleases⟩ := quiet_resolveWith resolving
    obtain ⟨messenger, rfl, hcreated, hreleased⟩ := registering.of_ok
    simp [hcreations, hreleases, hcreated, hreleased, objects, hcallback, hon]

theorem Course.of_error (h : Course config table sink events (.error e)) :
    Undone events ∧ ((creations events).map Object.kind).Sublist [.inst] := by
  cases h with
  | unsupported checking =>
    obtain ⟨hcreations, hreleases⟩ := quiet_checkSupport checking
    exact ⟨undone_of_quiet hcreations hreleases, by simp [hcreations]⟩
  | uncreated checking creating =>
    obtain ⟨hcreations, hreleases⟩ := quiet_checkSupport checking
    obtain ⟨hcreations', hreleases'⟩ := creating.of_error
    refine ⟨undone_of_quiet ?_ ?_, ?_⟩ <;> simp [hcreations, hreleases, hcreations', hreleases']
  | @unequipped first second third i _ checking creating equipping =>
    obtain ⟨hchecked, hchecked'⟩ := quiet_checkSupport checking
    obtain ⟨hcreated, hcreated', hcallback⟩ := creating.of_ok
    obtain ⟨hequipped, hequipped'⟩ := equipping.of_error
    obtain ⟨hclosed, hclosed'⟩ := undoes_closing (i := i)
    constructor
    · rw [← List.append_assoc]
      apply (undone_of_quiet hequipped hequipped').enclose _ hclosed
      · simp [hclosed', hchecked, hcreated]
      · simp [hchecked', hcreated']
    · simp [hchecked, hcreated, hequipped, hclosed, objects, hcallback, Handle.object]

theorem Course.of_ok (h : Course config table sink events (.ok (j, full))) :
    creations events = j.objects ∧ releases events = [] ∧
      j.callback.map Callback.sink = if config.validation then some sink else none := by
  cases h with
  | established checking creating equipping =>
    obtain ⟨hchecked, hchecked'⟩ := quiet_checkSupport checking
    obtain ⟨hcreated, hcreated', hcallback⟩ := creating.of_ok
    obtain ⟨hequipped, hequipped', hsink⟩ := equipping.of_ok hcallback
    simp [hchecked, hchecked', hcreated, hcreated', hequipped, hequipped', hsink]

end Instance

theorem DeviceCreation.of_error {inst : InstanceHandle} {physical : PhysicalDeviceHandle}
    {family : UInt32} {capabilities : List Capability} {extensions : List String}
    (h : DeviceCreation inst physical family capabilities extensions events (.error e)) :
    Undone events ∧ ((creations events).map Object.kind).Sublist [.device] := by
  cases h with
  | refused => exact ⟨undone_of_quiet rfl rfl, by simp [creations]⟩
  | failed => exact ⟨undone_of_quiet rfl rfl, List.nil_sublist _⟩
  | @queueless request device queue =>
    refine ⟨⟨[.answered (.createDevice inst physical request) (.ok device)],
      [.answered (.getQueue device family 0) queue, .answered (.destroyDevice device) ()],
      rfl, rfl, rfl, rfl⟩, ?_⟩
    exact .refl [ObjectKind.device]

theorem DeviceCreation.of_ok {inst : InstanceHandle} {physical : PhysicalDeviceHandle}
    {family : UInt32} {capabilities : List Capability} {extensions : List String}
    {device : DeviceHandle} {queue : QueueHandle}
    (h : DeviceCreation inst physical family capabilities extensions events (.ok (device, queue))) :
    creations events = [device.object] ∧ releases events = [] := by
  cases h
  exact ⟨rfl, rfl⟩

namespace Context

variable {stamp : Nat} {inst : InstanceHandle}

theorem Negotiation.of_error (h : Negotiation config inst events (.error e)) :
    Undone events ∧ ((creations events).map Object.kind).Sublist [.device] := by
  cases h with
  | unchosen choosing =>
    obtain ⟨hcreations, hreleases⟩ := quiet_choose choosing
    exact ⟨undone_of_quiet hcreations hreleases, by simp [hcreations]⟩
  | uncreated choosing creating =>
    obtain ⟨hcreations, hreleases⟩ := quiet_choose choosing
    obtain ⟨hundone, hkinds⟩ := creating.of_error
    refine ⟨hundone.append_left hcreations hreleases, ?_⟩
    rwa [creations_append, hcreations]

theorem Negotiation.of_ok {choice : Choice} {device : DeviceHandle} {queue : QueueHandle}
    (h : Negotiation config inst events (.ok (choice, device, queue))) :
    creations events = [device.object] ∧ releases events = [] := by
  cases h with
  | created choosing creating =>
    obtain ⟨hcreations, hreleases⟩ := quiet_choose choosing
    simp [hcreations, hreleases, creating.of_ok]

theorem Course.of_error (h : Course config sink stamp events (.error e)) :
    Undone events ∧ ((creations events).map Object.kind).Sublist [.inst, .messenger, .device] := by
  cases h with
  | unresolved resolving =>
    obtain ⟨hcreations, hreleases⟩ := quiet_resolveWith resolving
    exact ⟨undone_of_quiet hcreations hreleases, by simp [hcreations]⟩
  | uninstanced resolving establishing =>
    obtain ⟨hcreations, hreleases⟩ := quiet_resolveWith resolving
    obtain ⟨hundone, hkinds⟩ := establishing.of_error
    refine ⟨hundone.append_left hcreations hreleases, ?_⟩
    rw [creations_append, hcreations]
    exact hkinds.trans (by simp)
  | @undeviced first second third table entries i _ resolving establishing negotiating =>
    obtain ⟨hresolved, hresolved'⟩ := quiet_resolveWith resolving
    obtain ⟨hcreated, hcreated', -⟩ := establishing.of_ok
    obtain ⟨hundone, hkinds⟩ := negotiating.of_error
    obtain ⟨hclosed, hclosed'⟩ := Instance.undoes_closing (i := i)
    constructor
    · rw [← List.append_assoc]
      apply hundone.enclose _ hclosed
      · simp [hclosed', hresolved, hcreated]
      · simp [hresolved', hcreated']
    · have hall : creations (first ++ (second ++ (third ++ i.closing))) =
          i.objects ++ creations third := by simp [hresolved, hcreated, hclosed]
      rw [hall, List.map_append]
      exact (i.kinds_objects).append hkinds

theorem Course.of_ok {context : Context} (h : Course config sink stamp events (.ok context)) :
    releases events = [] ∧ ∃ i, context.device.owner = some i ∧
      creations events = i.objects ++ [context.device.handle.object] ∧
      i.callback.map Callback.sink = if config.validation then some sink else none := by
  cases h with
  | established resolving establishing negotiating describing =>
    obtain ⟨hresolved, hresolved'⟩ := quiet_resolveWith resolving
    obtain ⟨hcreated, hcreated', hsink⟩ := establishing.of_ok
    obtain ⟨hdevice, hdevice'⟩ := negotiating.of_ok
    obtain ⟨haround, haround'⟩ := quiet_of_only (only_around rfl rfl) describing
    rw [runs_around describing]
    refine ⟨?_, _, rfl, ?_, hsink⟩
    · simp [hresolved', hcreated', hdevice', haround']
    · simp [hresolved, hcreated, hdevice, haround]

/-- An establishment that fails has released everything that it created, and nothing else: the
device first, then the messenger, then the instance, so far as they were created. One that succeeds
has released nothing, and has created one instance, one device and, exactly with validation, one
messenger for the sink. -/
theorem establish_all_or_nothing {r : Except Error Context}
    (hrun : (establish config sink stamp).Runs events r) :
    (∀ e, r = .error e → Undone events ∧
      ((releases events).map Object.kind).Sublist [.device, .messenger, .inst]) ∧
    ∀ c, r = .ok c → releases events = [] ∧ ∃ i, c.device.owner = some i ∧
      creations events = i.objects ++ [c.device.handle.object] ∧
      i.callback.map Callback.sink = if config.validation then some sink else none := by
  constructor
  · rintro e rfl
    obtain ⟨hundone, hkinds⟩ := (runs_establish hrun).of_error
    exact ⟨hundone, hundone.kinds hkinds⟩
  · rintro c rfl
    exact (runs_establish hrun).of_ok

/-- The driver of the sample has the layer that validation needs, and no queue. -/
def queuelessRun : Except Error Context × List Event × Nat :=
  (establish .default 0 0).runWith
    (((Driver.numbering fun _ => false).override Command.withLayers).override fun
      | .getQueue .. => some .null
      | _ => none) 1

theorem undone_without_queue : Undone queuelessRun.2.1 ∧
    releases queuelessRun.2.1 = [⟨.device, 81⟩, ⟨.messenger, 76⟩, ⟨.inst, 6⟩] := by
  refine ⟨?_, by decide +kernel⟩
  have hfailed : queuelessRun.1.toOption.isNone := by decide +kernel
  have hrun : (establish .default 0 0).Runs queuelessRun.2.1 queuelessRun.1 :=
    Program.runs_runWith ..
  obtain ⟨herror, -⟩ := establish_all_or_nothing hrun
  cases hr : queuelessRun.1 with
  | error e => exact (herror e hr).1
  | ok c => simp [hr, Except.toOption] at hfailed

end Context

end Stages

end VulkanExec
