import VulkanExec.Proofs.Establishment.Selection
import VulkanExec.Proofs.Features
import VulkanExec.Proofs.Numbering
import VulkanExec.Proofs.Release

/-!
# The request for a device

A device is asked for on a physical device that was looked at right before, and what is asked for is
what was checked there: the capabilities and extensions of the configuration, and the first queue
family that does the work. A context says of itself what was asked for.

## Main definitions

- `Surveyed`: the last that the driver was asked is what a physical device advertises;
- `Negotiated`: what a request for a device owes to the configuration and to the events before it;
- `Context.Grants`: a context that says what was asked for.

The main statement is `request_as_negotiated`.
-/

namespace VulkanExec

open Program

/-! ## Candidates -/

/-- The last that the driver was asked before is what a physical device advertises. Extensions that
cannot be queried count as none. -/
def Surveyed (inst : InstanceHandle) (candidate : Candidate) (past : List Event) : Prop :=
  ∃ (before : List Event) (reply : Reply (List String)) (notes later : List Note),
    past = before ++ .answered (.deviceExtensions inst candidate.handle) reply ::
      (notes.map .noted ++ .answered (.features inst candidate.handle) candidate.features ::
        .answered (.queueFamilies inst candidate.handle) candidate.families ::
          later.map .noted) ∧
    candidate.extensions = reply.toOption.getD []

section Surveyed

variable {inst : InstanceHandle} {candidate : Candidate} {past events : List Event}

theorem Surveyed.append_left (h : Surveyed inst candidate events) (past : List Event) :
    Surveyed inst candidate (past ++ events) := by
  obtain ⟨before, reply, notes, later, rfl, hextensions⟩ := h
  exact ⟨past ++ before, reply, notes, later, by simp, hextensions⟩

theorem Surveyed.noted (h : Surveyed inst candidate past) (n : Note) :
    Surveyed inst candidate (past ++ [.noted n]) := by
  obtain ⟨before, reply, notes, later, rfl, hextensions⟩ := h
  exact ⟨before, reply, notes, later ++ [n], by simp, hextensions⟩

theorem surveyed_of_survey {handle : PhysicalDeviceHandle}
    (h : (Candidate.survey inst handle).Runs events candidate) :
    Surveyed inst candidate events := by
  obtain ⟨reply, rest, rfl, hrest⟩ := runs_ask_iff.1 h
  cases reply with
  | ok names =>
    obtain ⟨features, _, rfl, hfamilies⟩ := runs_ask_iff.1 hrest
    obtain ⟨families, _, rfl, hend⟩ := runs_ask_iff.1 hfamilies
    obtain ⟨rfl, rfl⟩ := runs_pure_iff.1 hend
    exact ⟨[], .ok names, [], [], rfl, rfl⟩
  | error code =>
    obtain ⟨_, rfl, hfeatures⟩ := runs_log_iff.1 hrest
    obtain ⟨features, _, rfl, hfamilies⟩ := runs_ask_iff.1 hfeatures
    obtain ⟨families, _, rfl, hend⟩ := runs_ask_iff.1 hfamilies
    obtain ⟨rfl, rfl⟩ := runs_pure_iff.1 hend
    exact ⟨[], .error code, [_], [], rfl, rfl⟩

variable {capabilities : List Capability} {extensions : List String} {choice : Choice}

/-- The chosen candidate is the last that was surveyed, and it meets the requirements. -/
theorem surveyed_of_select {handles : List PhysicalDeviceHandle}
    (h : (Candidate.select (Candidate.survey inst) capabilities extensions handles).Runs events
      (.ok choice)) :
    Surveyed inst choice.candidate events ∧
      choice.candidate.assess capabilities extensions = .ok choice.family := by
  induction handles generalizing events with
  | nil => cases (runs_pure_iff.1 h).2
  | cons handle handles ih =>
    obtain ⟨first, _, candidate, rfl, hsurvey, hrest⟩ := runs_bind_iff.1 h
    obtain ⟨second, third, family?, rfl, hsuitable, hthird⟩ := runs_bind_iff.1 hrest
    unfold Candidate.suitableFamily? at hsuitable
    split at hsuitable
    · next family hfamily =>
      obtain ⟨rfl, rfl⟩ := runs_pure_iff.1 hsuitable
      obtain ⟨rfl, he⟩ := runs_pure_iff.1 hthird
      cases he
      simpa using ⟨surveyed_of_survey hsurvey, hfamily⟩
    · obtain ⟨_, _, hend⟩ := runs_log_iff.1 hsuitable
      obtain ⟨-, rfl⟩ := runs_pure_iff.1 hend
      obtain ⟨hsurveyed, hassess⟩ := ih hthird
      exact ⟨(hsurveyed.append_left second).append_left first, hassess⟩

theorem surveyed_of_choose
    (h : (Candidate.choose inst capabilities extensions).Runs events (.ok choice)) :
    Surveyed inst choice.candidate events ∧
      choice.candidate.assess capabilities extensions = .ok choice.family := by
  obtain ⟨answer, rest, rfl, hrest⟩ := runs_ask_iff.1 h
  cases answer with
  | error code => cases (runs_pure_iff.1 hrest).2
  | ok handles =>
    obtain ⟨later, rfl, hselect⟩ := runs_log_iff.1 hrest
    rcases runs_except_bind hselect with
      ⟨first, _, e, rfl, hfirst, hend⟩ | ⟨first, _, chosen, rfl, hfirst, hlog⟩
    · cases (runs_pure_iff.1 hend).2
    · obtain ⟨_, rfl, hend⟩ := runs_log_iff.1 hlog
      obtain ⟨rfl, he⟩ := runs_pure_iff.1 hend
      cases he
      obtain ⟨hsurveyed, hassess⟩ := surveyed_of_select hfirst
      exact ⟨(hsurveyed.noted _).append_left [_, _], hassess⟩

end Surveyed

/-! ## Requests -/

/-- What a request for a device owes to the events before it: the physical device was surveyed just
now, it advertises all that is asked for, and the queue family is its first for graphics or compute.
What is asked for is what the configuration requires. -/
structure Negotiated (config : Config) (inst : InstanceHandle) (physical : PhysicalDeviceHandle)
    (request : DeviceSpec) (past : List Event) : Prop where
  advertised : ∃ candidate, candidate.handle = physical ∧ Surveyed inst candidate past ∧
    (∀ c, request.features.word c ≠ 0 → candidate.features.word c = 1) ∧
    (∀ name ∈ request.extensions, name ∈ candidate.extensions) ∧
    ∃ i, candidate.families.findIdx? Candidate.worksOn = some i ∧ request.family = i.toUInt32 ∧
      (candidate.families.length ≤ UInt32.size → request.family.toNat = i)
  features : ∀ c, request.features.word c = if c ∈ config.capabilities then 1 else 0
  extensions : request.extensions = config.extensions

theorem eq_of_deviceSpec {family : UInt32} {capabilities : List Capability}
    {extensions : List String} {request : DeviceSpec}
    (h : deviceSpec family capabilities extensions = .ok request) :
    request = ⟨family, Features.requesting capabilities, extensions⟩ := by
  unfold deviceSpec at h
  cases hnames : driverNames "required_extensions" extensions with
  | error e => simp [hnames, bind, Except.bind] at h
  | ok => simpa [hnames, bind, Except.bind, pure, Except.pure, eq_comm] using h

/-- The request for a device on a candidate that meets the requirements is negotiated. -/
theorem negotiated_of_assess {config : Config} {inst : InstanceHandle} {choice : Choice}
    {request : DeviceSpec} {past : List Event} (hsurveyed : Surveyed inst choice.candidate past)
    (hassess : choice.candidate.assess config.capabilities config.extensions = .ok choice.family)
    (hrequest : deviceSpec choice.family config.capabilities config.extensions = .ok request) :
    Negotiated config inst choice.candidate.handle request past := by
  obtain ⟨hsuits, hfamily⟩ := assess_eq_ok_iff.1 hassess
  simp only [Config.suits, Bool.and_eq_true, List.all_eq_true] at hsuits
  obtain ⟨⟨hcapabilities, hextensions⟩, -⟩ := hsuits
  obtain ⟨i, hi, hcast⟩ := Option.map_eq_some_iff.1 hfamily
  obtain rfl := eq_of_deviceSpec hrequest
  refine ⟨⟨choice.candidate, rfl, hsurveyed, ?_, ?_, i, hi, hcast.symm, ?_⟩, ?_, rfl⟩
  · intro c hc
    have hmem : c ∈ config.capabilities := by
      by_contra hnot
      simp [Features.word_requesting, hnot] at hc
    simpa [Features.has] using hcapabilities c hmem
  · intro name hname
    simpa using hextensions name hname
  · intro hlength
    have hlt : i < choice.candidate.families.length := (List.findIdx?_eq_some_iff_getElem.1 hi).1
    rw [← hcast]
    exact UInt32.toNat_ofNat_of_lt (by omega)
  · exact Features.word_requesting config.capabilities

/-- Whether a command is a request for a device. -/
def Command.requestsDevice : Command → Bool
  | createDevice .. => true
  | _ => false

/-- Whether an event is a request for a device. -/
def Event.requestsDevice : Event → Bool
  | answered c _ => c.requestsDevice
  | noted _ => false

/-- An event that is a request for a device is a negotiated one. -/
def Event.Negotiated (config : Config) (past : List Event) : Event → Prop
  | answered (.createDevice inst physical request) _ =>
    VulkanExec.Negotiated config inst physical request past
  | _ => True

section Requests

variable {config : Config} {inst : InstanceHandle} {sink : SinkId} {stamp : Nat}
  {past events : List Event}

/-- A program without requests owes nothing. -/
theorem meets_of_no_request {α : Type} {p : Program α}
    (h : p.Only fun c => c.requestsDevice = false) :
    (Monitor.history (Event.Negotiated config)).Meets p past fun _ _ => True := by
  refine h.meets (I := fun _ => True) trivial ?_ fun _ _ _ => ⟨trivial, trivial⟩
  intro t c answer _ hc
  cases c <;> first | exact ⟨trivial, trivial⟩ | cases hc

theorem no_request_of_only {α : Type} {p : Program α} {a : α}
    (h : p.Only fun c => c.requestsDevice = false) (hruns : p.Runs events a) :
    ∀ e ∈ events, e.requestsDevice = false := by
  intro e he
  cases e with
  | noted n => rfl
  | answered c answer => exact h.of_mem hruns he

theorem only_instance_establish_no_request {table : EntryTable} :
    (Instance.establish config table sink).Only fun c => c.requestsDevice = false :=
  only_instance_establish rfl (fun _ => rfl) (fun _ => rfl) (fun _ _ => rfl) (fun _ => rfl)
    fun _ => only_instance_close rfl fun _ _ => rfl

theorem only_choose_no_request :
    (Candidate.choose inst config.capabilities config.extensions).Only
      fun c => c.requestsDevice = false :=
  only_choose rfl (fun _ => rfl) (fun _ => rfl) fun _ => rfl

/-- The request for a device on the candidate that was chosen just now is negotiated. -/
theorem negotiated_createDevice {choice : Choice} (hsurveyed : Surveyed inst choice.candidate past)
    (hassess : choice.candidate.assess config.capabilities config.extensions = .ok choice.family) :
    (Monitor.history (Event.Negotiated config)).Meets
      (createDevice inst choice.candidate.handle choice.family config.capabilities
        config.extensions) past fun _ _ => True := by
  have howed {request : DeviceSpec}
      (hrequest : deviceSpec choice.family config.capabilities config.extensions = .ok request) :
      Negotiated config inst choice.candidate.handle request past :=
    negotiated_of_assess hsurveyed hassess hrequest
  rintro events r hruns -
  cases runs_createDevice hruns with
  | refused h => exact ⟨trivial, trivial⟩
  | failed h => exact ⟨⟨howed h, trivial⟩, trivial⟩
  | queueless h _ => exact ⟨⟨howed h, trivial, trivial, trivial⟩, trivial⟩
  | created h _ => exact ⟨⟨howed h, trivial, trivial⟩, trivial⟩

theorem negotiated_negotiate :
    (Monitor.history (Event.Negotiated config)).Meets (Context.negotiate config inst) past
      fun _ _ => True := by
  have hchoose : (Monitor.history (Event.Negotiated config)).Meets
      (Candidate.choose inst config.capabilities config.extensions) past fun r t =>
        ∀ choice, r = .ok choice → Surveyed inst choice.candidate t ∧
          choice.candidate.assess config.capabilities config.extensions = .ok choice.family := by
    intro events r hruns hexpects
    refine ⟨(meets_of_no_request only_choose_no_request events r hruns hexpects).1, ?_⟩
    rintro choice rfl
    rw [Monitor.after_history]
    obtain ⟨hsurveyed, hassess⟩ := surveyed_of_choose hruns
    exact ⟨hsurveyed.append_left past, hassess⟩
  apply hchoose.bind
  intro chosen t hchosen
  cases chosen with
  | error e => exact Monitor.meets_done trivial
  | ok choice =>
    obtain ⟨hsurveyed, hassess⟩ := hchosen choice rfl
    apply (negotiated_createDevice hsurveyed hassess).bind
    intro created t _
    cases created <;> exact Monitor.meets_done trivial

/-- Every request of an establishment is negotiated. -/
theorem negotiated_establish :
    (Monitor.history (Event.Negotiated config)).Meets (Context.establish config sink stamp) past
      fun _ _ => True := by
  apply (meets_of_no_request (only_resolveWith fun _ => rfl)).bind
  intro resolved t _
  cases resolved with
  | error e => exact Monitor.meets_done trivial
  | ok table =>
    apply (meets_of_no_request only_instance_establish_no_request).bind
    intro established t _
    cases established with
    | error e => exact Monitor.meets_done trivial
    | ok equipped =>
      apply negotiated_negotiate.bind
      intro negotiated t _
      cases negotiated with
      | error e =>
        have hclose : equipped.1.close.Only fun c => c.requestsDevice = false :=
          only_instance_close rfl fun _ _ => rfl
        exact (meets_of_no_request hclose).bind fun _ t _ => Monitor.meets_done trivial
      | ok chosen =>
        apply (meets_of_no_request (only_around rfl rfl)).bind
        intro context t _
        exact Monitor.meets_log trivial (Monitor.meets_done trivial)

end Requests

/-! ## What a context says -/

/-- A context tells on which physical device it is and what it was asked for. -/
theorem fields_of_around {config : Config} {entries : EntryTable} {device : Device}
    {inst : InstanceHandle} {physical : PhysicalDeviceHandle} {queue : QueueHandle}
    {family : UInt32} {events : List Event} {c : Context}
    (h : (Context.around config entries device inst physical queue family).Runs events c) :
    c.physicalDevice = physical ∧ c.family = family ∧ c.capabilities = config.capabilities ∧
      c.extensions = config.extensions := by
  obtain ⟨_, _, _, hrest⟩ := runs_ask_iff.1 h
  obtain ⟨_, _, _, hend⟩ := runs_ask_iff.1 hrest
  rw [(runs_pure_iff.1 hend).2]
  exact ⟨rfl, rfl, rfl, rfl⟩

/-- The context is on the physical device and the family of a request, and tells what was asked
for. -/
structure Context.Grants (c : Context) (physical : PhysicalDeviceHandle) (request : DeviceSpec) :
    Prop where
  physicalDevice : c.physicalDevice = physical
  family : c.family = request.family
  features : ∀ k, request.features.word k = if k ∈ c.capabilities then 1 else 0
  extensions : c.extensions = request.extensions

/-- An established context is on a device that was asked for once. -/
theorem granted_of_establish {config : Config} {sink : SinkId} {stamp : Nat} {events : List Event}
    {c : Context} (h : (Context.establish config sink stamp).Runs events (.ok c)) :
    ∃ before physical request rest,
      events = before ++ .answered (.createDevice c.instanceHandle physical request)
        (.ok c.device.handle) :: rest ∧
      (∀ e ∈ before ++ rest, e.requestsDevice = false) ∧ c.Grants physical request ∧
      c.capabilities = config.capabilities := by
  rcases runs_except_bind h with
    ⟨_, _, _, rfl, _, hend⟩ | ⟨resolving, _, table, rfl, hresolve, hrest⟩
  · cases (runs_pure_iff.1 hend).2
  rcases runs_except_bind hrest with
    ⟨_, _, _, rfl, _, hend⟩ | ⟨establishing, _, ⟨i, entries⟩, rfl, hestablish, hrest⟩
  · cases (runs_pure_iff.1 hend).2
  rcases runs_except_bind hrest with
    ⟨_, _, _, rfl, _, hclose⟩ | ⟨_, _, ⟨choice, device, queue⟩, rfl, hnegotiate, hrest⟩
  · obtain ⟨_, _, _, _, _, hend⟩ := runs_bind_iff.1 hclose
    cases (runs_pure_iff.1 hend).2
  obtain ⟨describing, _, context, rfl, hdescribe, hlog⟩ := runs_bind_iff.1 hrest
  obtain ⟨_, rfl, hend⟩ := runs_log_iff.1 hlog
  obtain ⟨rfl, he⟩ := runs_pure_iff.1 hend
  obtain rfl : c = context := by simpa using he
  cases Context.runs_negotiate hnegotiate with
  | @created choosing _ _ _ _ hchoose hcreate =>
    cases hcreate with
    | @created request _ _ hrequest _ =>
      have hdevice := runs_around hdescribe
      have hinst := (entries_of_around hdescribe).1
      obtain ⟨hphysical, hfamily, hcapabilities, hextensions⟩ := fields_of_around hdescribe
      obtain rfl := eq_of_deviceSpec hrequest
      refine ⟨resolving ++ (establishing ++ choosing), choice.candidate.handle,
        ⟨choice.family, Features.requesting config.capabilities, config.extensions⟩,
        .answered (.getQueue device choice.family 0) queue :: (describing ++
          [.noted (.log ⟨.info, "execution context ready on " ++ c.placement⟩)]),
        by rw [hinst, hdevice]; simp, ?_, ⟨hphysical, hfamily, ?_, hextensions⟩, hcapabilities⟩
      · have hresolving := no_request_of_only (only_resolveWith fun _ => rfl) hresolve
        have hestablishing := no_request_of_only only_instance_establish_no_request hestablish
        have hchoosing := no_request_of_only only_choose_no_request hchoose
        have hdescribing := no_request_of_only (only_around rfl rfl) hdescribe
        simp only [List.mem_append, List.mem_cons]
        rintro e ((he | he | he) | rfl | he | rfl | he)
        · exact hresolving e he
        · exact hestablishing e he
        · exact hchoosing e he
        · rfl
        · exact hdescribing e he
        · rfl
        · cases he
      · rw [hcapabilities]
        exact Features.word_requesting config.capabilities

/-- Every request for a device is negotiated, and an established context has what was asked for. -/
theorem request_as_negotiated {config : Config} {sink : SinkId} {stamp : Nat} {events : List Event}
    {r : Except Error Context} (h : (Context.establish config sink stamp).Runs events r) :
    (∀ before inst physical request answer rest,
      events = before ++ .answered (.createDevice inst physical request) answer :: rest →
      Negotiated config inst physical request before) ∧
    ∀ c, r = .ok c → ∃ before physical request rest,
      events = before ++ .answered (.createDevice c.instanceHandle physical request)
        (.ok c.device.handle) :: rest ∧
      (∀ e ∈ before ++ rest, e.requestsDevice = false) ∧ c.Grants physical request ∧
      c.capabilities = config.capabilities := by
  constructor
  · intro before inst physical request answer rest he
    exact (negotiated_establish.of_history h).1 before _ rest he
  · rintro c rfl
    exact granted_of_establish h

/-! ### A second choice -/

/-- A configuration that asks for something twice. -/
def insistentConfig : Config :=
  { Config.default with
    validation := false
    capabilities := [.samplerAnisotropy, .samplerAnisotropy]
    extensions := ["VK_KHR_swapchain", "VK_KHR_swapchain"] }

/-- A driver with two physical devices. The first has no features, and the first queue family of
each is for neither graphics nor compute. -/
def twoDevices : Driver Nat :=
  (Driver.numbering fun _ => false).override fun
    | .physicalDevices _ => some (.ok [⟨1⟩, ⟨2⟩])
    | .features _ device => some (if device = ⟨1⟩ then .off else .allOn)
    | .deviceExtensions .. => some (.ok ["VK_KHR_swapchain"])
    | .queueFamilies .. => some [4, 3]
    | _ => none

def insistentRun : Except Error Context × List Event × Nat :=
  (Context.establish insistentConfig 0 0).runWith twoDevices 1

theorem second_device_requested : ∃ before inst request answer rest,
    insistentRun.2.1 = before ++ .answered (.createDevice inst ⟨2⟩ request) answer :: rest ∧
      request.family = 1 ∧ request.extensions = ["VK_KHR_swapchain", "VK_KHR_swapchain"] ∧
      Negotiated insistentConfig inst ⟨2⟩ request before := by
  have hrun : (Context.establish insistentConfig 0 0).Runs insistentRun.2.1 insistentRun.1 := by
    unfold insistentRun
    exact Program.runs_runWith ..
  have hdone : insistentRun.1.toOption.any fun c => c.physicalDevice = ⟨2⟩ ∧ c.family = 1 := by
    decide +kernel
  obtain ⟨hnegotiated, hgranted⟩ := request_as_negotiated hrun
  cases hr : insistentRun.1 with
  | error e => simp [hr, Except.toOption] at hdone
  | ok c =>
    obtain ⟨before, physical, request, rest, he, -, hgrants, -⟩ := hgranted c hr
    obtain ⟨hphysical, hfamily⟩ : c.physicalDevice = ⟨2⟩ ∧ c.family = 1 := by
      simpa [hr, Except.toOption] using hdone
    obtain rfl : physical = ⟨2⟩ := hgrants.physicalDevice.symm.trans hphysical
    have howed := hnegotiated _ _ _ _ _ _ he
    exact ⟨_, _, _, _, _, he, hgrants.family.symm.trans hfamily, howed.extensions, howed⟩

end VulkanExec
