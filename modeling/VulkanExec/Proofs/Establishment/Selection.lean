import VulkanExec.Proofs.Establishment.Conditions

/-!
# What decides a device

The stages from an instance to a device: a physical device is chosen, and a device with its queue is
created on it. The physical devices are surveyed in order, up to the first that suits.

## Main definitions

- `Survey`, `Survey.told`: what a physical device answers to a survey, and what surveys tell.

The main statements are `decided_choose` and `decided_createDevice`.
-/

namespace VulkanExec

open Program

variable {config : Config} {sink : SinkId} {events : List Event} {a : Answers}
  {inst : InstanceHandle}

/-! ## Physical devices -/

/-- What a physical device answered when it was surveyed. -/
structure Survey where
  candidate : Candidate
  reply : Reply (List String)
  /-- Extensions that cannot be queried count as none. -/
  extensions_eq : candidate.extensions = reply.toOption.getD []

/-- What is told by surveys of the physical devices of an instance. -/
def Survey.told (inst : InstanceHandle) (surveys : List Survey) : Answers where
  deviceExtensions := surveys.map fun s => ((inst, s.candidate.handle), s.reply)
  features := surveys.map fun s => ((inst, s.candidate.handle), s.candidate.features)
  families := surveys.map fun s => ((inst, s.candidate.handle), s.candidate.families)

theorem Survey.told_cons (s : Survey) (surveys : List Survey) :
    told inst (s :: surveys) = told inst [s] ++ told inst surveys := rfl

/-- What is told by surveys is what the candidates are. -/
theorem Survey.candidates_of_told {surveys : List Survey}
    (hextensions : a.deviceExtensions = (Survey.told inst surveys).deviceExtensions)
    (hfeatures : a.features = (Survey.told inst surveys).features)
    (hfamilies : a.families = (Survey.told inst surveys).families) :
    a.candidates? inst = some (surveys.map Survey.candidate) := by
  rw [Answers.candidates?, hextensions, hfeatures, hfamilies]
  clear hextensions hfeatures hfamilies
  simp only [told, List.zip_map']
  induction surveys with
  | nil => rfl
  | cons s surveys ih =>
    rw [List.map_cons, List.mapM_cons, ih]
    simp [← s.extensions_eq]

theorem runs_survey {handle : PhysicalDeviceHandle} {candidate : Candidate}
    (h : (Candidate.survey inst handle).Runs events candidate) :
    ∃ s : Survey, s.candidate = candidate ∧ candidate.handle = handle ∧
      Answers.of events = Survey.told inst [s] := by
  obtain ⟨reply, rest, rfl, hrest⟩ := runs_ask_iff.1 h
  cases reply with
  | ok names =>
    obtain ⟨features, _, rfl, hfamilies⟩ := runs_ask_iff.1 hrest
    obtain ⟨families, _, rfl, hend⟩ := runs_ask_iff.1 hfamilies
    obtain ⟨rfl, rfl⟩ := runs_pure_iff.1 hend
    exact ⟨⟨⟨handle, features, names, families⟩, .ok names, rfl⟩, rfl, rfl, rfl⟩
  | error code =>
    obtain ⟨_, rfl, hfeatures⟩ := runs_log_iff.1 hrest
    obtain ⟨features, _, rfl, hfamilies⟩ := runs_ask_iff.1 hfeatures
    obtain ⟨families, _, rfl, hend⟩ := runs_ask_iff.1 hfamilies
    obtain ⟨rfl, rfl⟩ := runs_pure_iff.1 hend
    exact ⟨⟨⟨handle, features, [], families⟩, .error code, rfl⟩, rfl, rfl, rfl⟩

/-- A candidate has a family to work on when one of its families does the work. -/
theorem workFamily?_isSome (candidate : Candidate) :
    candidate.workFamily?.isSome = candidate.families.any Candidate.worksOn := by
  simp [Candidate.workFamily?]

/-- A candidate meets the requirements when it suits the configuration. -/
theorem assess_eq_ok_iff {candidate : Candidate} {family : UInt32} :
    candidate.assess config.capabilities config.extensions = .ok family ↔
      config.suits candidate ∧ candidate.workFamily? = some family := by
  have hfamily := workFamily?_isSome candidate
  have hcapabilities : supports candidate.features.has config.capabilities =
      config.capabilities.all (candidate.features.has ·) := rfl
  have hextensions : supports (offers candidate.extensions) config.extensions =
      config.extensions.all (candidate.extensions.contains ·) := rfl
  rw [Candidate.assess, Config.suits, hcapabilities, hextensions, ← hfamily]
  cases config.capabilities.all (candidate.features.has ·) <;>
    cases config.extensions.all (candidate.extensions.contains ·) <;>
    cases candidate.workFamily? <;> simp

/-- A candidate is logged or taken, as it suits the configuration. -/
theorem runs_suitableFamily? {candidate : Candidate} {r : Option UInt32}
    (h : (candidate.suitableFamily? config.capabilities config.extensions).Runs events r) :
    Answers.of events = {} ∧ ((∃ family, r = some family ∧ config.suits candidate ∧
      candidate.workFamily? = some family) ∨ r = none ∧ config.suits candidate = false) := by
  unfold Candidate.suitableFamily? at h
  split at h
  · next family hfamily =>
    obtain ⟨rfl, rfl⟩ := runs_pure_iff.1 h
    exact ⟨rfl, .inl ⟨family, rfl, assess_eq_ok_iff.1 hfamily⟩⟩
  · next shortcoming hshort =>
    obtain ⟨_, rfl, hend⟩ := runs_log_iff.1 h
    obtain ⟨rfl, rfl⟩ := runs_pure_iff.1 hend
    refine ⟨rfl, .inr ⟨rfl, ?_⟩⟩
    by_contra hsuits
    rw [Bool.not_eq_false] at hsuits
    have hsome : candidate.workFamily?.isSome := by
      rw [workFamily?_isSome]
      simp only [Config.suits, Bool.and_eq_true] at hsuits
      exact hsuits.2
    obtain ⟨family, hfamily⟩ := Option.isSome_iff_exists.1 hsome
    rw [assess_eq_ok_iff.2 ⟨hsuits, hfamily⟩] at hshort
    cases hshort

theorem checkSuited_cons {candidate : Candidate} {asked : List Candidate}
    {devices : List PhysicalDeviceHandle} (h : config.suits candidate = false) :
    config.checkSuited (candidate :: asked) (candidate.handle :: devices) =
      config.checkSuited asked devices := by
  simp [Config.checkSuited, h]

/-- The physical devices are surveyed in order, up to the first that suits. -/
theorem runs_select {devices : List PhysicalDeviceHandle} {r : Except Error Choice}
    (h : (Candidate.select (Candidate.survey inst) config.capabilities config.extensions
      devices).Runs events r) :
    ∃ surveys, Answers.of events = Survey.told inst surveys ∧
      config.checkSuited (surveys.map Survey.candidate) devices = Check.of r ∧
      ∀ choice, r = .ok choice →
        (surveys.map Survey.candidate).find? config.suits = some choice.candidate ∧
          choice.candidate.workFamily? = some choice.family := by
  induction devices generalizing events with
  | nil =>
    obtain ⟨rfl, rfl⟩ := runs_pure_iff.1 h
    exact ⟨[], rfl, rfl, by simp⟩
  | cons device devices ih =>
    obtain ⟨first, _, candidate, rfl, hfirst, hrest⟩ := runs_bind_iff.1 h
    obtain ⟨second, third, family?, rfl, hsecond, hthird⟩ := runs_bind_iff.1 hrest
    obtain ⟨s, rfl, rfl, htold⟩ := runs_survey hfirst
    obtain ⟨hquiet, ⟨family, rfl, hsuits, hfamily⟩ | ⟨rfl, hsuits⟩⟩ := runs_suitableFamily? hsecond
    · obtain ⟨rfl, rfl⟩ := runs_pure_iff.1 hthird
      refine ⟨[s], by simp [htold, hquiet], ?_, ?_⟩
      · simp [Config.checkSuited, hsuits, Check.of]
      · rintro _ ⟨⟩
        simp [hsuits, hfamily]
    · obtain ⟨surveys, hsurveys, hcheck, hchoice⟩ := ih hthird
      refine ⟨s :: surveys, by simp [htold, hquiet, hsurveys, ← Survey.told_cons], ?_, ?_⟩
      · rw [List.map_cons, checkSuited_cons hsuits, hcheck]
      · intro choice hr
        rw [List.map_cons, List.find?_cons, hsuits]
        exact hchoice choice hr

/-- The physical devices are listed, and one of them is chosen. -/
theorem decided_choose {r : Except Error Choice}
    (h : (Candidate.choose inst config.capabilities config.extensions).Runs events r) :
    ∃ physicalDevices surveys,
      Answers.of events = { Survey.told inst surveys with physicalDevices } ∧
      (a.Created config inst → a.physicalDevices = physicalDevices →
        a.candidates? inst = some (surveys.map Survey.candidate) →
        Decided config sink a [.devicesListed, .deviceSuited] r ∧ ∀ choice, r = .ok choice →
          a.choice? config inst = some (choice.candidate.handle, choice.family)) := by
  obtain ⟨answer, rest, rfl, hrest⟩ := runs_ask_iff.1 h
  cases answer with
  | error code =>
    obtain ⟨rfl, rfl⟩ := runs_pure_iff.1 hrest
    refine ⟨[(inst, .error code)], [], rfl, ?_⟩
    intro hinst ha _
    have hlisted : Condition.check config sink a .devicesListed =
        .fails (.enumerationFailed "vkEnumeratePhysicalDevices" code) := by
      rw [Condition.check, hinst.onInstance_eq, ha, answer?_singleton]
      rfl
    exact ⟨by simp [Decided, hlisted, Check.of], by simp⟩
  | ok devices =>
    obtain ⟨later, rfl, hselect⟩ := runs_log_iff.1 hrest
    obtain ⟨first, hfirst, hsame⟩ : ∃ first,
        (Candidate.select (Candidate.survey inst) config.capabilities config.extensions
          devices).Runs first r ∧ Answers.of later = Answers.of first := by
      rcases runs_except_bind hselect with
        ⟨first, _, e, rfl, hfirst, hend⟩ | ⟨first, _, choice, rfl, hfirst, hlog⟩
      · obtain ⟨rfl, rfl⟩ := runs_pure_iff.1 hend
        exact ⟨first, hfirst, by simp⟩
      · obtain ⟨_, rfl, hend⟩ := runs_log_iff.1 hlog
        obtain ⟨rfl, rfl⟩ := runs_pure_iff.1 hend
        exact ⟨first, hfirst, by simp⟩
    obtain ⟨surveys, htold, hcheck, hchosen⟩ := runs_select hfirst
    refine ⟨[(inst, .ok devices)], surveys, ?_, ?_⟩
    · rw [Answers.of_cons, Answers.of_cons, Event.tells_noted, Answers.empty_append, hsame, htold]
      rfl
    · intro hinst ha hcandidates
      have hlisted : Condition.check config sink a .devicesListed = .holds := by
        rw [Condition.check, hinst.onInstance_eq, ha, answer?_singleton]
        rfl
      have hsuited : Condition.check config sink a .deviceSuited = Check.of r := by
        rw [Condition.check, hinst.onInstance_eq, Answers.checkSuited, ha,
          answer?_singleton, Check.ofValue_ok, hcandidates]
        exact hcheck
      constructor
      · simp [Decided, hlisted, hsuited]
      · intro choice hr
        obtain ⟨hfind, hfamily⟩ := hchosen choice hr
        simp [Answers.choice?, hcandidates, hfind, hfamily]

/-! ## Devices -/

/-- The request for a device that can be made is the one that is wanted. -/
theorem eq_wantedDevice {family : UInt32} {request : DeviceSpec}
    (h : deviceSpec family config.capabilities config.extensions = .ok request) :
    request = config.wantedDevice family := by
  simp only [deviceSpec, bind, Except.bind, pure, Except.pure] at h
  split at h <;> cases h
  rfl

/-- The device that is asked for is the one on the physical device that was chosen. -/
theorem device?_eq {physical : PhysicalDeviceHandle} {family : UInt32} {reply : Reply DeviceHandle}
    (hchosen : a.choice? config inst = some (physical, family))
    (hdevices : a.devices = [((inst, physical, config.wantedDevice family), reply)]) :
    a.device? config inst = some reply := by
  rw [Answers.device?, hchosen, hdevices]
  exact answer?_singleton ..

theorem check_deviceExtensionNames (family : UInt32) :
    Condition.check config sink a .deviceExtensionNames =
      Check.of (deviceSpec family config.capabilities config.extensions) := by
  rw [Condition.check, Check.noNul_eq, deviceSpec]
  cases driverNames "required_extensions" config.extensions <;> rfl

theorem check_deviceCreated {reply : Reply DeviceHandle} (hinst : a.Created config inst)
    (hdevice : a.device? config inst = some reply) :
    Condition.check config sink a .deviceCreated =
      .succeeds .deviceCreationFailed (some reply) := by
  rw [Condition.check, hinst.onInstance_eq, hdevice]

/-- The queue is the first of the chosen family, on the device that was created. -/
theorem check_queueThere {physical : PhysicalDeviceHandle} {family : UInt32}
    {device : DeviceHandle} {queue : QueueHandle} (hinst : a.Created config inst)
    (hchosen : a.choice? config inst = some (physical, family))
    (hdevice : a.device? config inst = some (.ok device))
    (hqueues : a.queues = [((device, family, 0), queue)]) :
    Condition.check config sink a .queueThere =
      if queue = .null then .fails (.queueUnavailable family) else .holds := by
  simp [Condition.check, hinst.onInstance_eq, Answers.checkQueue, hchosen, hdevice, hqueues,
    Check.onValue]

/-- A request for a device and for its queue is answered once. -/
theorem decided_createDevice {physical : PhysicalDeviceHandle} {family : UInt32}
    {r : Except Error (DeviceHandle × QueueHandle)}
    (h : DeviceCreation inst physical family config.capabilities config.extensions events r) :
    ∃ devices queues, Answers.of events = { devices, queues } ∧
      (a.Created config inst → a.devices = devices → a.queues = queues →
        a.choice? config inst = some (physical, family) →
        Decided config sink a [.deviceExtensionNames, .deviceCreated, .queueThere] r) := by
  cases h with
  | refused hrefused =>
    refine ⟨[], [], rfl, ?_⟩
    intro _ _ _ _
    simp [Decided, check_deviceExtensionNames family, hrefused, Check.of]
  | @failed request code hrequest =>
    obtain rfl := eq_wantedDevice hrequest
    refine ⟨[(_, .error code)], [], rfl, ?_⟩
    intro hinst hdevices _ hchosen
    have hdevice := device?_eq hchosen hdevices
    simp [Decided, check_deviceExtensionNames family, hrequest, check_deviceCreated hinst hdevice,
      Check.succeeds, Check.of]
  | @queueless request device queue hrequest hnull =>
    obtain rfl := eq_wantedDevice hrequest
    refine ⟨[(_, .ok device)], [((device, family, 0), queue)], rfl, ?_⟩
    intro hinst hdevices hqueues hchosen
    have hdevice := device?_eq hchosen hdevices
    have hnull : queue = .null := by simpa [Handle.isNull] using hnull
    simp [Decided, check_deviceExtensionNames family, hrequest, check_deviceCreated hinst hdevice,
      check_queueThere hinst hchosen hdevice hqueues, hnull, Check.succeeds, Check.of]
  | @created request device queue hrequest hthere =>
    obtain rfl := eq_wantedDevice hrequest
    refine ⟨[(_, .ok device)], [((device, family, 0), queue)], rfl, ?_⟩
    intro hinst hdevices hqueues hchosen
    have hdevice := device?_eq hchosen hdevices
    have hthere : queue ≠ .null := by simpa [Handle.isNull] using hthere
    simp [Decided, check_deviceExtensionNames family, hrequest, check_deviceCreated hinst hdevice,
      check_queueThere hinst hchosen hdevice hqueues, hthere, Check.succeeds, Check.of]

end VulkanExec
