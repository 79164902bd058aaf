import VulkanExec.Proofs.Establishment.Request

/-!
# The first match

The choice of a physical device goes through the devices one by one and stops at the first that
qualifies. It gives what a choice would give that asks every device first, and it asks only the
devices up to the chosen one.

## Main definitions

- `FirstAt`: a place in a list, with the first element that has a property;
- `Platform`: the physical devices and what each of them advertises;
- `Candidate.Qualifies`: what is required of a candidate;
- `Candidate.chooseEagerly`: the choice that asks every device first;
- `FirstMatch`: what is said of a choice.

The main statement is `first_match_chosen`.
-/

namespace VulkanExec

open Program

/-! ## First elements -/

section FirstAt

variable {α : Type} {p : α → Prop} {l : List α} {a b : α} {i j : Nat}

/-- The element `a` at place `i` is the first that has the property. -/
structure FirstAt (p : α → Prop) (l : List α) (i : Nat) (a : α) : Prop where
  at_place : l[i]? = some a
  holds : p a
  earlier : ∀ j < i, ∀ b, l[j]? = some b → ¬ p b

theorem FirstAt.head (h : p a) : FirstAt p (a :: l) 0 a :=
  ⟨rfl, h, fun _ hj => absurd hj (Nat.not_lt_zero _)⟩

theorem FirstAt.cons (hb : ¬ p b) (h : FirstAt p l i a) : FirstAt p (b :: l) (i + 1) a := by
  refine ⟨by simpa using h.at_place, h.holds, ?_⟩
  intro j hj c hc
  cases j with
  | zero => grind
  | succ j => exact h.earlier j (by omega) c (by simpa using hc)

theorem FirstAt.mem (h : FirstAt p l i a) : a ∈ l := List.mem_of_getElem? h.at_place

theorem FirstAt.unique (ha : FirstAt p l i a) (hb : FirstAt p l j b) : i = j ∧ a = b := by
  have hij : i = j := by
    rcases Nat.lt_trichotomy i j with hlt | heq | hgt
    · exact absurd ha.holds (hb.earlier i hlt a ha.at_place)
    · exact heq
    · exact absurd hb.holds (ha.earlier j hgt b hb.at_place)
  subst hij
  exact ⟨rfl, Option.some.inj (ha.at_place.symm.trans hb.at_place)⟩

/-- The place of the first element that passes a test. -/
theorem firstAt_of_findIdx? {q : α → Bool} (h : l.findIdx? q = some i) :
    ∃ a, FirstAt (q · = true) l i a := by
  obtain ⟨hi, hq, hbefore⟩ := List.findIdx?_eq_some_iff_getElem.1 h
  refine ⟨l[i], by simp, hq, ?_⟩
  intro j hj b hb
  obtain ⟨hlt, rfl⟩ := List.getElem?_eq_some_iff.1 hb
  exact hbefore j hj

theorem findIdx?_of_firstAt {q : α → Bool} (h : FirstAt (q · = true) l i a) :
    l.findIdx? q = some i := by
  obtain ⟨hi, rfl⟩ := List.getElem?_eq_some_iff.1 h.at_place
  refine List.findIdx?_eq_some_iff_getElem.2 ⟨hi, h.holds, ?_⟩
  intro j hj
  exact h.earlier j hj l[j] (by simp)

end FirstAt

/-! ## Platforms -/

/-- The physical devices of a driver, and what each of them advertises. -/
structure Platform where
  devices : List PhysicalDeviceHandle
  /-- The extensions of a device, whose query may fail. -/
  extensions : PhysicalDeviceHandle → Reply (List String)
  features : PhysicalDeviceHandle → Features
  /-- The flags of each queue family. -/
  families : PhysicalDeviceHandle → List UInt32

namespace Platform

/-- The answers of a driver with these physical devices. -/
def answer? (platform : Platform) : (c : Command) → Option c.Answer
  | .physicalDevices _ => some (.ok platform.devices)
  | .deviceExtensions _ device => some (platform.extensions device)
  | .features _ device => some (platform.features device)
  | .queueFamilies _ device => some (platform.families device)
  | _ => none

/-- An event of a driver with these physical devices. -/
def Tells (platform : Platform) : Event → Prop
  | .answered c answer => ∀ own, platform.answer? c = some own → answer = own
  | .noted _ => True

/-- A physical device as a candidate. Extensions whose query fails count as none. -/
def candidate (platform : Platform) (device : PhysicalDeviceHandle) : Candidate where
  handle := device
  features := platform.features device
  extensions := (platform.extensions device).toOption.getD []
  families := platform.families device

/-- Every run against a driver with these physical devices tells of them. -/
theorem tells_of_runWith {σ α : Type} (platform : Platform) (driver : Driver σ) (p : Program α)
    (s : σ) : ∀ e ∈ (p.runWith (driver.override platform.answer?) s).2.1, platform.Tells e := by
  induction p generalizing s with
  | done a => simp [runWith]
  | put c next ih =>
    intro e he
    rcases List.mem_cons.1 he with rfl | he
    · intro own hown
      simp [hown]
    · exact ih _ _ e he
  | note n next ih =>
    intro e he
    rcases List.mem_cons.1 he with rfl | he
    · trivial
    · exact ih s e he

end Platform

/-- What is asked of one physical device. -/
def Command.queries (inst : InstanceHandle) (device : PhysicalDeviceHandle) : List Command :=
  [.deviceExtensions inst device, .features inst device, .queueFamilies inst device]

namespace Candidate

/-- A candidate that meets the requirements. -/
structure Qualifies (candidate : Candidate) (capabilities : List Capability)
    (extensions : List String) : Prop where
  capabilities : ∀ c ∈ capabilities, candidate.features.word c = 1
  extensions : ∀ name ∈ extensions, name ∈ candidate.extensions
  family : ∃ flags ∈ candidate.families, flags &&& workFlags ≠ 0

/-- The choice of a candidate that meets the requirements. -/
def choice? (capabilities : List Capability) (extensions : List String) (candidate : Candidate) :
    Option Choice :=
  (candidate.assess capabilities extensions).toOption.map fun family => ⟨candidate, family⟩

/-- Choose a physical device as `choose` does, but ask every device first. -/
def chooseEagerly (inst : InstanceHandle) (capabilities : List Capability)
    (extensions : List String) : Program (Except Error Choice) := do
  match ← .ask (.physicalDevices inst) with
  | .error result => return .error (.enumerationFailed "vkEnumeratePhysicalDevices" result)
  | .ok handles =>
    let candidates ← handles.mapM (survey inst)
    match candidates.filterMap (choice? capabilities extensions) with
    | [] => return .error .noSuitableDevice
    | choice :: _ => return .ok choice

end Candidate

section Selection

variable {platform : Platform} {inst : InstanceHandle} {capabilities : List Capability}
  {extensions : List String} {candidate : Candidate} {device : PhysicalDeviceHandle}
  {devices : List PhysicalDeviceHandle} {choice : Choice} {events : List Event}

theorem worksOn_iff {flags : UInt32} :
    Candidate.worksOn flags = true ↔ flags &&& workFlags ≠ 0 := by
  simp [Candidate.worksOn]

/-- A candidate is taken exactly when it qualifies, with its first family for graphics or
compute. -/
theorem choice?_eq_some_iff :
    candidate.choice? capabilities extensions = some choice ↔
      candidate.Qualifies capabilities extensions ∧
        ∃ k flags, FirstAt (· &&& workFlags ≠ 0) candidate.families k flags ∧
          choice = ⟨candidate, k.toUInt32⟩ := by
  have hassess (family : UInt32) := @assess_eq_ok_iff
    { Config.default with capabilities, extensions } candidate family
  have hworks : (fun flags : UInt32 => flags &&& workFlags ≠ 0) =
      (Candidate.worksOn · = true) := funext fun flags => propext worksOn_iff.symm
  have hqualifies :
      Config.suits { Config.default with capabilities, extensions } candidate = true ↔
        candidate.Qualifies capabilities extensions := by
    simp only [Config.suits, Bool.and_eq_true, List.all_eq_true, List.any_eq_true,
      List.contains_iff_mem, Features.has, beq_iff_eq, worksOn_iff]
    exact ⟨fun h => ⟨h.1.1, h.1.2, h.2⟩, fun h => ⟨⟨h.capabilities, h.extensions⟩, h.family⟩⟩
  rw [Candidate.choice?, Option.map_eq_some_iff, hworks]
  constructor
  · rintro ⟨family, hfamily, rfl⟩
    cases hok : candidate.assess capabilities extensions with
    | error shortcoming => simp [hok, Except.toOption] at hfamily
    | ok family =>
      obtain ⟨hsuits, hwork⟩ := (hassess family).1 hok
      obtain ⟨k, hk, rfl⟩ := Option.map_eq_some_iff.1 hwork
      obtain ⟨flags, hfirst⟩ := firstAt_of_findIdx? hk
      obtain rfl : k.toUInt32 = _ := by simpa [hok, Except.toOption] using hfamily
      exact ⟨hqualifies.1 hsuits, k, flags, hfirst, rfl⟩
  · rintro ⟨hq, k, flags, hfirst, rfl⟩
    have hwork : candidate.workFamily? = some k.toUInt32 := by
      rw [Candidate.workFamily?, findIdx?_of_firstAt hfirst]
      rfl
    have hok := (hassess k.toUInt32).2 ⟨hqualifies.2 hq, hwork⟩
    exact ⟨k.toUInt32, by rw [hok]; rfl, rfl⟩

/-- A candidate is passed over exactly when it does not qualify. -/
theorem choice?_eq_none_iff :
    candidate.choice? capabilities extensions = none ↔
      ¬ candidate.Qualifies capabilities extensions := by
  constructor
  · intro hnone hq
    obtain ⟨flags, hmem, hworks⟩ := hq.family
    have hsome : candidate.workFamily?.isSome := by
      rw [workFamily?_isSome]
      exact List.any_eq_true.2 ⟨flags, hmem, worksOn_iff.2 hworks⟩
    obtain ⟨family, hfamily⟩ := Option.isSome_iff_exists.1 hsome
    obtain ⟨k, hk, -⟩ := Option.map_eq_some_iff.1 hfamily
    obtain ⟨first, hfirst⟩ := firstAt_of_findIdx? hk
    have hfirst : FirstAt (· &&& workFlags ≠ 0) candidate.families k first := by
      simpa only [worksOn_iff] using hfirst
    have htaken := choice?_eq_some_iff.2 ⟨hq, k, first, hfirst, rfl⟩
    simp [htaken] at hnone
  · intro hnot
    refine Option.eq_none_iff_forall_ne_some.2 fun choice hsome => ?_
    exact hnot (choice?_eq_some_iff.1 hsome).1

/-! ## The lazy choice -/

/-- A survey asks for what a physical device advertises, once for each kind of thing. -/
theorem runs_survey_of_tells (h : (Candidate.survey inst device).Runs events candidate)
    (htells : ∀ e ∈ events, platform.Tells e) :
    candidate = platform.candidate device ∧
      Event.commands events = Command.queries inst device := by
  obtain ⟨reply, rest, rfl, hrest⟩ := runs_ask_iff.1 h
  have hreply : reply = platform.extensions device := htells _ List.mem_cons_self _ rfl
  cases reply with
  | ok names =>
    obtain ⟨features, _, rfl, hfamilies⟩ := runs_ask_iff.1 hrest
    obtain ⟨families, _, rfl, hend⟩ := runs_ask_iff.1 hfamilies
    obtain ⟨rfl, rfl⟩ := runs_pure_iff.1 hend
    have hfeatures : features = platform.features device := htells (.answered _ _) (by simp) _ rfl
    have hfamilies : families = platform.families device := htells (.answered _ _) (by simp) _ rfl
    exact ⟨by rw [Platform.candidate, ← hreply, hfeatures, hfamilies]; rfl, rfl⟩
  | error code =>
    obtain ⟨_, rfl, hfeatures⟩ := runs_log_iff.1 hrest
    obtain ⟨features, _, rfl, hfamilies⟩ := runs_ask_iff.1 hfeatures
    obtain ⟨families, _, rfl, hend⟩ := runs_ask_iff.1 hfamilies
    obtain ⟨rfl, rfl⟩ := runs_pure_iff.1 hend
    have hfeatures : features = platform.features device := htells (.answered _ _) (by simp) _ rfl
    have hfamilies : families = platform.families device := htells (.answered _ _) (by simp) _ rfl
    exact ⟨by rw [Platform.candidate, ← hreply, hfeatures, hfamilies]; rfl, rfl⟩

/-- A candidate is taken or logged, and nothing more is asked of the driver. -/
theorem choice?_of_suitableFamily? {family? : Option UInt32}
    (h : (candidate.suitableFamily? capabilities extensions).Runs events family?) :
    candidate.choice? capabilities extensions = family?.map (⟨candidate, ·⟩) ∧
      Event.commands events = [] := by
  unfold Candidate.suitableFamily? at h
  rw [Candidate.choice?]
  cases hassess : candidate.assess capabilities extensions with
  | ok family =>
    rw [hassess] at h
    obtain ⟨rfl, rfl⟩ := runs_pure_iff.1 h
    exact ⟨rfl, rfl⟩
  | error shortcoming =>
    rw [hassess] at h
    obtain ⟨_, rfl, hend⟩ := runs_log_iff.1 h
    obtain ⟨rfl, rfl⟩ := runs_pure_iff.1 hend
    exact ⟨rfl, rfl⟩

/-- A physical device that meets the requirements. -/
def Platform.Suits (platform : Platform) (capabilities : List Capability)
    (extensions : List String) (device : PhysicalDeviceHandle) : Prop :=
  (platform.candidate device).Qualifies capabilities extensions

/-- What a selection among physical devices ends with, and what is asked for it. -/
inductive Selected (platform : Platform) (inst : InstanceHandle) (capabilities : List Capability)
    (extensions : List String) (devices : List PhysicalDeviceHandle) :
    Except Error Choice → List Command → Prop where
  | found {i : Nat} {device : PhysicalDeviceHandle} {choice : Choice}
      (hfirst : FirstAt (platform.Suits capabilities extensions) devices i device)
      (hchoice : (platform.candidate device).choice? capabilities extensions = some choice) :
      Selected platform inst capabilities extensions devices (.ok choice)
        ((devices.take (i + 1)).flatMap (Command.queries inst))
  | exhausted (hnone : ∀ device ∈ devices, ¬ platform.Suits capabilities extensions device) :
      Selected platform inst capabilities extensions devices (.error .noSuitableDevice)
        (devices.flatMap (Command.queries inst))

/-- A device that does not meet the requirements is asked and passed over. -/
theorem Selected.cons {r : Except Error Choice} {asked : List Command}
    (hnot : ¬ platform.Suits capabilities extensions device)
    (h : Selected platform inst capabilities extensions devices r asked) :
    Selected platform inst capabilities extensions (device :: devices) r
      (Command.queries inst device ++ asked) := by
  cases h with
  | found hfirst hchoice => exact .found (hfirst.cons hnot) hchoice
  | exhausted hnone =>
    refine .exhausted fun d hd => ?_
    rcases List.mem_cons.1 hd with rfl | hd
    · exact hnot
    · exact hnone d hd

/-- The physical devices are surveyed in order, up to the first that meets the requirements. -/
theorem selected_of_select {r : Except Error Choice}
    (h : (Candidate.select (Candidate.survey inst) capabilities extensions devices).Runs events r)
    (htells : ∀ e ∈ events, platform.Tells e) :
    Selected platform inst capabilities extensions devices r (Event.commands events) := by
  induction devices generalizing events with
  | nil =>
    obtain ⟨rfl, rfl⟩ := runs_pure_iff.1 h
    exact .exhausted (by simp)
  | cons device devices ih =>
    obtain ⟨first, _, candidate, rfl, hfirst, hrest⟩ := runs_bind_iff.1 h
    obtain ⟨second, third, family?, rfl, hsecond, hthird⟩ := runs_bind_iff.1 hrest
    obtain ⟨rfl, hasked⟩ := runs_survey_of_tells hfirst fun e he => htells e (by simp [he])
    obtain ⟨hchoice, hquiet⟩ := choice?_of_suitableFamily? hsecond
    rw [Event.commands_append, Event.commands_append, hasked, hquiet]
    cases family? with
    | some family =>
      obtain ⟨rfl, rfl⟩ := runs_pure_iff.1 hthird
      have htaken : FirstAt (platform.Suits capabilities extensions) (device :: devices) 0 device :=
        .head (choice?_eq_some_iff.1 hchoice).1
      exact .found htaken hchoice
    | none =>
      have hlater := ih hthird fun e he => htells e (by simp [he])
      exact hlater.cons (choice?_eq_none_iff.1 hchoice)

/-- A choice lists the physical devices and selects one. -/
theorem selected_of_choose {r : Except Error Choice}
    (h : (Candidate.choose inst capabilities extensions).Runs events r)
    (htells : ∀ e ∈ events, platform.Tells e) :
    ∃ asked, Event.commands events = .physicalDevices inst :: asked ∧
      Selected platform inst capabilities extensions platform.devices r asked := by
  obtain ⟨answer, rest, rfl, hrest⟩ := runs_ask_iff.1 h
  obtain rfl : answer = .ok platform.devices := htells _ List.mem_cons_self _ rfl
  obtain ⟨later, rfl, hselect⟩ := runs_log_iff.1 hrest
  rcases runs_except_bind hselect with
    ⟨first, _, e, rfl, hfirst, hend⟩ | ⟨first, _, choice, rfl, hfirst, hlog⟩
  · obtain ⟨rfl, rfl⟩ := runs_pure_iff.1 hend
    exact ⟨Event.commands first, by simp [Event.commands],
      selected_of_select hfirst fun e he => htells e (by simp [he])⟩
  · obtain ⟨_, rfl, hend⟩ := runs_log_iff.1 hlog
    obtain ⟨rfl, rfl⟩ := runs_pure_iff.1 hend
    exact ⟨Event.commands first, by simp [Event.commands],
      selected_of_select hfirst fun e he => htells e (by simp [he])⟩

/-! ## The eager choice -/

/-- When every device is asked first, all of them become candidates. -/
theorem runs_mapM_survey {candidates : List Candidate}
    (h : (devices.mapM (Candidate.survey inst)).Runs events candidates)
    (htells : ∀ e ∈ events, platform.Tells e) : candidates = devices.map platform.candidate := by
  induction devices generalizing events candidates with
  | nil =>
    rw [List.mapM_nil] at h
    exact (runs_pure_iff.1 h).2
  | cons device devices ih =>
    rw [List.mapM_cons] at h
    obtain ⟨first, _, candidate, rfl, hfirst, hrest⟩ := runs_bind_iff.1 h
    obtain ⟨second, _, others, rfl, hsecond, hend⟩ := runs_bind_iff.1 hrest
    obtain ⟨rfl, rfl⟩ := runs_pure_iff.1 hend
    obtain ⟨rfl, -⟩ := runs_survey_of_tells hfirst fun e he => htells e (by simp [he])
    rw [ih hsecond fun e he => htells e (by simp [he]), List.map_cons]

/-- The first of all candidates that qualify is the one that a selection takes. -/
theorem Selected.eq_of_filter {r : Except Error Choice} {asked : List Command}
    (h : Selected platform inst capabilities extensions devices r asked) :
    r = match (devices.map platform.candidate).filterMap
        (Candidate.choice? capabilities extensions) with
      | [] => .error .noSuitableDevice
      | choice :: _ => .ok choice := by
  cases h with
  | exhausted hnone =>
    have hempty : (devices.map platform.candidate).filterMap
        (Candidate.choice? capabilities extensions) = [] := by
      simp only [List.filterMap_eq_nil_iff, List.mem_map]
      rintro _ ⟨device, hdevice, rfl⟩
      exact choice?_eq_none_iff.2 (hnone device hdevice)
    rw [hempty]
  | @found i device choice hfirst hchoice =>
    -- Nothing before the place of the first is left by the filter.
    induction devices generalizing i with
    | nil => simpa using hfirst.at_place
    | cons first devices ih =>
      cases i with
      | zero =>
        obtain rfl : first = device := by simpa using hfirst.at_place
        rw [List.map_cons, List.filterMap_cons_some hchoice]
      | succ i =>
        have hnot := hfirst.earlier 0 (Nat.succ_pos i) first rfl
        rw [List.map_cons, List.filterMap_cons_none (choice?_eq_none_iff.2 hnot)]
        refine ih ⟨by simpa using hfirst.at_place, hfirst.holds, ?_⟩
        intro j hj d hd
        exact hfirst.earlier (j + 1) (by omega) d (by simpa using hd)

theorem runs_chooseEagerly {r : Except Error Choice}
    (h : (Candidate.chooseEagerly inst capabilities extensions).Runs events r)
    (htells : ∀ e ∈ events, platform.Tells e) :
    r = match (platform.devices.map platform.candidate).filterMap
        (Candidate.choice? capabilities extensions) with
      | [] => .error .noSuitableDevice
      | choice :: _ => .ok choice := by
  obtain ⟨answer, rest, rfl, hrest⟩ := runs_ask_iff.1 h
  obtain rfl : answer = .ok platform.devices := htells _ List.mem_cons_self _ rfl
  obtain ⟨first, _, candidates, rfl, hfirst, hend⟩ := runs_bind_iff.1 hrest
  obtain rfl := runs_mapM_survey hfirst fun e he => htells e (by simp [he])
  cases hfilter : (platform.devices.map platform.candidate).filterMap
      (Candidate.choice? capabilities extensions) with
  | nil =>
    rw [hfilter] at hend
    exact (runs_pure_iff.1 hend).2
  | cons choice _ =>
    rw [hfilter] at hend
    exact (runs_pure_iff.1 hend).2

/-! ## The first match -/

/-- What is said of a choice among the physical devices of a platform. -/
structure FirstMatch (platform : Platform) (inst : InstanceHandle)
    (capabilities : List Capability) (extensions : List String) (events : List Event)
    (r : Except Error Choice) : Prop where
  /-- The choice is the first device that meets the requirements, and its first family for graphics
  or compute. -/
  chosen : ∀ choice, r = .ok choice ↔
    ∃ i device k flags, FirstAt (platform.Suits capabilities extensions) platform.devices i device ∧
      FirstAt (· &&& workFlags ≠ 0) (platform.families device) k flags ∧
      choice = ⟨platform.candidate device, k.toUInt32⟩
  /-- The number of the family is its place as long as there are numbers for all families. -/
  family_place : ∀ choice, r = .ok choice → choice.candidate.families.length ≤ UInt32.size →
    ∃ flags, FirstAt (· &&& workFlags ≠ 0) choice.candidate.families choice.family.toNat flags
  none_suits : r = .error .noSuitableDevice ↔
    ∀ device ∈ platform.devices, ¬ platform.Suits capabilities extensions device
  /-- The devices up to the first that meets the requirements are asked, and no other. -/
  asked : ∀ i device, FirstAt (platform.Suits capabilities extensions) platform.devices i device →
    Event.commands events = .physicalDevices inst ::
      (platform.devices.take (i + 1)).flatMap (Command.queries inst)
  asked_all : (∀ device ∈ platform.devices, ¬ platform.Suits capabilities extensions device) →
    Event.commands events = .physicalDevices inst ::
      platform.devices.flatMap (Command.queries inst)
  /-- To ask all devices first makes no difference to the choice. -/
  eager : ∀ events' r', (Candidate.chooseEagerly inst capabilities extensions).Runs events' r' →
    (∀ e ∈ events', platform.Tells e) → r' = r

/-- The first physical device that meets the requirements is chosen, with its first family for
graphics or compute, and no device after it is asked anything. -/
theorem first_match_chosen {r : Except Error Choice}
    (h : (Candidate.choose inst capabilities extensions).Runs events r)
    (htells : ∀ e ∈ events, platform.Tells e) :
    FirstMatch platform inst capabilities extensions events r := by
  obtain ⟨asked, hcommands, hselected⟩ := selected_of_choose h htells
  have heager : ∀ events' r',
      (Candidate.chooseEagerly inst capabilities extensions).Runs events' r' →
        (∀ e ∈ events', platform.Tells e) → r' = r := by
    intro events' r' hruns htells'
    rw [runs_chooseEagerly hruns htells', hselected.eq_of_filter]
  cases hselected with
  | @found i device choice hfirst hchoice =>
    obtain ⟨-, k, flags, hfamily, hmade⟩ := choice?_eq_some_iff.1 hchoice
    refine ⟨?_, ?_, ?_, ?_, ?_, heager⟩
    · intro other
      constructor
      · intro hother
        obtain rfl := Except.ok.inj hother
        exact ⟨i, device, k, flags, hfirst, hfamily, hmade⟩
      · rintro ⟨i', device', k', flags', hfirst', hfamily', rfl⟩
        obtain ⟨rfl, rfl⟩ := hfirst.unique hfirst'
        obtain ⟨rfl, -⟩ := hfamily.unique hfamily'
        rw [hmade]
    · intro other hother hlength
      obtain rfl := Except.ok.inj hother
      subst hmade
      have hk : k < (platform.families device).length :=
        (List.getElem?_eq_some_iff.1 hfamily.at_place).1
      have hplace : k.toUInt32.toNat = k := UInt32.toNat_ofNat_of_lt (hk.trans_le hlength)
      exact ⟨flags, by rw [hplace]; exact hfamily⟩
    · exact ⟨nofun, fun hnone => absurd hfirst.holds (hnone device hfirst.mem)⟩
    · intro i' device' hfirst'
      obtain ⟨rfl, rfl⟩ := hfirst.unique hfirst'
      exact hcommands
    · intro hnone
      exact absurd hfirst.holds (hnone device hfirst.mem)
  | exhausted hnone =>
    refine ⟨?_, ?_, ?_, ?_, ?_, heager⟩
    · intro choice
      refine ⟨nofun, ?_⟩
      rintro ⟨i, device, _, _, hfirst, -⟩
      exact absurd hfirst.holds (hnone device hfirst.mem)
    · intro choice hr
      cases hr
    · exact ⟨fun _ => hnone, fun _ => rfl⟩
    · intro i device hfirst
      exact absurd hfirst.holds (hnone device hfirst.mem)
    · intro _
      exact hcommands

end Selection

/-! ### Four devices -/

/-- Of four physical devices the first has a word that is neither zero nor one, and the extensions
of the second cannot be queried. -/
def fourDevices : Platform where
  devices := [⟨1⟩, ⟨2⟩, ⟨3⟩, ⟨4⟩]
  extensions device :=
    if device = ⟨2⟩ then .error .initializationFailed else .ok ["VK_KHR_swapchain"]
  features device := if device = ⟨1⟩ then ⟨fun _ => 2⟩ else .allOn
  families _ := [4, 3]

/-- The choice among the four devices. -/
def fourthUnasked : Except Error Choice × List Event × Nat :=
  (Candidate.choose ⟨7⟩ [.samplerAnisotropy] ["VK_KHR_swapchain"]).runWith
    ((Driver.numbering fun _ => false).override fourDevices.answer?) 1

theorem third_of_four_chosen :
    (∀ e ∈ fourthUnasked.2.1, fourDevices.Tells e) ∧
      FirstMatch fourDevices ⟨7⟩ [.samplerAnisotropy] ["VK_KHR_swapchain"] fourthUnasked.2.1
        fourthUnasked.1 ∧
      Event.commands fourthUnasked.2.1 = .physicalDevices ⟨7⟩ ::
        [⟨1⟩, ⟨2⟩, ⟨3⟩].flatMap (Command.queries ⟨7⟩) := by
  have htells : ∀ e ∈ fourthUnasked.2.1, fourDevices.Tells e := fourDevices.tells_of_runWith _ _ _
  have hruns : (Candidate.choose ⟨7⟩ [.samplerAnisotropy] ["VK_KHR_swapchain"]).Runs
      fourthUnasked.2.1 fourthUnasked.1 := runs_runWith ..
  exact ⟨htells, first_match_chosen hruns htells, rfl⟩

end VulkanExec
