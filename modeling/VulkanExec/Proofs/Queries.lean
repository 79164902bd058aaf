import VulkanExec.Context
import VulkanExec.Proofs.Monitor

/-!
# Queries

What is found out on the way to a context is asked with commands that change nothing. A condition
on the commands of such a program comes down to one on a few queries.

The statements are one for each program: the resolution of entry points (`only_resolveWith`), what
validation needs (`only_checkSupport`), the choice of a physical device (`only_choose`), and what
a context says about its device (`only_around`).
-/

namespace VulkanExec

open Program

variable {P : Command → Prop}

theorem only_search {find : String → Program (Option Address)} (h : ∀ name, Only P (find name))
    (entries : List EntryPoint) : Only P (EntryTable.search find entries) := by
  induction entries with
  | nil => trivial
  | cons entry entries ih =>
    apply (h entry.name).bind
    intro found
    split
    · exact Only.bind only_log fun _ => ih.bind fun _ => trivial
    · exact ih.bind fun _ => trivial

theorem only_resolveWith {table : EntryTable} {scope : EntryScope} {inst : InstanceHandle}
    (h : ∀ name, P (.resolve inst name)) : Only P (table.resolveWith scope inst) := by
  have hsearch := only_search (fun name => only_ask.2 (h name)) (EntryPoint.ofScope scope)
  exact Only.bind (hsearch.bind fun _ => trivial) fun _ => trivial

theorem only_findDiagnosticExtension {extension : String}
    (h : ∀ layer, P (.layerExtensions layer)) (layers : List String) :
    Only P (findDiagnosticExtension extension layers) := by
  induction layers with
  | nil => trivial
  | cons layer layers ih =>
    apply Only.bind (only_ask.2 (h _))
    intro answer
    cases answer with
    | error code => trivial
    | ok available =>
      dsimp only
      split
      · trivial
      · exact ih

theorem only_checkSupport {config : Config} (hlayers : P .layers)
    (h : ∀ layer, P (.layerExtensions layer)) : Only P (Instance.checkSupport config) := by
  unfold Instance.checkSupport checkLayers checkDiagnosticExtension
  split
  · refine Only.bind (Only.bind (only_ask.2 hlayers) fun answer => ?_) fun checked => ?_
    · cases answer with
      | error code => trivial
      | ok available =>
        dsimp only
        split <;> trivial
    · cases checked with
      | error e => trivial
      | ok =>
        dsimp only
        split
        · trivial
        · exact only_findDiagnosticExtension h _
  · trivial

/-- An instance is asked for, equipped and, if that fails, released. -/
theorem only_instance_establish {config : Config} {table : EntryTable} {sink : SinkId}
    (hlayers : P .layers) (hextensions : ∀ layer, P (.layerExtensions layer))
    (hcreate : ∀ request, P (.createInstance request)) (hresolve : ∀ i name, P (.resolve i name))
    (hmessenger : ∀ i, P (.createMessenger i sink)) (hclose : ∀ i : Instance, Only P i.close) :
    Only P (Instance.establish config table sink) := by
  have hequip (i : Instance) : Only P (i.equip config table sink) := by
    apply (only_resolveWith (hresolve i.handle)).bind
    intro resolved
    cases resolved with
    | error e => trivial
    | ok full =>
      dsimp only
      split
      · refine Only.bind ?_ fun registered => by cases registered <;> trivial
        unfold Instance.registerSink
        split
        · trivial
        · refine ⟨hmessenger i.handle, fun answer => ?_⟩
          cases answer with
          | error code => trivial
          | ok messenger => cases i.callback <;> trivial
      · trivial
  apply (only_checkSupport hlayers hextensions).bind
  intro checked
  cases checked with
  | error e => trivial
  | ok =>
    refine Only.bind ?_ fun created => ?_
    · unfold Instance.create
      split
      · trivial
      · refine ⟨hcreate _, fun answer => ?_⟩
        cases answer <;> trivial
    · cases created with
      | error e => trivial
      | ok i =>
        apply (hequip i).bind
        intro equipped
        cases equipped with
        | error e => exact (hclose i).bind fun _ => trivial
        | ok => trivial

theorem only_survey {inst : InstanceHandle} {handle : PhysicalDeviceHandle}
    (hextensions : P (.deviceExtensions inst handle)) (hfeatures : P (.features inst handle))
    (hfamilies : P (.queueFamilies inst handle)) : Only P (Candidate.survey inst handle) := by
  apply Only.bind (only_ask.2 hextensions)
  intro answer
  cases answer with
  | error code => exact ⟨hfeatures, fun _ => ⟨hfamilies, fun _ => trivial⟩⟩
  | ok names => exact ⟨hfeatures, fun _ => ⟨hfamilies, fun _ => trivial⟩⟩

theorem only_select {α : Type} {survey : α → Program Candidate} (h : ∀ a, Only P (survey a))
    {capabilities : List Capability} {extensions : List String} (sources : List α) :
    Only P (Candidate.select survey capabilities extensions sources) := by
  induction sources with
  | nil => trivial
  | cons source sources ih =>
    refine (h source).bind fun candidate => Only.bind ?_ fun family => ?_
    · unfold Candidate.suitableFamily?
      split <;> trivial
    · cases family with
      | none => exact ih
      | some family => trivial

theorem only_choose {inst : InstanceHandle} {capabilities : List Capability}
    {extensions : List String} (hdevices : P (.physicalDevices inst))
    (hextensions : ∀ device, P (.deviceExtensions inst device))
    (hfeatures : ∀ device, P (.features inst device))
    (hfamilies : ∀ device, P (.queueFamilies inst device)) :
    Only P (Candidate.choose inst capabilities extensions) := by
  apply Only.bind (only_ask.2 hdevices)
  intro answer
  cases answer with
  | error code => trivial
  | ok handles =>
    refine Only.bind only_log fun _ => ?_
    have hsurvey : ∀ device, Only P (Candidate.survey inst device) :=
      fun device => only_survey (hextensions device) (hfeatures device) (hfamilies device)
    apply (only_select hsurvey handles).bind
    intro chosen
    cases chosen <;> trivial

theorem only_createDevice {inst : InstanceHandle} {physical : PhysicalDeviceHandle}
    {family : UInt32} {capabilities : List Capability} {extensions : List String}
    (hcreate : ∀ request, P (.createDevice inst physical request))
    (hqueue : ∀ device, P (.getQueue device family 0))
    (hdestroy : ∀ device, P (.destroyDevice device)) :
    Only P (createDevice inst physical family capabilities extensions) := by
  unfold createDevice
  split
  · trivial
  · refine ⟨hcreate _, fun answer => ?_⟩
    cases answer with
    | error code => trivial
    | ok device =>
      refine ⟨hqueue device, fun (queue : QueueHandle) => ?_⟩
      dsimp only [Program.bind]
      split
      · exact ⟨hdestroy device, fun _ => trivial⟩
      · trivial

/-- A physical device is chosen, and a logical device is created on it. -/
theorem only_negotiate {config : Config} {inst : InstanceHandle}
    (hchoose : Only P (Candidate.choose inst config.capabilities config.extensions))
    (hcreate : ∀ physical request, P (.createDevice inst physical request))
    (hqueue : ∀ device family, P (.getQueue device family 0))
    (hdestroy : ∀ device, P (.destroyDevice device)) : Only P (Context.negotiate config inst) := by
  apply hchoose.bind
  intro chosen
  cases chosen with
  | error e => trivial
  | ok choice =>
    apply (only_createDevice (hcreate _) (fun device => hqueue device _) hdestroy).bind
    intro created
    cases created <;> trivial

theorem only_around {config : Config} {entries : EntryTable} {device : Device}
    {inst : InstanceHandle} {physical : PhysicalDeviceHandle} {queue : QueueHandle}
    {family : UInt32} (hproperties : P (.properties inst physical))
    (hmemory : P (.memoryLayout inst physical)) :
    Only P (Context.around config entries device inst physical queue family) :=
  ⟨hproperties, fun _ => ⟨hmemory, fun _ => trivial⟩⟩

/-- A context is around the device that it is given. -/
theorem runs_around {config : Config} {entries : EntryTable} {device : Device}
    {inst : InstanceHandle} {physical : PhysicalDeviceHandle} {queue : QueueHandle}
    {family : UInt32} {events : List Event} {c : Context}
    (h : (Context.around config entries device inst physical queue family).Runs events c) :
    c.device = device := by
  obtain ⟨_, _, _, hrest⟩ := runs_ask_iff.1 h
  obtain ⟨_, _, _, hend⟩ := runs_ask_iff.1 hrest
  rw [(runs_pure_iff.1 hend).2]

/-- A context keeps the table and the instance that it is given. -/
theorem entries_of_around {config : Config} {entries : EntryTable} {device : Device}
    {inst : InstanceHandle} {physical : PhysicalDeviceHandle} {queue : QueueHandle}
    {family : UInt32} {events : List Event} {c : Context}
    (h : (Context.around config entries device inst physical queue family).Runs events c) :
    c.instanceHandle = inst ∧ c.entries = entries := by
  obtain ⟨_, _, _, hrest⟩ := runs_ask_iff.1 h
  obtain ⟨_, _, _, hend⟩ := runs_ask_iff.1 hrest
  rw [(runs_pure_iff.1 hend).2]
  exact ⟨rfl, rfl⟩

/-- An establishment is put together from an instance, a device and what they say about
themselves. -/
theorem only_establish {config : Config} {sink : SinkId} {stamp : Nat}
    (hglobal : ∀ name, P (.resolve .null name))
    (hinstance : ∀ table, Only P (Instance.establish config table sink))
    (hnegotiate : ∀ inst, Only P (Context.negotiate config inst))
    (hproperties : ∀ inst physical, P (.properties inst physical))
    (hmemory : ∀ inst physical, P (.memoryLayout inst physical))
    (hclose : ∀ i : Instance, Only P i.close) :
    Only P (Context.establish config sink stamp) := by
  apply (only_resolveWith hglobal).bind
  intro resolved
  cases resolved with
  | error e => trivial
  | ok table =>
    apply (hinstance table).bind
    intro established
    cases established with
    | error e => trivial
    | ok pair =>
      apply (hnegotiate pair.1.handle).bind
      intro negotiated
      cases negotiated with
      | error e => exact (hclose pair.1).bind fun _ => trivial
      | ok choice =>
        apply (only_around (hproperties _ _) (hmemory _ _)).bind
        intro _
        exact only_log.bind fun _ => trivial

/-- An adoption asks nothing but queries, and wraps the two handles. -/
theorem only_adopt {handles : HostHandles} {config : Config} {stamp : Nat}
    (hglobal : ∀ name, P (.resolve .null name)) (hresolve : ∀ name, P (.resolve handles.inst name))
    (hinst : P (.wrapInstance handles.inst)) (hdevice : P (.wrapDevice handles.inst handles.device))
    (hproperties : P (.properties handles.inst handles.physicalDevice))
    (hmemory : P (.memoryLayout handles.inst handles.physicalDevice)) :
    Only P (Context.adopt handles config stamp) := by
  refine Only.bind (Only.bind (only_resolveWith hglobal) fun resolved => ?_) fun resolved => ?_
  · cases resolved with
    | error e => trivial
    | ok table => exact only_resolveWith hresolve
  · cases resolved with
    | error e => trivial
    | ok entries =>
      dsimp only
      split
      · trivial
      · split
        · trivial
        · refine ⟨hinst, fun _ => ⟨hdevice, fun _ => ?_⟩⟩
          exact (only_around hproperties hmemory).bind fun _ => trivial

end VulkanExec
