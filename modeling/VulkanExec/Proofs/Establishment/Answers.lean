import Mathlib.Data.List.Nodup
import VulkanExec.Proofs.Establishment.Course

/-!
# What a driver answers to an establishment

The answers in a run, sorted by kind and each with its whole question: the instance, the device and
the request that it is about. Each stage of an establishment asks its own questions, so the answers
of a whole run are those of its stages side by side.

## Main definitions

- `Answers`: the questions to a driver with its answers, kind by kind;
- `Event.tells`, `Answers.of`: what an event and a list of events tell;
- `answer?`: the first answer of a kind, if it is to the given question;
- `Answers.candidates?`: what was told of the physical devices of an instance;
- `EntryTable.told`: what is told of the functions of a scope.

The main statement about entry points, `EntryTable.runs_resolveWith`, says that a resolution asks
for all of a scope and decides by what it is told.
-/

namespace VulkanExec

/-- The answers of a driver to the questions of an establishment, each kind in order. An answer is
kept with all that the question names. -/
structure Answers where
  functions : List ((InstanceHandle × String) × Option Address) := []
  layers : List (Reply (List String)) := []
  layerExtensions : List (Option String × Reply (List String)) := []
  instances : List (InstanceSpec × Reply InstanceHandle) := []
  messengers : List ((InstanceHandle × SinkId) × Reply MessengerHandle) := []
  physicalDevices : List (InstanceHandle × Reply (List PhysicalDeviceHandle)) := []
  deviceExtensions : List ((InstanceHandle × PhysicalDeviceHandle) × Reply (List String)) := []
  features : List ((InstanceHandle × PhysicalDeviceHandle) × Features) := []
  families : List ((InstanceHandle × PhysicalDeviceHandle) × List UInt32) := []
  devices : List ((InstanceHandle × PhysicalDeviceHandle × DeviceSpec) × Reply DeviceHandle) := []
  queues : List ((DeviceHandle × UInt32 × UInt32) × QueueHandle) := []

/-- What is told at an event. -/
def Event.tells : Event → Answers
  | answered (.resolve inst name) found => { functions := [((inst, name), found)] }
  | answered .layers reply => { layers := [reply] }
  | answered (.layerExtensions layer) reply => { layerExtensions := [(layer, reply)] }
  | answered (.createInstance request) reply => { instances := [(request, reply)] }
  | answered (.createMessenger inst sink) reply => { messengers := [((inst, sink), reply)] }
  | answered (.physicalDevices inst) reply => { physicalDevices := [(inst, reply)] }
  | answered (.deviceExtensions inst device) reply =>
    { deviceExtensions := [((inst, device), reply)] }
  | answered (.features inst device) features => { features := [((inst, device), features)] }
  | answered (.queueFamilies inst device) families => { families := [((inst, device), families)] }
  | answered (.createDevice inst device request) reply =>
    { devices := [((inst, device, request), reply)] }
  | answered (.getQueue device family index) queue =>
    { queues := [((device, family, index), queue)] }
  | _ => {}

@[simp] theorem Event.tells_noted (n : Note) : (Event.noted n).tells = {} := rfl

/-- The first of some answers, if it is to the given question. -/
def answer? {κ α : Type} [DecidableEq κ] (question : κ) : List (κ × α) → Option α
  | [] => none
  | (asked, answer) :: _ => if asked = question then some answer else none

@[simp]
theorem answer?_singleton {κ α : Type} [DecidableEq κ] (question : κ) (answer : α) :
    answer? question [(question, answer)] = some answer := if_pos rfl

namespace Answers

/-- Earlier and later answers. -/
protected def append (a b : Answers) : Answers where
  functions := a.functions ++ b.functions
  layers := a.layers ++ b.layers
  layerExtensions := a.layerExtensions ++ b.layerExtensions
  instances := a.instances ++ b.instances
  messengers := a.messengers ++ b.messengers
  physicalDevices := a.physicalDevices ++ b.physicalDevices
  deviceExtensions := a.deviceExtensions ++ b.deviceExtensions
  features := a.features ++ b.features
  families := a.families ++ b.families
  devices := a.devices ++ b.devices
  queues := a.queues ++ b.queues

instance : Append Answers := ⟨Answers.append⟩

theorem append_def (a b : Answers) : a ++ b =
    ⟨a.functions ++ b.functions, a.layers ++ b.layers, a.layerExtensions ++ b.layerExtensions,
      a.instances ++ b.instances, a.messengers ++ b.messengers,
      a.physicalDevices ++ b.physicalDevices, a.deviceExtensions ++ b.deviceExtensions,
      a.features ++ b.features, a.families ++ b.families, a.devices ++ b.devices,
      a.queues ++ b.queues⟩ := rfl

@[simp] theorem empty_append (a : Answers) : {} ++ a = a := by simp [append_def]

@[simp] theorem append_empty (a : Answers) : a ++ {} = a := by simp [append_def]

theorem append_assoc (a b c : Answers) : a ++ b ++ c = a ++ (b ++ c) := by simp [append_def]

/-- What is told at events. -/
def of (events : List Event) : Answers := events.foldr (fun e told => e.tells ++ told) {}

@[simp] theorem of_nil : of [] = {} := rfl

@[simp] theorem of_cons (e : Event) (events : List Event) :
    of (e :: events) = e.tells ++ of events := rfl

@[simp] theorem of_append (first second : List Event) :
    of (first ++ second) = of first ++ of second := by
  induction first with
  | nil => simp
  | cons e first ih => rw [List.cons_append, of_cons, of_cons, ih, append_assoc]

@[simp] theorem of_notes (notes : List Note) : of (notes.map .noted) = {} := by
  induction notes with
  | nil => rfl
  | cons n notes ih =>
    rw [List.map_cons, of_cons, ih]
    rfl

/-- What was told of the physical devices of an instance. The three answers about each of them have
to be about one and the same device of that instance; otherwise nothing is known. -/
def candidates? (a : Answers) (inst : InstanceHandle) : Option (List Candidate) :=
  (a.deviceExtensions.zip (a.features.zip a.families)).mapM
    fun ((about, reply), (about', features), (about'', families)) =>
      if about.1 = inst ∧ about' = about ∧ about'' = about then
        some ⟨about.2, features, reply.toOption.getD [], families⟩
      else none

end Answers

open Program

/-! ## Entry points -/

namespace EntryTable

variable {inst : InstanceHandle} {findings : Findings} {events : List Event}

/-- What is told of a function for each entry point. -/
def told (inst : InstanceHandle) (findings : Findings) :
    List ((InstanceHandle × String) × Option Address) :=
  findings.map fun f => ((inst, f.1.name), f.2)

theorem runs_search {entries : List EntryPoint}
    (h : (search (fun name => .ask (.resolve inst name)) entries).Runs events findings) :
    findings.map Prod.fst = entries ∧ Answers.of events = { functions := told inst findings } := by
  induction entries generalizing events findings with
  | nil =>
    obtain ⟨rfl, rfl⟩ := runs_pure_iff.1 h
    exact ⟨rfl, rfl⟩
  | cons entry entries ih =>
    obtain ⟨found, rest, rfl, hrest⟩ := runs_ask_iff.1 h
    obtain ⟨later, others, hlater, htold, rfl⟩ : ∃ later others,
        (search (fun name => .ask (.resolve inst name)) entries).Runs later others ∧
          Answers.of rest = Answers.of later ∧ findings = (entry, found) :: others := by
      dsimp only at hrest
      split at hrest
      · obtain ⟨_, rfl, hsearch⟩ := runs_log_iff.1 hrest
        obtain ⟨later, _, others, rfl, hlater, hend⟩ := runs_bind_iff.1 hsearch
        obtain ⟨rfl, rfl⟩ := runs_pure_iff.1 hend
        exact ⟨later, others, hlater, by simp [Event.tells], rfl⟩
      · obtain ⟨later, _, others, rfl, hlater, hend⟩ := runs_bind_iff.1 hrest
        obtain ⟨rfl, rfl⟩ := runs_pure_iff.1 hend
        exact ⟨later, others, hlater, by simp, rfl⟩
    obtain ⟨hentries, hothers⟩ := ih hlater
    refine ⟨congrArg (entry :: ·) hentries, ?_⟩
    rw [Answers.of_cons, htold, hothers]
    rfl

/-- A resolution tells about every entry point of its scope. -/
theorem runs_resolveWith {table : EntryTable} {scope : EntryScope} {r : Except Error EntryTable}
    (h : (table.resolveWith scope inst).Runs events r) :
    ∃ findings, findings.map Prod.fst = EntryPoint.ofScope scope ∧
      r = completed (table.record findings) ∧
      Answers.of events = { functions := told inst findings } := by
  obtain ⟨_, _, outcome, rfl, hresolve, hlast⟩ := runs_bind_iff.1 h
  obtain ⟨rfl, rfl⟩ := runs_pure_iff.1 hlast
  obtain ⟨first, _, findings, rfl, hfirst, hend⟩ := runs_bind_iff.1 hresolve
  obtain ⟨rfl, rfl⟩ := runs_pure_iff.1 hend
  obtain ⟨hentries, htold⟩ := runs_search hfirst
  exact ⟨findings, hentries, rfl, by rw [List.append_nil, List.append_nil, htold]⟩

/-! What was told of a function is what was found for its entry point. -/

theorem unresolved_eq (findings : Findings) : unresolved findings =
    (findings.filter fun f => f.1.required && f.2.isNone).map (·.1.name) := by
  unfold unresolved
  induction findings with
  | nil => rfl
  | cons f findings ih =>
    rw [List.filterMap_cons, List.filter_cons]
    cases hmissing : f.1.required && f.2.isNone with
    | false => simpa only [hmissing, Bool.false_eq_true, if_false] using ih
    | true => simpa only [hmissing, if_true, List.map_cons] using congrArg (f.1.name :: ·) ih

theorem map_fst_located (findings : Findings) :
    (located findings).map Prod.fst = (findings.filter (·.2.isSome)).map (·.1.name) := by
  induction findings with
  | nil => rfl
  | cons f findings ih =>
    obtain ⟨entry, found⟩ := f
    cases found with
    | none => simpa [located] using ih
    | some address => simpa [located] using ih

theorem lookup_told (hnodup : (findings.map (·.1.name)).Nodup) {f : EntryPoint × Option Address}
    (hf : f ∈ findings) : (told inst findings).lookup (inst, f.1.name) = some f.2 := by
  induction findings with
  | nil => simp at hf
  | cons first findings ih =>
    rw [List.map_cons, List.nodup_cons] at hnodup
    rcases List.mem_cons.1 hf with rfl | hf
    · simp [told]
    · have hne : f.1.name ≠ first.1.name := fun heq => hnodup.1 (heq ▸ List.mem_map_of_mem hf)
      have hkey : ((inst, f.1.name) == (inst, first.1.name)) = false := by simp [hne]
      rw [← ih hnodup.2 hf, told, List.map_cons, List.lookup_cons, hkey]
      rfl

theorem lookup_told_of_notMem {key : InstanceHandle} {name : String}
    (hname : name ∉ findings.map (·.1.name)) :
    (told inst findings).lookup (key, name) = none := by
  refine List.lookup_eq_none_iff.2 fun p hp => ?_
  obtain ⟨f, hf, rfl⟩ := List.mem_map.1 hp
  have hne : name ≠ f.1.name := fun heq => hname (heq ▸ List.mem_map_of_mem hf)
  simp [hne]

/-! ## Tables -/

variable {table full : EntryTable}

theorem names_eq {scope : EntryScope} (h : findings.map Prod.fst = EntryPoint.ofScope scope) :
    findings.map (·.1.name) = (EntryPoint.ofScope scope).map EntryPoint.name := by
  rw [← h, List.map_map]
  rfl

theorem nodup_names (scope : EntryScope) :
    ((EntryPoint.ofScope scope).map EntryPoint.name).Nodup := by
  cases scope <;> decide +kernel

/-- After a resolution a table has the names that it had and those that were found. -/
theorem contains_of_record (h : .ok full = completed (table.record findings)) (name : String) :
    full.contains name = true ↔
      table.contains name = true ∨ name ∈ (findings.filter (·.2.isSome)).map (·.1.name) := by
  rw [completed_record] at h
  split at h
  · obtain rfl := Except.ok.inj h
    rw [NameTable.contains_insertAll, map_fst_located]
  · cases h

/-- A name that was asked for is among those that were found as its entry point was. -/
theorem mem_found_iff (hnodup : (findings.map (·.1.name)).Nodup) {f : EntryPoint × Option Address}
    (hf : f ∈ findings) :
    f.1.name ∈ (findings.filter (·.2.isSome)).map (·.1.name) ↔ f.2.isSome = true := by
  constructor
  · intro hfound
    obtain ⟨g, hg, hname⟩ := List.mem_map.1 hfound
    obtain ⟨hg, hsome⟩ := List.mem_filter.1 hg
    rwa [← List.inj_on_of_nodup_map hnodup hg hf hname]
  · intro hsome
    exact List.mem_map_of_mem (List.mem_filter.2 ⟨hf, hsome⟩)

/-- A name that was asked for is in the table when it was found. -/
theorem contains_iff_found (h : .ok full = completed (table.record findings))
    (hnodup : (findings.map (·.1.name)).Nodup) {f : EntryPoint × Option Address} (hf : f ∈ findings)
    (hnew : table.contains f.1.name = false) : full.contains f.1.name = f.2.isSome := by
  rw [Bool.eq_iff_iff, contains_of_record h, hnew, mem_found_iff hnodup hf]
  simp

/-- No name is in both scopes. -/
theorem scopes_disjoint : ∀ name ∈ (EntryPoint.ofScope .perInstance).map EntryPoint.name,
    name ∉ (EntryPoint.ofScope .global).map EntryPoint.name := by
  decide +kernel

end EntryTable

end VulkanExec
