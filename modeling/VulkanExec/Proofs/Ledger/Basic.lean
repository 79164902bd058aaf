import Mathlib.Data.Multiset.Filter
import Mathlib.Data.Multiset.UnionInter
import VulkanExec.Proofs.Monitor

/-!
# Ledgers of driver objects

A ledger has an entry for every object that was created and not yet released, with the objects
that it was created from. What is owed to a driver is said in terms of it: a command names live
objects only, an object is released once, and nothing that was created from it is live then.

## Main definitions

- `Object`, `Entry`: an object of the driver, and what it was created from;
- `Command.named`, `Command.created`, `Command.released`: the objects that a command is about;
- `Ledger`, `Ledger.after`: the live objects, and the devices that were seen with nothing to do;
- `Ledger.Allows`: what is owed at a command;
- `ledger`: the monitor, which relies on new handles being neither null nor live.

A caller may use handles that it brought along; what is owed spares them (`host`). The rules
`meets_quiet` and `meets_release` are about programs without creations and about single releases.
-/

namespace VulkanExec

/-- An object of the driver. Handles of different kinds may have the same value. -/
structure Object where
  kind : ObjectKind
  value : UInt64
  deriving DecidableEq, Repr

/-- The object that a handle names. -/
def Handle.object {kind : ObjectKind} (h : Handle kind) : Object := ⟨kind, h.value⟩

@[simp] theorem Handle.object_inj {kind : ObjectKind} {h h' : Handle kind} :
    h.object = h'.object ↔ h = h' := by
  obtain ⟨value⟩ := h
  obtain ⟨value'⟩ := h'
  simp [object]

theorem Handle.object_ne {kind kind' : ObjectKind} (h : Handle kind) (h' : Handle kind')
    (hne : kind ≠ kind') : h.object ≠ h'.object := fun heq => hne (congrArg Object.kind heq)

theorem Handle.isNull_eq_false {kind : ObjectKind} {h : Handle kind} (hne : h.object.value ≠ 0) :
    h.isNull = false := by
  simp only [isNull, decide_eq_false_iff_not]
  rintro rfl
  exact hne rfl

/-- An object, and the objects that were named when it was created. -/
structure Entry where
  object : Object
  parents : List Object
  deriving DecidableEq, Repr

namespace Command

/-- The objects that a command names. Physical devices and queues come and go with others. -/
def named : Command → List Object
  | resolve i _ => if i.isNull then [] else [i.object]
  | layers | layerExtensions _ | createInstance _ => []
  | wrapInstance i | destroyInstance i | createMessenger i _ | physicalDevices i | features i _
  | deviceExtensions i _ | queueFamilies i _ | properties i _ | memoryLayout i _
  | createDevice i _ _ => [i.object]
  | destroyMessenger i m => [i.object, m.object]
  | wrapDevice i d => [i.object, d.object]
  | destroyDevice d | waitIdle d | getQueue d _ _ | createPool d _ _ | createFence d _ =>
    [d.object]
  | destroyPool d p | allocateBuffer d p => [d.object, p.object]
  | freeBuffer d p b => [d.object, p.object, b.object]
  | beginBuffer d b _ | endBuffer d b | resetBuffer d b => [d.object, b.object]
  | destroyFence d f | resetFence d f | waitFence d f _ => [d.object, f.object]
  | submit d _ b f => [d.object, b.object, f.object]

/-- The object that an answer tells was created. -/
def created : (c : Command) → c.Answer → Option Object
  | createInstance _, .ok i => some i.object
  | createMessenger .., .ok m => some m.object
  | createDevice .., .ok d => some d.object
  | createPool .., .ok p => some p.object
  | allocateBuffer .., .ok b => some b.object
  | createFence .., .ok f => some f.object
  | _, _ => none

/-- The entry of the object that was created. -/
def made (c : Command) (answer : c.Answer) : Option Entry :=
  (c.created answer).map (⟨·, c.named⟩)

/-- The object that a command destroys or frees. -/
def released : Command → Option Object
  | destroyInstance i => some i.object
  | destroyMessenger _ m => some m.object
  | destroyDevice d => some d.object
  | destroyPool _ p => some p.object
  | freeBuffer _ _ b => some b.object
  | destroyFence _ f => some f.object
  | _ => none

/-- Whether a command leaves the objects as they are, whatever the answer to it. -/
def isQuiet : Command → Bool
  | createInstance _ | createMessenger .. | createDevice .. | createPool .. | allocateBuffer ..
  | createFence .. | destroyInstance _ | destroyMessenger .. | destroyDevice _ | destroyPool ..
  | freeBuffer .. | destroyFence .. => false
  | _ => true

/-- The device that an answer shows with nothing to do: it is new, or was waited for. -/
def idled : (c : Command) → c.Answer → Option DeviceHandle
  | createDevice .., .ok d => some d
  | waitIdle d, _ => some d
  | _, _ => none

theorem released_of_isQuiet {c : Command} (h : c.isQuiet) : c.released = none := by
  cases c <;> grind [isQuiet, released]

theorem made_of_isQuiet {c : Command} (h : c.isQuiet) (answer : c.Answer) :
    c.made answer = none := by
  cases c <;> grind [isQuiet, made, created]

/-- No command both creates and releases. -/
theorem released_of_made {c : Command} {answer : c.Answer} {entry : Entry}
    (h : c.made answer = some entry) : c.released = none := by
  cases c <;> grind [made, created, released]

end Command

/-- The entry of the object that was created at an event. -/
def Event.made : Event → Option Entry
  | answered c answer => c.made answer
  | noted _ => none

/-- The objects of some entries. -/
def objects (live : Multiset Entry) : Multiset Object := live.map Entry.object

section Objects

variable {live rest : Multiset Entry} {e : Entry} {o : Object}

@[simp, grind =] theorem objects_zero : objects 0 = 0 := rfl

@[simp, grind =] theorem objects_cons : objects (e ::ₘ live) = e.object ::ₘ objects live :=
  Multiset.map_cons ..

@[simp, grind =] theorem objects_add : objects (live + rest) = objects live + objects rest :=
  Multiset.map_add ..

theorem mem_objects : o ∈ objects live ↔ ∃ e ∈ live, e.object = o := Multiset.mem_map

theorem mem_objects_of_mem (h : e ∈ live) : e.object ∈ objects live := Multiset.mem_map_of_mem _ h

theorem mem_objects_cons_of_mem (h : o ∈ objects live) : o ∈ objects (e ::ₘ live) := by
  rw [objects_cons]
  exact Multiset.mem_cons_of_mem h

theorem objects_filter_ne :
    objects (live.filter (·.object ≠ o)) = (objects live).filter (· ≠ o) := by
  rw [objects, objects, Multiset.filter_map]
  rfl

/-- Taking away an object that is there once leaves the others. -/
theorem filter_ne_object (h : (objects (e ::ₘ live)).Nodup) :
    (e ::ₘ live).filter (·.object ≠ e.object) = live := by
  rw [objects_cons, Multiset.nodup_cons] at h
  rw [Multiset.filter_cons_of_neg _ (by simp), Multiset.filter_eq_self]
  intro x hx hxe
  exact h.1 (hxe ▸ mem_objects_of_mem hx)

theorem nodup_objects_cons (hnot : e.object ∉ objects live) (h : (objects live).Nodup) :
    (objects (e ::ₘ live)).Nodup := by
  rw [objects_cons]
  exact Multiset.nodup_cons.2 ⟨hnot, h⟩

theorem nodup_objects_right (h : (objects (live + rest)).Nodup) : (objects rest).Nodup := by
  rw [objects_add] at h
  exact (Multiset.nodup_add.1 h).2.1

theorem nodup_objects_tail (h : (objects (e ::ₘ live)).Nodup) : (objects live).Nodup := by
  rw [objects_cons] at h
  exact (Multiset.nodup_cons.1 h).2

end Objects

/-! ## Ledgers -/

/-- The live objects, and the devices that had nothing to do at some time since the beginning. -/
structure Ledger where
  live : Multiset Entry
  idle : List DeviceHandle

namespace Ledger

/-- A ledger that begins with some live objects. -/
def start (live : Multiset Entry) : Ledger := ⟨live, []⟩

/-- The ledger after an event. -/
def after (l : Ledger) : Event → Ledger
  | .noted _ => l
  | .answered c answer =>
    { live :=
        match c.made answer, c.released with
        | some entry, _ => entry ::ₘ l.live
        | none, some o => l.live.filter (·.object ≠ o)
        | none, none => l.live
      idle := (c.idled answer).toList ++ l.idle }

/-- A command makes an object, or releases one, or leaves the live objects as they are. -/
theorem after_cases (l : Ledger) (c : Command) (answer : c.Answer) :
    (∃ entry, c.made answer = some entry ∧ c.released = none ∧
      (l.after (.answered c answer)).live = entry ::ₘ l.live) ∨
    (∃ o, c.made answer = none ∧ c.released = some o ∧
      (l.after (.answered c answer)).live = l.live.filter (·.object ≠ o)) ∨
    (c.made answer = none ∧ c.released = none ∧ (l.after (.answered c answer)).live = l.live) := by
  cases hmade : c.made answer with
  | some entry => exact .inl ⟨entry, rfl, Command.released_of_made hmade, by simp [after, hmade]⟩
  | none =>
    cases hreleased : c.released with
    | some o => exact .inr (.inl ⟨o, rfl, rfl, by simp [after, hmade, hreleased]⟩)
    | none => exact .inr (.inr ⟨rfl, rfl, by simp [after, hmade, hreleased]⟩)

/-- What is owed at a command; objects that the caller brought along are spared. -/
structure Allows (host : Object → Prop) (l : Ledger) (c : Command) : Prop where
  /-- Only live objects are named. -/
  named : ∀ o ∈ c.named, o ∈ objects l.live ∨ host o
  /-- What is released is live, and was created from the other objects that are named. -/
  released : ∀ o, c.released = some o →
    ∃ e ∈ l.live, e.object = o ∧ ∀ p ∈ c.named, p = o ∨ p ∈ e.parents
  /-- Nothing that was created from a released object is live. -/
  childless : ∀ o, c.released = some o → ∀ e ∈ l.live, o ∈ e.parents → host o
  /-- A device is destroyed after it was seen with nothing to do. -/
  idle : ∀ d, c = .destroyDevice d → d ∈ l.idle

end Ledger

/-- The monitor of a ledger. A new object is relied on to have a handle that is neither null nor
that of a live one. -/
def ledger (host : Object → Prop) : Monitor Ledger where
  step := Ledger.after
  expects l e := ∀ entry, e.made = some entry →
    entry.object.value ≠ 0 ∧ entry.object ∉ objects l.live
  permits l
    | .answered c _ => l.Allows host c
    | .noted _ => True

section Ledger

variable {host : Object → Prop} {l : Ledger}

@[simp] theorem ledger_step (e : Event) : (ledger host).step l e = l.after e := rfl

/-- Everything that a live object was created from is live, or the caller brought it along. -/
def Closed (host : Object → Prop) (live : Multiset Entry) : Prop :=
  ∀ e ∈ live, ∀ o ∈ e.parents, o ∈ objects live ∨ host o

theorem closed_zero : Closed host 0 := fun e he => by simp at he

theorem Closed.add {live rest : Multiset Entry} (h : Closed host live) (h' : Closed host rest) :
    Closed host (live + rest) := by
  intro e he o ho
  rcases Multiset.mem_add.1 he with he | he
  · grind [h e he o ho]
  · grind [h' e he o ho]

theorem Closed.cons {e : Entry} {live : Multiset Entry} (h : Closed host live)
    (hparents : ∀ o ∈ e.parents, o ∈ objects live ∨ host o) : Closed host (e ::ₘ live) := by
  intro x hx o ho
  rcases Multiset.mem_cons.1 hx with rfl | hx
  · grind [hparents o ho]
  · grind [h x hx o ho]

/-! ## Single commands -/

/-- A command that leaves the objects as they are, and names live ones. -/
def Harmless (host : Object → Prop) (live : Multiset Entry) (c : Command) : Prop :=
  c.isQuiet ∧ ∀ o ∈ c.named, o ∈ objects live ∨ host o

/-- A command that releases nothing has to name live objects only. -/
theorem Ledger.allows_of_named {c : Command} (hreleased : c.released = none)
    (hnamed : ∀ o ∈ c.named, o ∈ objects l.live ∨ host o) : l.Allows host c where
  named := hnamed
  released o ho := by simp [hreleased] at ho
  childless o ho := by simp [hreleased] at ho
  idle d hd := by simp [hd, Command.released] at hreleased

theorem Ledger.live_after_of_isQuiet {c : Command} (h : c.isQuiet) (answer : c.Answer) :
    (l.after (.answered c answer)).live = l.live := by
  have hmade := Command.made_of_isQuiet h answer
  have hreleased := Command.released_of_isQuiet h
  grind [l.after_cases c answer]

/-- Harmless commands leave the live objects as they are. -/
theorem meets_quiet {α : Type} {p : Program α} (h : p.Only (Harmless host l.live)) :
    (ledger host).Meets p l fun _ t => t.live = l.live := by
  refine h.meets (I := fun t : Ledger => t.live = l.live) rfl ?_ ?_
  · intro t c answer ht hc
    constructor
    · exact Ledger.allows_of_named (Command.released_of_isQuiet hc.1) (ht ▸ hc.2)
    · exact (Ledger.live_after_of_isQuiet hc.1 answer).trans ht
  · intro t n ht
    exact ⟨trivial, ht⟩

/-- An object may be released when what else is live is closed without it. -/
theorem Ledger.allows_release {c : Command} {e : Entry} {rest : Multiset Entry}
    (hlive : l.live = e ::ₘ rest) (hnodup : (objects l.live).Nodup) (hrest : Closed host rest)
    (hparents : ∀ o ∈ e.parents, o ∈ objects rest ∨ host o)
    (hreleased : c.released = some e.object) (hnamed : ∀ o ∈ c.named, o = e.object ∨ o ∈ e.parents)
    (hidle : ∀ d, c = .destroyDevice d → d ∈ l.idle) : l.Allows host c := by
  rw [hlive, objects_cons, Multiset.nodup_cons] at hnodup
  constructor
  · intro o ho
    rcases hnamed o ho with heq | hparent
    · grind
    · grind [hparents o hparent]
  · intro o ho
    obtain rfl : e.object = o := by simpa [hreleased] using ho
    exact ⟨e, by simp [hlive], rfl, hnamed⟩
  · intro o ho x hx hparent
    obtain rfl : e.object = o := by simpa [hreleased] using ho
    rw [hlive, Multiset.mem_cons] at hx
    rcases hx with rfl | hx
    · exact (hparents _ hparent).resolve_left hnodup.1
    · exact (hrest x hx _ hparent).resolve_left hnodup.1
  · exact hidle

/-- The release of an object takes its entry out of the ledger. -/
theorem meets_release {β : Type} {c : Command} {f : c.Answer → Program β} {Q : β → Ledger → Prop}
    {e : Entry} {rest : Multiset Entry} (hlive : l.live = e ::ₘ rest)
    (hnodup : (objects l.live).Nodup) (hrest : Closed host rest)
    (hparents : ∀ o ∈ e.parents, o ∈ objects rest ∨ host o)
    (hreleased : c.released = some e.object) (hnamed : ∀ o ∈ c.named, o = e.object ∨ o ∈ e.parents)
    (hidle : ∀ d, c = .destroyDevice d → d ∈ l.idle)
    (h : ∀ answer t, t.live = rest → (ledger host).Meets (f answer) t Q) :
    (ledger host).Meets (.ask c >>= f) l Q := by
  apply Monitor.meets_ask
  intro answer _
  refine ⟨?_, h answer _ ?_⟩
  · exact Ledger.allows_release hlive hnodup hrest hparents hreleased hnamed hidle
  · have hafter : (l.after (.answered c answer)).live = l.live.filter (·.object ≠ e.object) := by
      rcases l.after_cases c answer with ⟨_, -, hnone, -⟩ | ⟨o, -, hsome, hafter⟩ | ⟨-, hnone, -⟩
      · simp [hreleased] at hnone
      · obtain rfl : e.object = o := by simpa [hreleased] using hsome
        exact hafter
      · simp [hreleased] at hnone
    rw [ledger_step, hafter, hlive, filter_ne_object (hlive ▸ hnodup)]

end Ledger

end VulkanExec
