import VulkanExec.Proofs.WorkUnit.Representation

/-!
# Units apart

Units of one pool share the raw pool and the device, and nothing else. Their buffers and fences are
different, what one of them does names its own objects only, and nothing but its own operations
changes a unit. So whatever else a caller does, to other units, to pools or to contexts, a unit
behaves as if it were alone.

## Main definitions

- `WorkUnit.ownObjects`: the objects that a unit works with;
- `Command.OwnTo`: a command names nothing but what belongs to a unit, or what is lent to it;
- `Operation.action?`: what an operation does with the unit that it names;
- `Session.OwnPart`: the part of a run that is about one unit;
- `Session.UnitsApart`: what it means that the units of a session do not interfere.

The main statement is `Session.units_do_not_interfere`.
-/

namespace VulkanExec

open Program

/-- The queue that a command hands work to. -/
def Command.queue? : Command → Option QueueHandle
  | submit _ queue _ _ => some queue
  | _ => none

/-- The objects that a unit works with: its device, its buffer, its fence and its raw pool. -/
def WorkUnit.ownObjects (u : WorkUnit) : List Object :=
  u.device.handle.object :: u.buffer.object :: u.fence.object ::
    (u.pool.map (·.handle.object)).toList

/-- Every object that a command names belongs to a unit or is lent to it, and the queue is that of
the unit. -/
def Command.OwnTo (u : WorkUnit) (lent : List Object) (c : Command) : Prop :=
  (∀ o ∈ c.named, o ∈ u.ownObjects ∨ o ∈ lent) ∧ ∀ queue, c.queue? = some queue → queue = u.queue

/-- All commands among events name what belongs to a unit, what is lent to it, and what was created
by one of them before. -/
def OwnEvents (u : WorkUnit) : List Object → List Event → Prop
  | _, [] => True
  | lent, .noted _ :: events => OwnEvents u lent events
  | lent, .answered c answer :: events =>
    c.OwnTo u lent ∧ OwnEvents u (lent ++ (c.created answer).toList) events

section OwnEvents

variable {u v : WorkUnit} {lent more : List Object} {first events : List Event}

theorem OwnEvents.mono (h : OwnEvents v lent events) (hqueue : v.queue = u.queue)
    (hunit : ∀ o ∈ v.ownObjects, o ∈ u.ownObjects ∨ o ∈ more) (hlent : lent ⊆ more) :
    OwnEvents u more events := by
  induction events generalizing lent more with
  | nil => trivial
  | cons e events ih =>
    cases e with
    | noted n => exact ih h hunit hlent
    | answered c answer =>
      obtain ⟨⟨hnamed, hc⟩, hrest⟩ := h
      refine ⟨⟨fun o ho => ?_, fun queue hq => (hc queue hq).trans hqueue⟩, ih hrest ?_ ?_⟩
      · rcases hnamed o ho with hown | hm
        · exact hunit o hown
        · exact .inr (hlent hm)
      · intro o ho
        exact (hunit o ho).imp_right (List.mem_append_left _)
      · refine List.append_subset.2 ⟨?_, List.subset_append_right ..⟩
        exact List.Subset.trans hlent (List.subset_append_left ..)

theorem OwnEvents.append (h : OwnEvents u lent first)
    (hrest : OwnEvents u (lent ++ creations first) events) :
    OwnEvents u lent (first ++ events) := by
  induction first generalizing lent with
  | nil => simpa [creations] using hrest
  | cons e first ih =>
    cases e with
    | noted n => exact ih h hrest
    | answered c answer =>
      refine ⟨h.1, ih h.2 ?_⟩
      cases hcreated : c.created answer <;>
        simpa [creations, Event.created?, hcreated] using hrest

/-- A program that names nothing but what belongs to a unit does so in all of its runs. -/
theorem ownEvents_of_only {α : Type} {p : Program α} {a : α} (h : p.Only (Command.OwnTo u lent))
    (hruns : p.Runs events a) : OwnEvents u lent events := by
  induction hruns generalizing lent with
  | done => trivial
  | put _ ih =>
    refine ⟨h.1, (ih (h.2 _)).mono rfl (fun o ho => .inl ho) (List.subset_append_left ..)⟩
  | note _ ih => exact ih h

end OwnEvents

/-! ## What a unit asks for -/

namespace WorkUnit

variable {u v : WorkUnit} {events : List Event} {remaining : List Holder}

/-- After a turn a unit works with what it worked with before and what was created in the turn. -/
theorem Turn.ownObjects (h : Turn u events v) :
    ∀ o ∈ v.ownObjects, o ∈ u.ownObjects ∨ o ∈ creations events := by
  intro o ho
  cases h with
  | allocated =>
    simp only [WorkUnit.ownObjects, List.mem_cons] at ho
    rcases ho with rfl | rfl | rfl | ho
    · exact .inl (by simp [WorkUnit.ownObjects])
    · exact .inr (.head _)
    · exact .inr (.tail _ (.head _))
    · exact .inl (by simp [WorkUnit.ownObjects, ho])
  | _ => exact .inl ho

theorem Turn.ownEvents (h : Turn u events v) : OwnEvents u [] events := by
  cases h <;>
    simp_all [OwnEvents, Command.OwnTo, Command.named, Command.queue?, Command.created,
      WorkUnit.ownObjects]

theorem Turns.ownEvents (h : Turns u events v) : OwnEvents u [] events := by
  induction h with
  | nil => trivial
  | cons head _ ih =>
    exact head.ownEvents.append (ih.mono head.continues.queue head.ownObjects (List.nil_subset _))

/-- A retirement is about the unit and its raw pool. -/
theorem only_retireUnit_ownTo (hpool : ∀ raw, u.pool = some raw → raw.device = u.device)
    (lent : List Object) : (retireUnit remaining u).Only (Command.OwnTo u lent) := by
  have hown (c : Command) (hnamed : ∀ o ∈ c.named, o ∈ u.ownObjects) (hqueue : c.queue? = none) :
      c.OwnTo u lent := ⟨fun o ho => .inl (hnamed o ho), by simp [hqueue]⟩
  rw [retireUnit_eq]
  refine (only_settle_of_waitIdle fun _ => hown _ ?_ rfl).bind fun _ =>
    (only_dropFence_of_destroyFence (hown _ ?_ rfl)).bind fun _ =>
      (only_dropBuffer_of_freeBuffer fun raw hraw => hown _ ?_ rfl).bind fun _ =>
        (only_letGo_of_destroyPool fun raw hraw => hown _ ?_ rfl).bind fun _ => trivial
  · simp [Command.named, ownObjects]
  · simp [Command.named, ownObjects]
  · simp [Command.named, ownObjects, hraw]
  · simp [Command.named, ownObjects, hraw, hpool raw hraw]

end WorkUnit

/-- The instance and its messenger. -/
def Instance.ownObjects (i : Instance) : List Object :=
  i.handle.object :: (i.callback.map (·.messenger.object)).toList

/-- What is released with a device, apart from the device. -/
def Device.ownerObjects (d : Device) : List Object := (d.owner.map Instance.ownObjects).getD []

/-- A drop of a unit is about the unit, and about the instance of its device if no other holder of
the device remains. -/
theorem WorkUnit.only_drop_ownTo {u : WorkUnit} {remaining : List Holder}
    (hpool : ∀ raw, u.pool = some raw → raw.device = u.device) :
    ((Holder.unit u).drop remaining).Only (Command.OwnTo u u.device.ownerObjects) := by
  have hown (c : Command) (hnamed : ∀ o ∈ c.named, o ∈ u.ownObjects ∨ o ∈ u.device.ownerObjects)
      (hqueue : c.queue? = none) : c.OwnTo u u.device.ownerObjects := ⟨hnamed, by simp [hqueue]⟩
  have hinstance {i : Instance} (howner : u.device.owner = some i) :
      u.device.ownerObjects = i.ownObjects := by simp [Device.ownerObjects, howner]
  rw [Holder.drop_unit]
  refine (only_retireUnit_ownTo hpool _).bind fun _ =>
    only_releaseDevice_of_destroyDevice (hown _ ?_ rfl) (hown _ ?_ rfl) fun i howner =>
      only_instance_close (hown _ ?_ rfl) fun callback hcallback => hown _ ?_ rfl
  · simp [Command.named, ownObjects]
  · simp [Command.named, ownObjects]
  · simp [Command.named, hinstance howner, Instance.ownObjects]
  · simp [Command.named, hinstance howner, Instance.ownObjects, hcallback]

/-! ## Operations on units -/

namespace Operation

/-- What an operation does with the unit that it names, while other holders remain. -/
def action? (remaining : List Holder) : Operation → Option WorkUnit.Action
  | allocate _ => some .allocate
  | record _ => some .record
  | finish _ => some .finish
  | submit _ milliseconds => some (.submit milliseconds)
  | await _ milliseconds => some (.await milliseconds)
  | retire _ => some (.retire remaining)
  | _ => none

/-- Whether an operation works on a unit does not depend on who remains. -/
theorem action?_eq_none {operation : Operation} {remaining : List Holder}
    (h : operation.action? remaining = none) (others : List Holder) :
    operation.action? others = none := by
  cases operation <;> first | rfl | cases h

theorem action?_ne_none {operation : Operation} {work : WorkUnit → Program WorkUnit.Outcome}
    (h : operation.work? = some work) (remaining : List Holder) :
    operation.action? remaining ≠ none := by
  cases operation <;> cases h <;> exact Option.some_ne_none _

end Operation

/-- How an operation ends that has a result. -/
def Outcome.ofResult : Except Error Unit → Outcome
  | .ok () => .done
  | .error e => .failed e

/-! ## Two units -/

section Accounts

variable {host : Object → Prop} {n : Nat} {h x : Holder} {hs : List Holder} {live : Multiset Entry}
  {e e' : Entry}

/-- What two holders own alone is different. -/
theorem Accounts.object_ne (hacc : Accounts host n (h :: hs) live) (he : e ∈ h.entries)
    (hx : x ∈ hs) (he' : e' ∈ x.entries) : e.object ≠ e'.object := by
  have hnodup := hacc.nodup
  rw [hacc.live_cons, objects, Multiset.map_add, Multiset.nodup_add] at hnodup
  have hadds : e ∈ h.adds hs := Multiset.mem_add.2 (.inr he)
  have howned : e' ∈ owned hs := mem_owned.2 (.inr (.inr ⟨x, hx, he'⟩))
  intro heq
  exact Multiset.disjoint_left.1 hnodup.2.2 (Multiset.mem_map_of_mem _ hadds)
    (heq ▸ Multiset.mem_map_of_mem _ howned)

theorem WorkUnit.Sound.mem_entries {u : WorkUnit} (h : u.Sound) (halloc : u.isAllocated) :
    (∃ e ∈ u.entries, e.object = u.buffer.object) ∧ ∃ e ∈ u.entries, e.object = u.fence.object := by
  have hfence : u.fence.isNull = false := by simpa [halloc] using h.fence
  obtain ⟨raw, hraw⟩ := Option.ne_none_iff_exists'.1 (h.pool halloc)
  constructor
  · refine ⟨⟨u.buffer.object, [u.device.handle.object, raw.handle.object]⟩, ?_, rfl⟩
    simp [WorkUnit.entries, WorkUnit.bufferEntries, hraw, halloc]
  · refine ⟨⟨u.fence.object, [u.device.handle.object]⟩, ?_, rfl⟩
    simp [WorkUnit.entries, WorkUnit.fenceEntries, hfence]

end Accounts

namespace Session

open WorkUnit

variable {s s' : Session} {operation : Operation} {operations later : List Operation}
  {outcomes outcomes' : List Outcome} {events events' : List Event} {name other : String}
  {u v : WorkUnit} {r : Outcome × Session}

theorem units_apart {host : Object → Prop} {n : Nat} {live : Multiset Entry}
    (hacc : Accounts host n s.all live) (hu : s.get? name = some (.unit u))
    (hv : s.get? other = some (.unit v)) (hne : name ≠ other) (halloc : u.isAllocated)
    (halloc' : v.isAllocated) : u.buffer ≠ v.buffer ∧ u.fence ≠ v.fence := by
  have hperm := hacc.perm (all_perm hu)
  have hother : (s.erase name).get? other = some (.unit v) := by
    rw [get?_erase, if_neg hne.symm, hv]
  have hm := mem_all_of_get? hother
  have hsound := (hperm.coherent.sound _ List.mem_cons_self).unit u rfl
  have hsound' := (hperm.coherent.sound _ (List.mem_cons_of_mem _ hm)).unit v rfl
  obtain ⟨⟨e, he, hbuffer⟩, f, hf, hfence⟩ := hsound.mem_entries halloc
  obtain ⟨⟨e', he', hbuffer'⟩, f', hf', hfence'⟩ := hsound'.mem_entries halloc'
  have hbuffers := hperm.object_ne he hm he'
  have hfences := hperm.object_ne hf hm hf'
  rw [hbuffer, hbuffer'] at hbuffers
  rw [hfence, hfence'] at hfences
  exact ⟨fun heq => hbuffers (heq ▸ rfl), fun heq => hfences (heq ▸ rfl)⟩

/-! ## One operation -/

/-- What is asked for in an action of a unit is about the unit. -/
theorem Step.ownEvents (h : Step s operation events r)
    (hu : s.get? operation.target = some (.unit u)) {remaining : List Holder}
    {action : WorkUnit.Action} (haction : operation.action? remaining = some action)
    (hpool : ∀ raw, u.pool = some raw → raw.device = u.device) : OwnEvents u [] events := by
  cases h with
  | absent => trivial
  | failed failing => cases failing <;> cases haction
  | made making => cases making <;> cases haction
  | worked hwork hw working =>
    obtain rfl : u = _ := by simpa [hu] using hw
    exact (Operation.turns_of_work? hwork working).ownEvents
  | retired hw retiring =>
    obtain rfl : u = _ := by simpa [Operation.target, hw] using hu.symm
    exact ownEvents_of_only (only_retireUnit_ownTo hpool []) retiring
  | bound | released | closed | dropped => cases haction

/-- A drop of a unit goes on to the instance of its device, and no further. -/
theorem Step.ownEvents_drop (h : Step s (.drop name) events r)
    (hu : s.get? name = some (.unit u))
    (hpool : ∀ raw, u.pool = some raw → raw.device = u.device) :
    OwnEvents u u.device.ownerObjects events := by
  cases h with
  | absent => trivial
  | failed failing => cases failing
  | made making => cases making
  | worked hwork => cases hwork
  | dropped hget dropping =>
    obtain rfl : _ = Holder.unit u := by simpa [hget] using hu
    exact ownEvents_of_only (only_drop_ownTo hpool) dropping

/-- A unit that is made asks for what is its own; then the holder that was under its name is
dropped. -/
theorem Step.ownEvents_openUnit {context pool : String} {p : WorkPool} {c : Context}
    (h : Step s (.openUnit context pool name) events r) (hp : s.get? pool = some (.pool p))
    (hc : s.get? context = some (.context c)) :
    ∃ asked dropping, events = asked ++ dropping ∧ OwnEvents (ofPool p c.queue) [] asked ∧
      (dropping = [] ∨
        ∃ former, s.get? name = some former ∧ (former.drop r.2.all).Runs dropping ()) := by
  cases h with
  | absent => exact ⟨[], [], rfl, trivial, .inl rfl⟩
  | failed failing =>
    cases failing with
    | openUnit hp' hc' allocating =>
      obtain rfl : p = _ := by simpa [hp] using get?_of_pool? hp'
      obtain rfl : c = _ := by simpa [hc] using get?_of_context? hc'
      exact ⟨events, [], by simp, (turns_allocate allocating).ownEvents, .inl rfl⟩
  | made making replacing =>
    cases making with
    | openUnit hp' hc' allocating =>
      obtain rfl : p = _ := by simpa [hp] using get?_of_pool? hp'
      obtain rfl : c = _ := by simpa [hc] using get?_of_context? hc'
      refine ⟨_, _, rfl, (turns_allocate allocating).ownEvents, ?_⟩
      cases replacing with
      | vacant => exact .inl rfl
      | former hget dropping => exact .inr ⟨_, hget, by simpa using dropping⟩
  | worked hwork => cases hwork

/-- An operation that neither makes nor works on a unit leaves all units as they are. -/
theorem Step.unit_iff (h : Step s operation events r) (hmakes : operation.unitPool? = none)
    (htarget : ∀ u, s.get? operation.target ≠ some (.unit u)) :
    r.2.get? name = some (.unit u) ↔ s.get? name = some (.unit u) := by
  by_cases hname : name = operation.target
  · subst hname
    refine iff_of_false (fun hu => ?_) (htarget u)
    rcases h.unit_cases hu with hsame | ⟨v, hv, -⟩ | ⟨pool, p, queue, _, _, hpool, -⟩
    · exact htarget u hsame
    · exact htarget v hv
    · simp [hmakes] at hpool
  · rw [h.get?_of_ne hname]

/-- A unit on which no operation works, and that is not replaced, stays as it is. -/
theorem Step.unit_same (h : Step s operation events r) (hu : s.get? name = some (.unit u))
    (hother : operation.target = name → ∀ remaining, operation.action? remaining = none)
    (hkept : operation.replaces name → r.1 ≠ .done) : r.2.get? name = some (.unit u) := by
  by_cases hname : name = operation.target
  · subst hname
    cases h with
    | absent => exact hu
    | failed => simpa using hu
    | made making => cases making <;> simp [Operation.replaces, Operation.target] at hkept
    | @worked operation _ _ _ _ _ hwork =>
      exact absurd (hother rfl []) (Operation.action?_ne_none hwork [])
    | retired => simp [Operation.action?] at hother
    | bound hp | released hp => simp [Operation.target, hp] at hu
    | closed | dropped => simp [Operation.replaces, Operation.target] at hkept
  · exact (h.get?_of_ne hname).trans hu

theorem runs_onUnit {work : WorkUnit → Program WorkUnit.Outcome}
    (hu : s.get? name = some (.unit u)) (h : (s.onUnit name work).Runs events r) :
    ∃ result v, (work u).Runs events (result, v) ∧
      r = (.ofResult result, s.set name (.unit v)) := by
  have hunit : s.unit? name = some u := by rw [unit?, hu]
  rw [onUnit, hunit] at h
  obtain ⟨first, _, ⟨result, v⟩, rfl, hwork, hend⟩ := runs_bind_iff.1 h
  obtain ⟨rfl, rfl⟩ := runs_pure_iff.1 hend
  rw [List.append_nil]
  exact ⟨result, v, hwork, by cases result <;> rfl⟩

/-- An operation that works on a unit does one action of it, and puts it back. -/
theorem runs_action {action : WorkUnit.Action} (hu : s.get? operation.target = some (.unit u))
    (haction : operation.action? (s.erase operation.target).all = some action)
    (h : (s.perform operation).Runs events r) :
    ∃ result v, (u.perform action).Runs events (result, v) ∧
      r = (.ofResult result, s.set operation.target (.unit v)) := by
  cases operation <;> cases haction
  case retire name =>
    have hunit : s.unit? name = some u := by rw [unit?]; exact hu ▸ rfl
    have hretire : (s.retire name).Runs events r := h
    rw [Session.retire, hunit] at hretire
    obtain ⟨first, _, v, rfl, hretired, hend⟩ := runs_bind_iff.1 hretire
    obtain ⟨rfl, rfl⟩ := runs_pure_iff.1 hend
    exact ⟨.ok (), v, runs_bind_iff.2 ⟨first, [], v, rfl, hretired, .done _⟩, rfl⟩
  all_goals exact runs_onUnit hu h

/-! ## Many operations -/

/-- The part of a run that is about the unit under a name: what was done with the unit, what came
of it, and the events of these operations. What came before or between them is left out. -/
inductive OwnPart (name : String) : List Operation → List Outcome → List Event →
    List WorkUnit.Action → List (Except Error Unit) → List Event → Prop where
  | nil : OwnPart name [] [] [] [] [] []
  | other {operation : Operation} {operations : List Operation} {outcome : Outcome}
    {outcomes : List Outcome} {first events own : List Event} {actions : List WorkUnit.Action}
    {results : List (Except Error Unit)}
    (hother : operation.target = name → ∀ remaining, operation.action? remaining = none)
    (rest : OwnPart name operations outcomes events actions results own) :
    OwnPart name (operation :: operations) (outcome :: outcomes) (first ++ events) actions results
      own
  | own {operation : Operation} {operations : List Operation} {outcomes : List Outcome}
    {first events own : List Event} {action : WorkUnit.Action} {actions : List WorkUnit.Action}
    {result : Except Error Unit} {results : List (Except Error Unit)} {remaining : List Holder}
    (htarget : operation.target = name) (haction : operation.action? remaining = some action)
    (rest : OwnPart name operations outcomes events actions results own) :
    OwnPart name (operation :: operations) (.ofResult result :: outcomes) (first ++ events)
      (action :: actions) (result :: results) (first ++ own)

/-- Whatever else is done, a unit that is not replaced goes through a run of its own. -/
theorem run_alone (hrun : (s.run later).Runs events (outcomes, s'))
    (hu : s.get? name = some (.unit u))
    (hkept : ∀ x ∈ later.zip outcomes, x.1.replaces name → x.2 ≠ .done) :
    ∃ actions results own v, OwnPart name later outcomes events actions results own ∧
      (u.run actions).Runs own (results, v) ∧ s'.get? name = some (.unit v) := by
  induction later generalizing s events outcomes u with
  | nil =>
    obtain ⟨rfl, he⟩ := runs_pure_iff.1 hrun
    cases he
    exact ⟨[], [], [], u, .nil, .done _, hu⟩
  | cons operation later ih =>
    obtain ⟨first, second, r, rest, rfl, hperform, hrest, rfl⟩ := runs_perform_of_cons hrun
    simp only [List.zip_cons_cons, List.forall_mem_cons] at hkept
    by_cases hown : operation.target = name ∧
        operation.action? (s.erase operation.target).all ≠ none
    · obtain ⟨rfl, hsome⟩ := hown
      obtain ⟨action, haction⟩ := Option.ne_none_iff_exists'.1 hsome
      obtain ⟨result, w, hact, rfl⟩ := runs_action hu haction hperform
      have hw : (s.set operation.target (.unit w)).get? operation.target = some (.unit w) := by
        simp
      obtain ⟨actions, results, own, v, hpart, hruns, hv⟩ := ih hrest hw hkept.2
      refine ⟨action :: actions, result :: results, first ++ own, v, .own rfl haction hpart, ?_,
        hv⟩
      refine runs_bind_iff.2 ⟨first, own, (result, w), rfl, hact, ?_⟩
      exact runs_bind_iff.2 ⟨own, [], _, (List.append_nil own).symm, hruns, .done _⟩
    · have hother : operation.target = name → ∀ remaining, operation.action? remaining = none := by
        intro htarget remaining
        by_contra hsome
        exact hown ⟨htarget, fun hnone => hsome (Operation.action?_eq_none hnone remaining)⟩
      have hsame := (runs_perform hperform).unit_same hu hother hkept.1
      obtain ⟨actions, results, own, v, hpart, hruns, hv⟩ := ih hrest hsame hkept.2
      exact ⟨actions, results, own, v, .other hother hpart, hruns, hv⟩

/-! ## Units that do not interfere -/

/-- The units of a session do not interfere, whatever is done with them and with other holders. -/
structure UnitsApart (s : Session) : Prop where
  /-- Two allocated units have different buffers and different fences. -/
  distinct : ∀ name other u v, s.get? name = some (.unit u) → s.get? other = some (.unit v) →
    name ≠ other → u.isAllocated → v.isAllocated → u.buffer ≠ v.buffer ∧ u.fence ≠ v.fence
  /-- An operation leaves all holders under other names as they are. -/
  frame : ∀ operation events r, (s.perform operation).Runs events r →
    ∀ name, name ≠ operation.target → r.2.get? name = s.get? name
  /-- What a unit does, up to its retirement, is about what belongs to it. -/
  calls : ∀ operation remaining action u events r, operation.action? remaining = some action →
    s.get? operation.target = some (.unit u) → (s.perform operation).Runs events r →
      OwnEvents u [] events
  /-- So is its drop, which goes on to the instance of its device. -/
  dropped : ∀ name u events r, s.get? name = some (.unit u) →
    (s.perform (.drop name)).Runs events r → OwnEvents u u.device.ownerObjects events
  /-- So is the making of a unit. -/
  opened : ∀ context pool name c p events r, s.get? context = some (.context c) →
    s.get? pool = some (.pool p) → (s.perform (.openUnit context pool name)).Runs events r →
      ∃ asked dropping, events = asked ++ dropping ∧ OwnEvents (ofPool p c.queue) [] asked ∧
        (dropping = [] ∨
          ∃ former, s.get? name = some former ∧ (former.drop r.2.all).Runs dropping ())
  /-- What is done with other holders, with pools and contexts among them, leaves all units as they
  are. -/
  spared : ∀ operation events r, operation.unitPool? = none →
    (∀ u, s.get? operation.target ≠ some (.unit u)) → (s.perform operation).Runs events r →
      ∀ name u, r.2.get? name = some (.unit u) ↔ s.get? name = some (.unit u)
  /-- Whatever is done later, a unit that is not replaced goes through a run of its own. -/
  alone : ∀ later events outcomes s' name u, (s.run later).Runs events (outcomes, s') →
    s.get? name = some (.unit u) →
    (∀ x ∈ later.zip outcomes, x.1.replaces name → x.2 ≠ .done) →
      ∃ actions results own v, OwnPart name later outcomes events actions results own ∧
        (u.run actions).Runs own (results, v) ∧ s'.get? name = some (.unit v)

/-- After any operations, against a driver whose new handles are fresh, units do not interfere. -/
theorem units_do_not_interfere (hrun : (empty.run operations).Runs events (outcomes, s))
    (hfresh : Fresh events) : s.UnitsApart := by
  obtain ⟨-, hacc⟩ := run_permits hrun hfresh fun operation _ => hosted_by_all operation
  have hpool (name : String) (u : WorkUnit) (hu : s.get? name = some (.unit u)) :
      ∀ raw, u.pool = some raw → raw.device = u.device := by
    intro raw hraw
    have hdevice := (hacc.coherent.sound _ (mem_all_of_get? hu)).pool raw hraw
    exact (Option.some.inj hdevice).symm
  constructor
  case distinct => exact fun name other u v hu hv => units_apart hacc hu hv
  case frame => exact fun operation events r hruns name => (runs_perform hruns).get?_of_ne
  case calls =>
    intro operation remaining action u events r haction hu hruns
    exact (runs_perform hruns).ownEvents hu haction (hpool _ u hu)
  case dropped =>
    intro name u events r hu hruns
    exact (runs_perform hruns).ownEvents_drop hu (hpool name u hu)
  case opened =>
    intro context pool name c p events r hc hp hruns
    exact (runs_perform hruns).ownEvents_openUnit hp hc
  case spared =>
    intro operation events r hmakes htarget hruns name u
    exact (runs_perform hruns).unit_iff hmakes htarget
  case alone => exact fun later events outcomes s' name u hrun hu => run_alone hrun hu

/-! ### Two units of a pool -/

/-- Two units are made on a pool. -/
def pairOperations : List Operation :=
  [.establish { Config.default with validation := false } 0 "c", .openPool "c" "p",
    .openUnit "c" "p" "u", .openUnit "c" "p" "v"]

/-- One of them works while the other one, the pool and the context come and go. -/
def pairRounds : List Operation :=
  [.record "u", .bindPool "p" 7, .record "v", .closeContext "c", .finish "u", .drop "v",
    .releasePool "p", .submit "u" 10, .retire "u"]

theorem works_alone_beside_another : ∃ u v actions results own w,
    (empty.played pairOperations 1).1.2.get? "u" = some (.unit u) ∧
    (empty.played pairOperations 1).1.2.get? "v" = some (.unit v) ∧ u.buffer ≠ v.buffer ∧
    OwnPart "u" pairRounds ((empty.played pairOperations 1).1.2.played pairRounds 87).1.1
      ((empty.played pairOperations 1).1.2.played pairRounds 87).2.1 actions results own ∧
    (u.run actions).Runs own (results, w) := by
  have hlast : (empty.played pairOperations 1).2.2 ≤ UInt64.size := by decide +kernel
  have hfresh := (numbered_played empty pairOperations 1).fresh Nat.one_pos hlast
  have hthere : ((empty.played pairOperations 1).1.2.unit? "u").any isAllocated ∧
      ((empty.played pairOperations 1).1.2.unit? "v").any isAllocated := by
    decide +kernel
  have hkept : ∀ x ∈
      pairRounds.zip ((empty.played pairOperations 1).1.2.played pairRounds 87).1.1,
      x.1.replaces "u" → x.2 ≠ .done := by
    decide +kernel
  have hrun := runs_played empty pairOperations 1
  have hrounds := runs_played (empty.played pairOperations 1).1.2 pairRounds 87
  generalize empty.played pairOperations 1 = run at *
  generalize run.1.2.played pairRounds 87 = rounds at *
  obtain ⟨u, hu, halloc⟩ := Option.any_eq_true _ _ |>.1 hthere.1
  obtain ⟨v, hv, halloc'⟩ := Option.any_eq_true _ _ |>.1 hthere.2
  have hgetu := get?_of_unit? hu
  have hgetv := get?_of_unit? hv
  have hapart := units_do_not_interfere hrun hfresh
  obtain ⟨actions, results, own, w, hpart, halone, -⟩ :=
    hapart.alone _ _ _ _ "u" u hrounds hgetu hkept
  have hbuffers := (hapart.distinct "u" "v" u v hgetu hgetv (by decide) halloc halloc').1
  exact ⟨u, v, actions, results, own, w, hgetu, hgetv, hbuffers, hpart, halone⟩

end Session

end VulkanExec
