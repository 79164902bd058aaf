import VulkanExec.Proofs.Establishment.Undoing
import VulkanExec.Proofs.Lifetime
import VulkanExec.Proofs.Steps

/-!
# The representation of a unit

The buffer and the fence of a unit come together and go together. As long as they are there they
are the same two, and the unit holds the pool that the buffer came from. Without them a unit is as
if it were new.

## Main definitions

- `WorkUnit.Formed`: what holds of a unit at any time, after some events;
- `WorkUnit.Continues`: what stays the same of a unit until it is retired;
- `freed`: the buffers and fences that events release.

The main statement, `Session.unit_representation`, is about the units of any session.
-/

namespace VulkanExec

open Program

/-- The buffers and fences that events release, in order. -/
def freed (events : List Event) : List Object :=
  (releases events).filter fun o => o.kind ∈ [ObjectKind.buffer, .fence]

/-- Whether a command frees a buffer or a fence. -/
def Command.frees : Command → Bool
  | freeBuffer .. | destroyFence .. => true
  | _ => false

/-- Nothing is created, and nothing but the device, the buffer and the fence of a unit is named. -/
def Event.Within (u : WorkUnit) : Event → Prop
  | answered c answer => c.created answer = none ∧
    ∀ o ∈ c.named, o ∈ [u.device.handle.object, u.buffer.object, u.fence.object]
  | noted _ => True

section Freed

variable {α : Type} {first second events : List Event}

@[simp] theorem freed_append : freed (first ++ second) = freed first ++ freed second := by
  simp [freed]

theorem Command.kind_of_released {c : Command} {o : Object} (hfrees : c.frees = false)
    (h : c.released = some o) : o.kind ∉ [ObjectKind.buffer, .fence] := by
  cases c <;> cases hfrees <;> cases h <;> simp [Handle.object]

theorem freed_of_only {p : Program α} {a : α} (h : p.Only fun c => c.frees = false)
    (hruns : p.Runs events a) : freed events = [] := by
  refine List.filter_eq_nil_iff.2 fun o ho => ?_
  obtain ⟨e, he, hreleased⟩ := List.mem_filterMap.1 ho
  cases e with
  | noted n => cases hreleased
  | answered c answer => simpa using Command.kind_of_released (h.of_mem hruns he) hreleased

theorem Fresh.creations_ne_zero (h : Fresh events) : ∀ o ∈ creations events, o.value ≠ 0 := by
  intro o ho
  obtain ⟨e, he, hcreated⟩ := List.mem_filterMap.1 ho
  obtain ⟨before, rest, hsplit⟩ := List.append_of_mem he
  cases e with
  | noted n => cases hcreated
  | answered c answer =>
    have hmade : c.made answer = some ⟨o, c.named⟩ := congrArg (Option.map _) hcreated
    exact (h before _ rest hsplit _ hmade).1

end Freed

namespace WorkUnit

variable {u v w : WorkUnit} {past events : List Event}

/-! ## What holds at any time -/

/-- A unit after some events. It has both a buffer and a fence or none of them; a buffer was
allocated from the pool that the unit holds, together with the fence. Without them the unit is as
it was made, and what is in flight is a finished recording. -/
structure Formed (past : List Event) (u : WorkUnit) : Prop where
  together : u.buffer.isNull = u.fence.isNull
  allocated : u.isAllocated → ∃ raw before after, u.pool = some raw ∧
    past = before ++ .answered (.allocateBuffer u.device.handle raw.handle) (.ok u.buffer) ::
      .answered (.createFence u.device.handle false) (.ok u.fence) :: after
  unallocated : u.isAllocated = false → u.state = .initial ∧ u.inFlight = false
  inFlight : u.inFlight → u.state = .executable

theorem formed_ofPool (p : WorkPool) (queue : QueueHandle) (past : List Event) :
    (ofPool p queue).Formed past where
  together := rfl
  allocated := nofun
  unallocated _ := ⟨rfl, rfl⟩
  inFlight := nofun

theorem formed_retired (u : WorkUnit) (past : List Event) : u.retired.Formed past where
  together := rfl
  allocated := nofun
  unallocated _ := ⟨rfl, rfl⟩
  inFlight := nofun

/-- An allocated unit stays formed when its recording moves on. -/
theorem Formed.moved (h : u.Formed past) (halloc : u.isAllocated) (events : List Event)
    {state : RecordingState} {inFlight : Bool} (hflight : inFlight → state = .executable) :
    { u with state, inFlight }.Formed (past ++ events) where
  together := h.together
  allocated _ := by
    obtain ⟨raw, before, after, hpool, rfl⟩ := h.allocated halloc
    exact ⟨raw, before, after ++ events, hpool, by simp⟩
  unallocated hnone := by
    change u.isAllocated = false at hnone
    simp [halloc] at hnone
  inFlight := hflight

/-- More events leave a unit formed. -/
theorem Formed.append (h : u.Formed past) (events : List Event) : u.Formed (past ++ events) := by
  cases halloc : u.isAllocated with
  | true => exact h.moved halloc events h.inFlight
  | false =>
    exact ⟨h.together, by simp [halloc], h.unallocated, h.inFlight⟩

/-- What is allocated without null handles is there together. -/
theorem formed_allocated {raw : RawPool} {buffer : BufferHandle} {fence : FenceHandle}
    (hpool : u.pool = some raw) (hbuffer : buffer.object.value ≠ 0)
    (hfence : fence.object.value ≠ 0) (past : List Event) :
    { u with buffer, fence, state := .initial, inFlight := false }.Formed
      (past ++ [Event.answered (.allocateBuffer u.device.handle raw.handle) (.ok buffer),
        Event.answered (.createFence u.device.handle false) (.ok fence)]) where
  together := by simp [Handle.isNull_eq_false hbuffer, Handle.isNull_eq_false hfence]
  allocated _ := ⟨raw, past, [], hpool, rfl⟩
  unallocated _ := ⟨rfl, rfl⟩
  inFlight := nofun

/-- A turn keeps a unit formed if no new handle is null. -/
theorem Formed.turn (h : u.Formed past) (hturn : Turn u events v)
    (hnew : ∀ o ∈ creations events, o.value ≠ 0) : v.Formed (past ++ events) := by
  cases hturn with
  | allocated hpool _ =>
    exact formed_allocated hpool (hnew _ (.head _)) (hnew _ (.tail _ (.head _))) past
  | begun halloc hstate =>
    refine h.moved halloc _ fun hflight => ?_
    rw [h.inFlight hflight] at hstate
    cases hstate
  | ended halloc _ => exact h.moved halloc _ fun _ => rfl
  | submitted halloc hstate _ => exact h.moved halloc _ fun _ => hstate
  | resetFailed halloc _ => exact h.moved halloc _ nofun
  | settled halloc _ => exact h.moved halloc _ nofun
  | allocationFailed | fenceFailed | beginFailed | endFailed | fenceResetFailed | submitFailed
  | waitFailed | timedOut => exact h.append _

theorem Formed.turns (h : u.Formed past) (hturns : Turns u events v)
    (hnew : ∀ o ∈ creations events, o.value ≠ 0) : v.Formed (past ++ events) := by
  induction hturns generalizing past with
  | nil u => simpa using h
  | cons head _ ih =>
    rw [creations_append] at hnew
    rw [← List.append_assoc]
    exact ih (h.turn head fun o ho => hnew o (List.mem_append_left _ ho))
      fun o ho => hnew o (List.mem_append_right _ ho)

/-! ## What stays the same -/

/-- The later unit has the device, the pool and the queue of the earlier one, and its buffer and
fence if there were any. -/
structure Continues (u v : WorkUnit) : Prop where
  device : v.device = u.device
  pool : v.pool = u.pool
  queue : v.queue = u.queue
  buffer : u.isAllocated → v.buffer = u.buffer
  fence : u.isAllocated → v.fence = u.fence

theorem Continues.refl (u : WorkUnit) : u.Continues u := ⟨rfl, rfl, rfl, fun _ => rfl, fun _ => rfl⟩

theorem Continues.isAllocated (h : u.Continues v) (halloc : u.isAllocated) : v.isAllocated := by
  rwa [WorkUnit.isAllocated, h.buffer halloc]

theorem Continues.trans (h : u.Continues v) (hnext : v.Continues w) : u.Continues w where
  device := hnext.device.trans h.device
  pool := hnext.pool.trans h.pool
  queue := hnext.queue.trans h.queue
  buffer halloc := (hnext.buffer (h.isAllocated halloc)).trans (h.buffer halloc)
  fence halloc := (hnext.fence (h.isAllocated halloc)).trans (h.fence halloc)

theorem Turn.continues (h : Turn u events v) : u.Continues v := by
  cases h with
  | allocated _ halloc => exact ⟨rfl, rfl, rfl, by simp [halloc], by simp [halloc]⟩
  | _ => exact ⟨rfl, rfl, rfl, fun _ => rfl, fun _ => rfl⟩

theorem Turns.continues (h : Turns u events v) : u.Continues v := by
  induction h with
  | nil u => exact .refl u
  | cons head _ ih => exact head.continues.trans ih

theorem Continues.within (h : u.Continues v) (halloc : u.isAllocated) {e : Event}
    (hwithin : e.Within v) : e.Within u := by
  unfold Event.Within at hwithin ⊢
  rwa [h.device, h.buffer halloc, h.fence halloc] at hwithin

theorem Turn.within (h : Turn u events v) (halloc : u.isAllocated) : ∀ e ∈ events, e.Within u := by
  cases h with
  | allocationFailed _ hnone | fenceFailed _ hnone | allocated _ hnone => simp [halloc] at hnone
  | _ => simp [Event.Within, Command.created, Command.named]

/-- Whatever an allocated unit goes through is about its own buffer and fence. -/
theorem Turns.within (h : Turns u events v) (halloc : u.isAllocated) :
    ∀ e ∈ events, e.Within u := by
  induction h with
  | nil u => simp
  | cons head _ ih =>
    intro e he
    rcases List.mem_append.1 he with he | he
    · exact head.within halloc e he
    · exact head.continues.within halloc (ih (head.continues.isAllocated halloc) e he)

/-! ## What goes together -/

theorem freed_dropFence (h : u.dropFence.Runs events ()) :
    freed events = if u.fence.isNull then [] else [u.fence.object] := by
  unfold dropFence at h
  split at h
  · next hnull =>
    obtain ⟨rfl, -⟩ := runs_pure_iff.1 h
    rw [if_pos hnull]
    rfl
  · next hthere =>
    obtain ⟨_, _, rfl, hend⟩ := runs_ask_iff.1 h
    obtain ⟨rfl, -⟩ := runs_pure_iff.1 hend
    rw [if_neg hthere]
    rfl

theorem freed_dropBuffer (hpool : u.isAllocated → u.pool.isSome)
    (h : u.dropBuffer.Runs events ()) :
    freed events = if u.isAllocated then [u.buffer.object] else [] := by
  unfold dropBuffer at h
  split at h
  · next hnone =>
    obtain ⟨rfl, -⟩ := runs_pure_iff.1 h
    have hfree : ¬u.isAllocated := fun halloc => by simpa [hnone] using hpool halloc
    rw [if_neg hfree]
    rfl
  · split at h
    · next halloc =>
      obtain ⟨_, _, rfl, hend⟩ := runs_ask_iff.1 h
      obtain ⟨rfl, -⟩ := runs_pure_iff.1 hend
      rw [if_pos halloc]
      rfl
    · next halloc =>
      obtain ⟨rfl, -⟩ := runs_pure_iff.1 h
      rw [if_neg halloc]
      rfl

theorem freed_settle (h : u.settle.Runs events ()) : freed events = [] :=
  freed_of_only (only_settle_of_waitIdle fun _ => rfl) h

theorem freed_letGo {remaining : List Holder} {pool : Option RawPool}
    (h : (letGo remaining pool).Runs events ()) : freed events = [] :=
  freed_of_only (only_letGo_of_destroyPool fun _ _ => rfl) h

theorem freed_releaseDevice {remaining : List Holder} {d : Device}
    (h : (releaseDevice remaining d).Runs events ()) : freed events = [] := by
  refine freed_of_only (only_releaseDevice_of_destroyDevice rfl rfl ?_) h
  exact fun _ _ => only_instance_close rfl fun _ _ => rfl

/-- A retirement frees the fence and the buffer, or nothing if they are not there. -/
theorem Formed.freed_retireUnit (h : u.Formed past) {remaining : List Holder}
    (hretire : (retireUnit remaining u).Runs events v) :
    freed events = if u.isAllocated then [u.fence.object, u.buffer.object] else [] := by
  have hpool (halloc : u.isAllocated) : u.pool.isSome := by
    obtain ⟨raw, _, _, hraw, -⟩ := h.allocated halloc
    simp [hraw]
  have hthere : u.isAllocated = !u.fence.isNull := by rw [isAllocated, h.together]
  rw [retireUnit_eq] at hretire
  obtain ⟨_, _, _, rfl, hsettle, hrest⟩ := runs_bind_iff.1 hretire
  obtain ⟨_, _, _, rfl, hfence, hrest⟩ := runs_bind_iff.1 hrest
  obtain ⟨_, _, _, rfl, hbuffer, hrest⟩ := runs_bind_iff.1 hrest
  obtain ⟨_, _, _, rfl, hletGo, hend⟩ := runs_bind_iff.1 hrest
  obtain ⟨rfl, -⟩ := runs_pure_iff.1 hend
  simp only [freed_append, freed_settle hsettle, freed_dropFence hfence,
    freed_dropBuffer hpool hbuffer, freed_letGo hletGo, hthere]
  cases u.fence.isNull <;> rfl

/-- So does the drop of a unit: no buffer and no fence goes with the device. -/
theorem Formed.freed_drop (h : u.Formed past) {remaining : List Holder}
    (hdrop : ((Holder.unit u).drop remaining).Runs events ()) :
    freed events = if u.isAllocated then [u.fence.object, u.buffer.object] else [] := by
  rw [Holder.drop_unit] at hdrop
  obtain ⟨_, _, _, rfl, hretire, hrelease⟩ := runs_bind_iff.1 hdrop
  rw [freed_append, freed_releaseDevice hrelease, List.append_nil, h.freed_retireUnit hretire]

end WorkUnit

/-! ## Units of a session -/

namespace Operation

/-- The name of the pool on which an operation makes a unit. -/
def unitPool? : Operation → Option String
  | openUnit _ pool _ | newUnit pool _ _ => some pool
  | _ => none

end Operation

namespace Session

open WorkUnit

variable {s s' : Session} {operation : Operation} {operations later : List Operation}
  {outcomes outcomes' : List Outcome} {past events events' : List Event} {name : String}
  {u v : WorkUnit} {r : Outcome × Session}

/-- A unit after a step was there before, or it has worked, or it is retired, or it was made on a
pool that was there. -/
theorem Step.unit_cases (h : Step s operation events r) (hv : r.2.get? name = some (.unit v)) :
    s.get? name = some (.unit v) ∨
    (∃ u, s.get? name = some (.unit u) ∧ (u.Turns events v ∨ v = u.retired)) ∨
    ∃ pool p queue first second, operation.unitPool? = some pool ∧ s.get? pool = some (.pool p) ∧
      (ofPool p queue).Turns first v ∧ events = first ++ second := by
  by_cases hname : name = operation.target
  · subst hname
    cases h with
    | absent | failed => exact .inl (by simpa using hv)
    | made making _ =>
      cases making with
      | openUnit hp _ allocating =>
        obtain rfl : _ = v := by simpa [Operation.target] using hv
        exact .inr (.inr ⟨_, _, _, _, _, rfl, get?_of_pool? hp, turns_allocate allocating, rfl⟩)
      | newUnit hp =>
        obtain rfl : _ = v := by simpa [Operation.target] using hv
        exact .inr (.inr ⟨_, _, _, _, _, rfl, get?_of_pool? hp, .nil _, rfl⟩)
      | _ => simp [Operation.target] at hv
    | worked hwork hu working =>
      rw [update_snd] at hv
      obtain rfl : _ = v := by simpa using hv
      exact .inr (.inl ⟨_, hu, .inl (Operation.turns_of_work? hwork working)⟩)
    | retired hu _ =>
      obtain rfl : _ = v := by simpa [Operation.target] using hv
      exact .inr (.inl ⟨_, hu, .inr rfl⟩)
    | bound | released | closed | dropped => simp [update_snd, Operation.target] at hv
  · exact .inl (h.get?_of_ne hname ▸ hv)

/-- A unit that is not replaced is there after a step, as it was but for its work, or retired. -/
theorem Step.unit_next (h : Step s operation events r) (hu : s.get? name = some (.unit u))
    (hkept : operation.replaces name → r.1 ≠ .done) :
    ∃ v, r.2.get? name = some (.unit v) ∧
      (u.Continues v ∨ operation = .retire name ∧ v = u.retired) := by
  by_cases hname : name = operation.target
  · subst hname
    cases h with
    | absent | failed => exact ⟨u, by simpa using hu, .inl (.refl u)⟩
    | made making _ => cases making <;> simp [Operation.replaces, Operation.target] at hkept
    | worked hwork hw working =>
      obtain rfl : u = _ := by simpa [hu] using hw
      refine ⟨_, ?_, .inl (Operation.turns_of_work? hwork working).continues⟩
      rw [update_snd]
      simp
    | retired hw _ =>
      obtain rfl : u = _ := by simpa [Operation.target, hw] using hu.symm
      exact ⟨_, by simp [Operation.target], .inr ⟨rfl, rfl⟩⟩
    | bound hp | released hp => simp [Operation.target, hp] at hu
    | closed | dropped => simp [Operation.replaces, Operation.target] at hkept
  · exact ⟨u, (h.get?_of_ne hname).trans hu, .inl (.refl u)⟩

/-- A new unit is on the device of its pool and holds the raw pool that is behind it then. -/
theorem Step.unit_of_done (h : Step s operation events r) {pool : String} {p : WorkPool}
    (hpool : operation.unitPool? = some pool) (hp : s.get? pool = some (.pool p))
    (hdone : r.1 = .done) :
    ∃ u, r.2.get? operation.target = some (.unit u) ∧ u.device = p.device ∧ u.pool = p.raw := by
  cases h with
  | absent | failed => cases hdone
  | made making _ =>
    cases making with
    | openUnit hq _ allocating =>
      cases hpool
      obtain rfl : p = _ := by simpa [hp] using get?_of_pool? hq
      have hsame := (turns_allocate allocating).continues
      exact ⟨_, by simp [Operation.target], hsame.device, hsame.pool⟩
    | @newUnit _ _ queue _ hq =>
      cases hpool
      obtain rfl : p = _ := by simpa [hp] using get?_of_pool? hq
      exact ⟨.ofPool p queue, by simp [Operation.target], rfl, rfl⟩
    | _ => cases hpool
  | @worked operation => cases operation <;> simp_all [Operation.work?, Operation.unitPool?]
  | retired | bound | released | closed | dropped => cases hpool

/-- Every unit of a session is formed if no new handle was null. -/
theorem formed_of_run (hrun : (empty.run operations).Runs events (outcomes, s))
    (hnew : ∀ o ∈ creations events, o.value ≠ 0) :
    ∀ name u, s.get? name = some (.unit u) → u.Formed events := by
  refine run_induction (I := fun _ past s => ∀ name u, s.get? name = some (.unit u) → u.Formed past)
    hrun nofun ?_
  intro done operation past before s first r _ hsub _ hstep ih name v hv
  obtain ⟨rest, rfl⟩ := hsub
  simp only [creations_append, List.mem_append] at hnew
  have hfirst : ∀ o ∈ creations first, o.value ≠ 0 := fun o ho => hnew o (.inl (.inr ho))
  rcases hstep.unit_cases hv with hu | ⟨u, hu, hturns | rfl⟩ |
    ⟨pool, p, queue, allocating, replacing, -, -, hturns, rfl⟩
  · exact (ih name v hu).append first
  · exact (ih name u hu).turns hturns hfirst
  · exact formed_retired u _
  · rw [creations_append] at hfirst
    rw [← List.append_assoc]
    have hformed := (formed_ofPool p queue past).turns hturns
      fun o ho => hfirst o (List.mem_append_left _ ho)
    exact hformed.append replacing

/-- A unit that no later operation replaces stays on its device. It lets go of its pool at most once
and for good, and until it is retired it continues. -/
theorem unit_kept (hrun : (s.run later).Runs events (outcomes, s'))
    (hu : s.get? name = some (.unit u))
    (hkept : ∀ x ∈ later.zip outcomes, x.1.replaces name → x.2 ≠ .done) :
    ∃ v, s'.get? name = some (.unit v) ∧ v.device = u.device ∧
      (v.pool = u.pool ∨ v.pool = none) ∧ (.retire name ∉ later → u.Continues v) := by
  induction later generalizing s events outcomes u with
  | nil =>
    obtain ⟨-, he⟩ := runs_pure_iff.1 hrun
    cases he
    exact ⟨u, hu, rfl, .inl rfl, fun _ => .refl u⟩
  | cons operation later ih =>
    obtain ⟨first, second, r, rest, rfl, hstep, hrest, rfl⟩ := runs_run_cons hrun
    simp only [List.zip_cons_cons, List.forall_mem_cons] at hkept
    obtain ⟨v, hv, hnext⟩ := hstep.unit_next hu hkept.1
    obtain ⟨w, hw, hdevice, hpool, hcontinues⟩ := ih hrest hv hkept.2
    rcases hnext with hcontinued | ⟨rfl, rfl⟩
    · rw [hcontinued.device] at hdevice
      rw [hcontinued.pool] at hpool
      refine ⟨w, hw, hdevice, hpool, fun hactive => hcontinued.trans (hcontinues ?_)⟩
      exact fun hm => hactive (List.mem_cons_of_mem _ hm)
    · exact ⟨w, hw, hdevice, .inr (by simpa [WorkUnit.retired] using hpool), by simp⟩

/-- The representation of a unit, for drivers without null handles. At any time a unit is formed. It
was made on a pool and took what was behind it; whenever it has a buffer later on, it still holds
that, and until it is retired the buffer and the fence stay the same, and its work is about no
others. A retirement or a drop frees both. -/
theorem unit_representation (hrun : (empty.run operations).Runs events (outcomes, s))
    (hlater : (s.run later).Runs events' (outcomes', s'))
    (hnew : ∀ o ∈ creations (events ++ events'), o.value ≠ 0) :
    (∀ name u, s.get? name = some (.unit u) →
      u.Formed events ∧
      ((∀ x ∈ later.zip outcomes', x.1.replaces name → x.2 ≠ .done) →
        ∃ v, s'.get? name = some (.unit v) ∧ v.device = u.device ∧
          (v.isAllocated → v.pool = u.pool) ∧ (.retire name ∉ later → u.Continues v)) ∧
      (u.isAllocated → ∀ (operation : Operation) work, operation.work? = some work →
        ∀ first r, (work u).Runs first r → ∀ e ∈ first, e.Within u) ∧
      ∀ remaining first, (retireUnit remaining u).Runs first u.retired ∨
          ((Holder.unit u).drop remaining).Runs first () →
        freed first = if u.isAllocated then [u.fence.object, u.buffer.object] else []) ∧
    ∀ (operation : Operation) pool p first r, operation.unitPool? = some pool →
      s.get? pool = some (.pool p) → (s.perform operation).Runs first r → r.1 = .done →
      ∃ u, r.2.get? operation.target = some (.unit u) ∧ u.device = p.device ∧ u.pool = p.raw := by
  constructor
  · intro name u hu
    have hall : (empty.run (operations ++ later)).Runs (events ++ events')
        (outcomes ++ outcomes', s') :=
      runs_run_append_iff.2 ⟨events, events', s, outcomes, outcomes', rfl, rfl, hrun, hlater⟩
    have hformed := formed_of_run hall hnew
    have hu' : u.Formed events := by
      rw [creations_append] at hnew
      exact formed_of_run hrun (fun o ho => hnew o (List.mem_append_left _ ho)) name u hu
    refine ⟨hu', ?_, ?_, ?_⟩
    · intro hkept
      obtain ⟨v, hv, hdevice, hpool, hcontinues⟩ := unit_kept hlater hu hkept
      refine ⟨v, hv, hdevice, fun halloc => hpool.resolve_right ?_, hcontinues⟩
      obtain ⟨raw, _, _, hraw, -⟩ := (hformed name v hv).allocated halloc
      simp [hraw]
    · rintro halloc operation work hwork first ⟨result, v⟩ hworks
      exact (Operation.turns_of_work? hwork hworks).within halloc
    · rintro remaining first (hretire | hdrop)
      · exact hu'.freed_retireUnit hretire
      · exact hu'.freed_drop hdrop
  · intro operation pool p first r hpool hp hperform hdone
    exact (runs_perform hperform).unit_of_done hpool hp hdone

/-! ### Two rounds on two pools -/

/-- A unit is made on a pool. -/
def reuseOperations : List Operation :=
  [.establish { Config.default with validation := false } 0 "c", .openPool "c" "p",
    .openUnit "c" "p" "u"]

/-- It works, then its pool is bound to another family, then it works again. -/
def reuseRounds : List Operation :=
  [.record "u", .finish "u", .submit "u" 10, .bindPool "p" 7, .record "u", .finish "u",
    .submit "u" 10]

theorem continues_after_rebinding :
    ∃ u v, (empty.played reuseOperations 1).1.2.get? "u" = some (.unit u) ∧
      ((empty.played reuseOperations 1).1.2.played reuseRounds 85).1.2.get? "u" = some (.unit v) ∧
      u.isAllocated ∧ u.Continues v := by
  have hfirst := numbered_played empty reuseOperations 1
  have hlast : (empty.played reuseOperations 1).2.2 = 85 := by decide +kernel
  rw [hlast] at hfirst
  have hsecond := numbered_played (empty.played reuseOperations 1).1.2 reuseRounds 85
  have hfresh := (hfirst.append hsecond).fresh Nat.one_pos (by decide +kernel)
  have hkept : ∀ x ∈
      reuseRounds.zip ((empty.played reuseOperations 1).1.2.played reuseRounds 85).1.1,
      x.1.replaces "u" → x.2 ≠ .done := by decide +kernel
  have hthere : ((empty.played reuseOperations 1).1.2.unit? "u").any isAllocated := by
    decide +kernel
  have hrun := runs_played empty reuseOperations 1
  have hrounds := runs_played (empty.played reuseOperations 1).1.2 reuseRounds 85
  generalize empty.played reuseOperations 1 = run at *
  generalize run.1.2.played reuseRounds 85 = rounds at *
  cases hu : run.1.2.unit? "u" with
  | none => simp [hu] at hthere
  | some u =>
    obtain ⟨hunits, -⟩ := unit_representation hrun hrounds hfresh.creations_ne_zero
    obtain ⟨-, hlater, -⟩ := hunits "u" u (get?_of_unit? hu)
    obtain ⟨v, hv, -, -, hcontinues⟩ := hlater hkept
    refine ⟨u, v, get?_of_unit? hu, hv, by simpa [hu] using hthere, hcontinues ?_⟩
    simp [reuseRounds]

end Session

end VulkanExec
