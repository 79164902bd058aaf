import VulkanExec.Proofs.WorkUnit.Representation
import VulkanExec.Proofs.WorkUnit.Retry

/-!
# Units that are retired for good

A retired unit has no buffer, no fence and no pool, and never gets one again: whatever is done with
it fails, asks nothing of the driver and leaves it as it is. What is left to its drop is the device,
if the unit was the last to hold it. In the whole life of a unit each buffer and each fence that was
created for it is freed once.

## Main definitions

- `WorkUnit.Action.afterRetirement`: what becomes of an action on a retired unit;
- `Device.closing`: the commands that release a device and its instance;
- `WorkUnit.Balances`: what was created and what is freed, between two times of a unit;
- `WorkUnit.RetiredForGood`: what is said of a retirement.

The main statement is `WorkUnit.retired_for_good`.
-/

namespace VulkanExec

open Program

/-- The commands that release a device which was created here, and its instance with it. -/
def Device.closing (d : Device) : List Command :=
  match d.owner with
  | none => []
  | some i => [.waitIdle d.handle, .destroyDevice d.handle] ++
    (i.callback.map fun callback => .destroyMessenger i.handle callback.messenger).toList ++
    [.destroyInstance i.handle]

section Releases

variable {α : Type} {events : List Event} {others : List Holder} {d : Device}

theorem commands_drain {device : DeviceHandle} (h : (Device.drain device).Runs events ()) :
    Event.commands events = [.waitIdle device] := by
  obtain ⟨code | _, _, rfl, hrest⟩ := runs_ask_iff.1 h
  · obtain ⟨_, rfl, hend⟩ := runs_log_iff.1 hrest
    obtain ⟨rfl, -⟩ := runs_done_iff.1 hend
    rfl
  · obtain ⟨rfl, -⟩ := runs_pure_iff.1 hrest
    rfl

theorem commands_close (h : d.close.Runs events ()) : Event.commands events = d.closing := by
  unfold Device.close at h
  unfold Device.closing
  cases howner : d.owner with
  | none =>
    rw [howner] at h
    obtain ⟨rfl, -⟩ := runs_pure_iff.1 h
    rfl
  | some i =>
    rw [howner] at h
    obtain ⟨_, _, _, rfl, hdrain, hdestroy⟩ := runs_bind_iff.1 h
    obtain ⟨_, _, rfl, hlog⟩ := runs_ask_iff.1 hdestroy
    obtain ⟨_, rfl, hclose⟩ := runs_log_iff.1 hlog
    obtain rfl := Instance.runs_close hclose
    rw [Event.commands_append, commands_drain hdrain]
    obtain ⟨handle, callback⟩ := i
    cases callback <;> rfl

/-- A device that others hold is kept; otherwise it is released. -/
theorem commands_releaseDevice (h : (releaseDevice others d).Runs events ()) :
    Event.commands events = if deviceHeld others d then [] else d.closing := by
  unfold releaseDevice at h
  split at h
  · next hheld =>
    obtain ⟨rfl, -⟩ := runs_pure_iff.1 h
    rw [if_pos hheld]
    rfl
  · next hlast => rw [commands_close h, if_neg hlast]

/-- Releases create nothing. -/
theorem creations_of_teardown {p : Program α} {a : α} (h : p.Only fun c => c.isTeardown)
    (hruns : p.Runs events a) : creations events = [] := by
  refine List.filterMap_eq_nil_iff.2 fun e he => ?_
  cases e with
  | noted n => rfl
  | answered c answer =>
    have hc := h.of_mem hruns he
    cases c <;> first | rfl | cases hc

end Releases

namespace WorkUnit

variable {u v w : WorkUnit} {action : Action} {actions : List Action}
  {past events first : List Event} {result : Except Error Unit}
  {results : List (Except Error Unit)} {remaining : List Holder}

/-! ## After the retirement -/

/-- What an action on a retired unit comes to. -/
def Action.afterRetirement : Action → Except Error Unit
  | allocate => .error (.notInitialized "work pool")
  | record | finish | submit _ | await _ => .error (.notInitialized "unit of work")
  | retire _ => .ok ()

/-- A retired unit has nothing to free. -/
theorem runs_retireUnit_retired (h : (retireUnit remaining u.retired).Runs events v) :
    events = [] ∧ v = u.retired := by
  rw [retireUnit_eq] at h
  obtain ⟨rfl, rfl⟩ := runs_pure_iff.1 h
  exact ⟨rfl, rfl⟩

/-- Whatever is done with a retired unit fails without asking anything, and leaves it as it is. -/
theorem runs_perform_retired (h : (u.retired.perform action).Runs events (result, v)) :
    events = [] ∧ result = action.afterRetirement ∧ v = u.retired := by
  rcases attempt_of_perform h with hattempt | ⟨others, rfl, rfl, hretire⟩
  · cases hattempt with
    | poolless => exact ⟨rfl, rfl, rfl⟩
    | unallocated hneeds =>
      cases action <;> first | exact ⟨rfl, rfl, rfl⟩ | cases hneeds
    | allocatedBefore hpool | allocationFailed hpool | fenceFailed hpool | allocated hpool =>
      cases hpool
    | _ halloc => cases halloc
  · obtain ⟨rfl, rfl⟩ := runs_retireUnit_retired hretire
    exact ⟨rfl, rfl, rfl⟩

theorem runs_run_retired (h : (u.retired.run actions).Runs events (results, v)) :
    events = [] ∧ results = actions.map Action.afterRetirement ∧ v = u.retired := by
  induction actions generalizing events results with
  | nil =>
    obtain ⟨rfl, he⟩ := runs_pure_iff.1 h
    cases he
    exact ⟨rfl, rfl, rfl⟩
  | cons action actions ih =>
    obtain ⟨_, _, _, _, _, rfl, rfl, hfirst, hrest⟩ := runs_run_cons h
    obtain ⟨rfl, rfl, rfl⟩ := runs_perform_retired hfirst
    obtain ⟨rfl, rfl, rfl⟩ := ih hrest
    exact ⟨rfl, rfl, rfl⟩

/-- The drop of a retired unit releases the device, if nobody else holds it. -/
theorem commands_drop_retired {others : List Holder}
    (h : ((Holder.unit u.retired).drop others).Runs events ()) :
    Event.commands events = if deviceHeld others u.device then [] else u.device.closing := by
  rw [Holder.drop_unit] at h
  obtain ⟨_, _, _, rfl, hretire, hrelease⟩ := runs_bind_iff.1 h
  obtain ⟨rfl, -⟩ := runs_retireUnit_retired hretire
  exact commands_releaseDevice hrelease

/-! ## What is created and freed -/

/-- The buffer and the fence of a unit, if they are there. -/
def handles (u : WorkUnit) : Multiset Object :=
  if u.isAllocated then {u.fence.object, u.buffer.object} else 0

/-- From one time of a unit to a later one, what it has at first and what is created is what is
freed and what it has at last. -/
def Balances (u : WorkUnit) (events : List Event) (v : WorkUnit) : Prop :=
  (creations events : Multiset Object) + u.handles = freed events + v.handles

theorem balances_nil (u : WorkUnit) : u.Balances [] u := rfl

theorem Balances.append {second : List Event} (h : u.Balances first v) (h' : v.Balances second w) :
    u.Balances (first ++ second) w := by
  rw [Balances, creations_append, freed_append, ← Multiset.coe_add, ← Multiset.coe_add,
    add_right_comm, h, add_right_comm, add_assoc, add_assoc, h', add_left_comm]

/-- What a turn creates is kept by the unit, or freed in the same turn. -/
theorem Turn.balances (h : Turn u events v) (hnew : ∀ o ∈ creations events, o.value ≠ 0) :
    u.Balances events v := by
  cases h with
  | @allocated raw buffer fence _ halloc =>
    have hbuffer : buffer.isNull = false := Handle.isNull_eq_false (hnew _ (.head _))
    have hv : isAllocated { u with buffer, fence, state := .initial, inFlight := false } := by
      simp [isAllocated, hbuffer]
    rw [Balances, handles, handles, halloc, hv]
    exact Multiset.coe_eq_coe.2 (.swap ..)
  | _ => rfl

theorem Turns.balances (h : Turns u events v) (hnew : ∀ o ∈ creations events, o.value ≠ 0) :
    u.Balances events v := by
  induction h with
  | nil u => exact balances_nil u
  | cons head _ ih =>
    rw [creations_append] at hnew
    exact (head.balances fun o ho => hnew o (List.mem_append_left _ ho)).append
      (ih fun o ho => hnew o (List.mem_append_right _ ho))

theorem creations_retireUnit (h : (retireUnit remaining u).Runs events v) :
    creations events = [] :=
  creations_of_teardown (only_retireUnit (fun _ h _ => h) fun _ _ _ h _ => h) h

theorem Formed.balances_retireUnit (h : u.Formed past)
    (hretire : (retireUnit remaining u).Runs events v) : u.Balances events v := by
  obtain rfl := runs_retireUnit hretire
  rw [Balances, creations_retireUnit hretire, h.freed_retireUnit hretire, handles]
  cases u.isAllocated <;> rfl

/-- Whatever is done with a unit, it stays formed, and what it has not got was freed. -/
theorem Formed.run (h : u.Formed past) (hrun : (u.run actions).Runs events (results, v))
    (hnew : ∀ o ∈ creations events, o.value ≠ 0) :
    v.Formed (past ++ events) ∧ u.Balances events v := by
  induction actions generalizing u past events results with
  | nil =>
    obtain ⟨rfl, he⟩ := runs_pure_iff.1 hrun
    cases he
    exact ⟨h.append [], balances_nil _⟩
  | cons action actions ih =>
    obtain ⟨first, rest, _, _, w, rfl, rfl, hfirst, hrest⟩ := runs_run_cons hrun
    rw [creations_append] at hnew
    have hnew' : ∀ o ∈ creations first, o.value ≠ 0 :=
      fun o ho => hnew o (List.mem_append_left _ ho)
    have hone : w.Formed (past ++ first) ∧ u.Balances first w := by
      rcases perform_cases hfirst with hturns | ⟨others, rfl, hretire⟩
      · exact ⟨h.turns hturns hnew', hturns.balances hnew'⟩
      · have hbalances := h.balances_retireUnit hretire
        obtain rfl := runs_retireUnit hretire
        exact ⟨formed_retired u _, hbalances⟩
    obtain ⟨hv, hbalances⟩ := ih hone.1 hrest fun o ho => hnew o (List.mem_append_right _ ho)
    exact ⟨List.append_assoc .. ▸ hv, hone.2.append hbalances⟩

theorem creations_drop {holder : Holder} {others : List Holder}
    (h : (holder.drop others).Runs events ()) : creations events = [] :=
  creations_of_teardown (only_drop (fun _ h => h) holder) h

/-- The drop of a retired unit neither creates nor frees. -/
theorem balances_drop_retired {others : List Holder}
    (h : ((Holder.unit u.retired).drop others).Runs events ()) :
    u.retired.Balances events u.retired := by
  rw [Balances, creations_drop h, (formed_retired u []).freed_drop h]
  rfl

/-- Between two times at which a unit has nothing, what is created is freed. -/
theorem Balances.perm (h : u.Balances events v) (hu : u.isAllocated = false)
    (hv : v.isAllocated = false) : (freed events).Perm (creations events) := by
  rw [Balances, handles, handles, hu, hv] at h
  exact Multiset.coe_eq_coe.1 (by simpa using h.symm)

/-! ## When a unit is allocated -/

/-- One of the actions was an allocation that succeeded. -/
def Allocates (actions : List Action) (results : List (Except Error Unit)) : Prop :=
  (.allocate, .ok ()) ∈ actions.zip results

/-- The number of fences that are created. -/
def fencesMade (events : List Event) : Nat := (creations events).countP (·.kind = .fence)

theorem allocates_cons : Allocates (action :: actions) (result :: results) ↔
    (action = .allocate ∧ result = .ok ()) ∨ Allocates actions results := by
  simp [Allocates, eq_comm]

@[simp] theorem fencesMade_append {second : List Event} :
    fencesMade (first ++ second) = fencesMade first + fencesMade second := by
  simp [fencesMade]

theorem not_allocates_afterRetirement (actions : List Action) :
    ¬ Allocates actions (actions.map Action.afterRetirement) := by
  induction actions with
  | nil => simp [Allocates]
  | cons action actions ih =>
    rw [List.map_cons, allocates_cons]
    rintro (⟨rfl, hok⟩ | hlater)
    · cases hok
    · exact ih hlater

theorem Attempt.ne_retire (h : Attempt u action events result v) : action ≠ .retire remaining := by
  rintro rfl
  cases h with
  | unallocated hneeds => cases hneeds

theorem Waited.fencesMade {milliseconds : UInt32} (h : Waited u milliseconds events result v) :
    fencesMade events = 0 ∧ v.isAllocated = u.isAllocated := by
  cases h <;> exact ⟨rfl, rfl⟩

/-- A unit that was not allocated is after an allocation that succeeds. Then one fence is
created, and otherwise none is. -/
theorem Attempt.allocates (h : Attempt u action events result v)
    (hnew : ∀ o ∈ creations events, o.value ≠ 0) :
    (v.isAllocated ↔ u.isAllocated ∨ (action = .allocate ∧ result = .ok ())) ∧
      fencesMade events + u.isAllocated.toNat = v.isAllocated.toNat := by
  cases h with
  | @allocated raw buffer fence _ halloc =>
    have hbuffer : buffer.isNull = false := Handle.isNull_eq_false (hnew _ (.head _))
    have hv : isAllocated { u with buffer, fence, state := .initial, inFlight := false } := by
      simp [isAllocated, hbuffer]
    rw [halloc, hv]
    exact ⟨by simp, rfl⟩
  | allocatedBefore _ halloc => simp [halloc, fencesMade]
  | unallocated hneeds =>
    have hother : action ≠ .allocate := by
      rintro rfl
      cases hneeds
    simp [hother, fencesMade]
  | submitted _ _ _ hwait | awaited _ _ hwait =>
    have hnone : fencesMade _ = 0 := hwait.fencesMade.1
    have hsame : v.isAllocated = u.isAllocated := hwait.fencesMade.2
    rw [hsame]
    exact ⟨by simp, (congrArg (· + u.isAllocated.toNat) hnone).trans (Nat.zero_add _)⟩
  | poolless | allocationFailed | fenceFailed => exact ⟨by simp, Nat.zero_add _⟩
  | _ => exact ⟨by simp [isAllocated], Nat.zero_add _⟩

/-- Whatever is done with a unit, it is allocated if an allocation succeeded and it was not retired.
One fence is created if it was not allocated before and an allocation succeeded, and otherwise none
is. -/
theorem allocates_of_run (h : (u.run actions).Runs events (results, v))
    (hnew : ∀ o ∈ creations events, o.value ≠ 0) :
    (v.isAllocated ↔ (u.isAllocated ∨ Allocates actions results) ∧
      ∀ others, .retire others ∉ actions) ∧
    (u.isAllocated ∨ ¬ Allocates actions results → fencesMade events = 0) ∧
    (u.isAllocated = false → Allocates actions results → fencesMade events = 1) := by
  induction actions generalizing u events results with
  | nil =>
    obtain ⟨rfl, he⟩ := runs_pure_iff.1 h
    cases he
    simp [Allocates, fencesMade]
  | cons action actions ih =>
    obtain ⟨first, rest, r, others, w, rfl, rfl, hfirst, hrest⟩ := runs_run_cons h
    rw [creations_append] at hnew
    have hlater := ih hrest fun o ho => hnew o (List.mem_append_right _ ho)
    rw [allocates_cons, fencesMade_append]
    rcases attempt_of_perform hfirst with hattempt | ⟨remaining, rfl, rfl, hretire⟩
    · obtain ⟨hw, hfences⟩ := hattempt.allocates fun o ho => hnew o (List.mem_append_left _ ho)
      have hne : ∀ others, .retire others ≠ action := fun _ => hattempt.ne_retire.symm
      simp only [List.mem_cons, not_or, hne, not_false_eq_true, true_and]
      cases hu : u.isAllocated <;> cases hv : w.isAllocated <;> grind
    · obtain rfl := runs_retireUnit hretire
      obtain ⟨rfl, rfl, rfl⟩ := runs_run_retired hrest
      have hnone : fencesMade (first ++ []) = 0 := by
        rw [List.append_nil, fencesMade, creations_retireUnit hretire]
        rfl
      rw [← fencesMade_append]
      refine ⟨iff_of_false Bool.false_ne_true ?_, fun _ => hnone, fun _ hallocates => ?_⟩
      · exact fun hkept => hkept.2 remaining (.head _)
      · rcases hallocates with ⟨he, -⟩ | hallocates
        · cases he
        · exact absurd hallocates (not_allocates_afterRetirement actions)

/-! ## The whole life of a unit -/

/-- In the whole life of a unit, every buffer and every fence that is created for it is freed once.
There is one fence if an allocation succeeds, and none otherwise. -/
structure FreedOnce (actions : List Action) (results : List (Except Error Unit))
    (life : List Event) : Prop where
  freed : (freed life).Perm (creations life)
  allocated : Allocates actions results → (VulkanExec.freed life).countP (·.kind = .fence) = 1
  unallocated : ¬ Allocates actions results →
    (VulkanExec.freed life).countP (·.kind = .fence) = 0

/-- What is said of a retirement, of what is done with the unit after it, and of its drop. Before
it, some actions with their results and events were done with the unit `u`; the retirement leaves
`v`. -/
structure RetiredForGood (actions : List Action) (results : List (Except Error Unit))
    (past : List Event) (u : WorkUnit) (first : List Event) (v : WorkUnit) : Prop where
  handles : v.buffer = .null ∧ v.fence = .null
  state : v.state = .initial
  inFlight : v.inFlight = false
  pool : v.pool = none
  /-- Whatever is done later fails and asks nothing of the driver, except that the unit may be
  retired again, which does nothing. The unit stays as it is. -/
  later : ∀ later events results' w, (v.run later).Runs events (results', w) →
    events = [] ∧ results' = later.map Action.afterRetirement ∧ w = v
  /-- The drop releases the device and its instance if nobody else holds them, and nothing else. -/
  dropped : ∀ others last, ((Holder.unit v).drop others).Runs last () →
    Event.commands last = if deviceHeld others v.device then [] else v.device.closing
  /-- The retirement frees the fence and the buffer if an allocation had succeeded, unless the unit
  was retired before. -/
  frees : (∀ o ∈ creations past, o.value ≠ 0) →
    (u.isAllocated ↔ Allocates actions results ∧ ∀ others, .retire others ∉ actions) ∧
      freed first = if u.isAllocated then [u.fence.object, u.buffer.object] else []
  /-- So it is from the beginning of the unit to its drop. -/
  once : (∀ o ∈ creations past, o.value ≠ 0) → ∀ later events results' w others last,
    (v.run later).Runs events (results', w) → ((Holder.unit w).drop others).Runs last () →
      FreedOnce actions results (past ++ first ++ events ++ last)

/-- A unit that is retired, whatever was done with it before and whatever the driver answers, is
retired for good. -/
theorem retired_for_good {pool : WorkPool} {queue : QueueHandle}
    (hpast : ((ofPool pool queue).run actions).Runs past (results, u))
    (hretire : (retireUnit remaining u).Runs first v) :
    RetiredForGood actions results past u first v := by
  obtain rfl := runs_retireUnit hretire
  constructor
  case handles => exact ⟨rfl, rfl⟩
  case state => rfl
  case inFlight => rfl
  case pool => rfl
  case later =>
    intro later events results' w hlater
    exact runs_run_retired hlater
  case dropped =>
    intro others last hdrop
    exact commands_drop_retired hdrop
  case frees =>
    intro hnew
    obtain ⟨hformed, -⟩ := (formed_ofPool pool queue []).run hpast hnew
    obtain ⟨hallocated, -⟩ := allocates_of_run hpast hnew
    have hfirst : (ofPool pool queue).isAllocated = false := rfl
    refine ⟨?_, hformed.freed_retireUnit hretire⟩
    simpa [hfirst] using hallocated
  case once =>
    intro hnew later events results' w others last hlater hdrop
    obtain ⟨rfl, -, rfl⟩ := runs_run_retired hlater
    obtain ⟨hformed, hbalances⟩ := (formed_ofPool pool queue []).run hpast hnew
    obtain ⟨-, hnone, hsome⟩ := allocates_of_run hpast hnew
    have hlife := (hbalances.append (hformed.balances_retireUnit hretire)).append
      (balances_drop_retired hdrop)
    have hperm := hlife.perm rfl rfl
    have hfences : fencesMade (past ++ first ++ last) = fencesMade past := by
      simp [fencesMade, creations_retireUnit hretire, creations_drop hdrop]
    rw [fencesMade, ← hperm.countP_eq] at hfences
    rw [List.append_nil]
    refine ⟨hperm, fun hallocates => ?_, fun hnot => ?_⟩
    · rw [hfences, hsome rfl hallocates]
    · rw [hfences, hnone (.inr hnot)]

/-- The sample unit with a submission that was never seen done. -/
def sampleFlown : (List (Except Error Unit) × WorkUnit) × List Event × Nat :=
  ((ofPool samplePool ⟨3⟩).run [.allocate, .record, .finish, .submit 10]).runWith
    (.numbering refusesWaits) 4

/-- Its retirement by a driver that does not wait for a device either. -/
def sampleRetirement : WorkUnit × List Event × Nat :=
  (retireUnit [] sampleFlown.1.2).runWith (.numbering fun c => c matches .waitIdle ..) 12

theorem freed_once_without_waiting : sampleFlown.1.2.inFlight ∧
    freed sampleRetirement.2.1 = [⟨.fence, 5⟩, ⟨.buffer, 4⟩] ∧
    sampleRetirement.1.fence = .null := by
  have hpast := runs_runWith (.numbering refusesWaits)
    ((ofPool samplePool ⟨3⟩).run [.allocate, .record, .finish, .submit 10]) 4
  have hretire := runs_runWith (.numbering fun c => c matches .waitIdle ..)
    (retireUnit [] sampleFlown.1.2) 12
  have hgood := retired_for_good hpast hretire
  obtain ⟨-, hfreed⟩ := hgood.frees (by decide)
  exact ⟨rfl, hfreed.trans rfl, hgood.handles.2⟩

end WorkUnit

end VulkanExec
