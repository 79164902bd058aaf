import VulkanExec.Session.Holder
import VulkanExec.Proofs.Monitor

/-!
# Turns of a unit

All that a unit does up to its retirement is made of a few turns: short stretches of events with a
fixed effect on the unit. Every property of a unit's runs is a property of its turns.

## Main definitions

- `WorkUnit.Action`, `WorkUnit.perform`, `WorkUnit.run`: what a caller can do with a unit, once and
  many times;
- `WorkUnit.Attempt`: what an action comes to, with its events, its result and the unit after it;
- `WorkUnit.Turn`: the turns, with the state in which each is taken and the unit after it;
- `WorkUnit.Turns`: turns in a row.

The main statements, `attempt_of_perform` and `perform_cases`, say that an action is a retirement or
an attempt, and consists of turns then.
-/

namespace VulkanExec.WorkUnit

/-- What a caller can do with a unit. -/
inductive Action where
  | allocate
  | record
  | finish
  | submit (milliseconds : UInt32)
  | await (milliseconds : UInt32)
  /-- Retire the unit for good while other holders remain. -/
  | retire (remaining : List Holder)

/-- Do one action. A retirement succeeds always. -/
def perform (unit : WorkUnit) : Action → Program Outcome
  | .allocate => unit.allocate
  | .record => unit.record
  | .finish => unit.finish
  | .submit milliseconds => unit.submit milliseconds
  | .await milliseconds => unit.await milliseconds
  | .retire remaining => do return (.ok (), ← retireUnit remaining unit)

/-- Do one action after the other, and collect their results. -/
def run (unit : WorkUnit) : List Action → Program (List (Except Error Unit) × WorkUnit)
  | [] => return ([], unit)
  | action :: actions => do
    let (result, unit) ← unit.perform action
    let (results, unit) ← unit.run actions
    return (result :: results, unit)

/-- The unit after its retirement. -/
def retired (unit : WorkUnit) : WorkUnit :=
  { unit with pool := none, buffer := .null, fence := .null, state := .initial, inFlight := false }

/-! ## What an action comes to -/

/-- Whether an action needs the buffer and the fence. -/
def Action.needsBuffer : Action → Bool
  | .record | .finish | .submit _ | .await _ => true
  | .allocate | .retire _ => false

/-- What a wait for the submission in flight comes to. -/
inductive Waited (u : WorkUnit) (milliseconds : UInt32) :
    List Event → Except Error Unit → WorkUnit → Prop where
  | timedOut {r : LogRecord} :
      Waited u milliseconds
        [.answered (.waitFence u.device.handle u.fence (nanoseconds milliseconds))
          (.error .timeout), .noted (.log r)]
        (.error (.submissionTimeout milliseconds)) u
  | waitFailed {code : ResultCode} (hcode : code ≠ .timeout) :
      Waited u milliseconds
        [.answered (.waitFence u.device.handle u.fence (nanoseconds milliseconds)) (.error code)]
        (.error (.submissionFailed "vkWaitForFences" code)) u
  | resetFailed {code : ResultCode} :
      Waited u milliseconds
        [.answered (.waitFence u.device.handle u.fence (nanoseconds milliseconds)) (.ok ()),
          .answered (.resetBuffer u.device.handle u.buffer) (.error code)]
        (.error (.submissionFailed "vkResetCommandBuffer" code)) { u with inFlight := false }
  | settled {r : LogRecord} :
      Waited u milliseconds
        [.answered (.waitFence u.device.handle u.fence (nanoseconds milliseconds)) (.ok ()),
          .answered (.resetBuffer u.device.handle u.buffer) (.ok ()), .noted (.log r)]
        (.ok ()) { u with inFlight := false, state := .initial }

/-- What an action other than a retirement comes to. One that is refused because it comes at the
wrong time, or that has nothing to do, has no events. -/
inductive Attempt (u : WorkUnit) :
    Action → List Event → Except Error Unit → WorkUnit → Prop where
  | poolless (hpool : u.pool = none) :
      Attempt u .allocate [] (.error (.notInitialized "work pool")) u
  | allocatedBefore {raw : RawPool} (hpool : u.pool = some raw) (halloc : u.isAllocated) :
      Attempt u .allocate [] (.ok ()) u
  | allocationFailed {raw : RawPool} {code : ResultCode} (hpool : u.pool = some raw)
      (halloc : u.isAllocated = false) :
      Attempt u .allocate
        [.answered (.allocateBuffer u.device.handle raw.handle) (.error code)]
        (.error (.bufferAllocationFailed code)) u
  | fenceFailed {raw : RawPool} {buffer : BufferHandle} {code : ResultCode}
      (hpool : u.pool = some raw) (halloc : u.isAllocated = false) :
      Attempt u .allocate
        [.answered (.allocateBuffer u.device.handle raw.handle) (.ok buffer),
          .answered (.createFence u.device.handle false) (.error code),
          .answered (.freeBuffer u.device.handle raw.handle buffer) ()]
        (.error (.fenceCreationFailed code)) u
  | allocated {raw : RawPool} {buffer : BufferHandle} {fence : FenceHandle}
      (hpool : u.pool = some raw) (halloc : u.isAllocated = false) :
      Attempt u .allocate
        [.answered (.allocateBuffer u.device.handle raw.handle) (.ok buffer),
          .answered (.createFence u.device.handle false) (.ok fence)]
        (.ok ()) { u with buffer, fence, state := .initial, inFlight := false }
  | unallocated {action : Action} (hneeds : action.needsBuffer) (halloc : u.isAllocated = false) :
      Attempt u action [] (.error (.notInitialized "unit of work")) u
  | recordingBefore (halloc : u.isAllocated) (hstate : u.state = .recording) :
      Attempt u .record [] (.ok ()) u
  | beginRefused (halloc : u.isAllocated) (hstate : u.state = .executable) :
      Attempt u .record [] (.error (.cannotBegin .executable)) u
  | beginFailed {code : ResultCode} (halloc : u.isAllocated) (hstate : u.state = .initial) :
      Attempt u .record
        [.answered (.beginBuffer u.device.handle u.buffer oneTimeSubmit) (.error code)]
        (.error (.beginFailed code)) u
  | begun {r : LogRecord} (halloc : u.isAllocated) (hstate : u.state = .initial) :
      Attempt u .record
        [.answered (.beginBuffer u.device.handle u.buffer oneTimeSubmit) (.ok ()), .noted (.log r)]
        (.ok ()) { u with state := .recording }
  | endRefused (halloc : u.isAllocated) (hstate : u.state ≠ .recording) :
      Attempt u .finish [] (.error (.cannotEnd u.state)) u
  | endFailed {code : ResultCode} (halloc : u.isAllocated) (hstate : u.state = .recording) :
      Attempt u .finish [.answered (.endBuffer u.device.handle u.buffer) (.error code)]
        (.error (.endFailed code)) u
  | ended {r : LogRecord} (halloc : u.isAllocated) (hstate : u.state = .recording) :
      Attempt u .finish
        [.answered (.endBuffer u.device.handle u.buffer) (.ok ()), .noted (.log r)]
        (.ok ()) { u with state := .executable }
  | submitRefused {milliseconds : UInt32} (halloc : u.isAllocated)
      (hstate : u.state ≠ .executable) :
      Attempt u (.submit milliseconds) [] (.error (.cannotSubmit u.state)) u
  | pending {milliseconds : UInt32} (halloc : u.isAllocated) (hstate : u.state = .executable)
      (hflight : u.inFlight) :
      Attempt u (.submit milliseconds) [] (.error .submissionPending) u
  | fenceResetFailed {milliseconds : UInt32} {code : ResultCode} (halloc : u.isAllocated)
      (hstate : u.state = .executable) (hflight : u.inFlight = false) :
      Attempt u (.submit milliseconds)
        [.answered (.resetFence u.device.handle u.fence) (.error code)]
        (.error (.submissionFailed "vkResetFences" code)) u
  | submitFailed {milliseconds : UInt32} {code : ResultCode} (halloc : u.isAllocated)
      (hstate : u.state = .executable) (hflight : u.inFlight = false) :
      Attempt u (.submit milliseconds)
        [.answered (.resetFence u.device.handle u.fence) (.ok ()),
          .answered (.submit u.device.handle u.queue u.buffer u.fence) (.error code)]
        (.error (.submissionFailed "vkQueueSubmit" code)) u
  | submitted {milliseconds : UInt32} {events : List Event} {r : Except Error Unit} {v : WorkUnit}
      (halloc : u.isAllocated) (hstate : u.state = .executable) (hflight : u.inFlight = false)
      (hwait : Waited { u with inFlight := true } milliseconds events r v) :
      Attempt u (.submit milliseconds)
        (.answered (.resetFence u.device.handle u.fence) (.ok ()) ::
          .answered (.submit u.device.handle u.queue u.buffer u.fence) (.ok ()) :: events) r v
  | idle {milliseconds : UInt32} (halloc : u.isAllocated) (hflight : u.inFlight = false) :
      Attempt u (.await milliseconds) [] (.ok ()) u
  | awaited {milliseconds : UInt32} {events : List Event} {r : Except Error Unit} {v : WorkUnit}
      (halloc : u.isAllocated) (hflight : u.inFlight)
      (hwait : Waited u milliseconds events r v) : Attempt u (.await milliseconds) events r v

section Attempt

variable {u v : WorkUnit} {events : List Event} {result : Except Error Unit}

/-- An operation that ends after an attempt has come to that attempt. -/
theorem Attempt.of_pure {action : Action} {first : List Event} {r : Except Error Unit}
    {w : WorkUnit} (h : Attempt u action first r w)
    (hend : (pure (r, w) : Program Outcome).Runs events (result, v)) :
    Attempt u action (first ++ events) result v := by
  obtain ⟨rfl, he⟩ := Program.runs_pure_iff.1 hend
  cases he
  simpa using h

theorem Waited.of_pure {milliseconds : UInt32} {first : List Event} {r : Except Error Unit}
    {w : WorkUnit} (h : Waited u milliseconds first r w)
    (hend : (pure (r, w) : Program Outcome).Runs events (result, v)) :
    Waited u milliseconds (first ++ events) result v := by
  obtain ⟨rfl, he⟩ := Program.runs_pure_iff.1 hend
  cases he
  simpa using h

theorem attempt_of_allocate (h : u.allocate.Runs events (result, v)) :
    Attempt u .allocate events result v := by
  unfold allocate at h
  split at h
  case h_1 hpool => exact (Attempt.poolless hpool).of_pure h
  case h_2 raw hpool =>
    split at h
    case isTrue halloc => exact (Attempt.allocatedBefore hpool halloc).of_pure h
    case isFalse halloc =>
      rw [Bool.not_eq_true] at halloc
      rw [Program.runs_ask_iff] at h
      obtain ⟨code | buffer, rest, rfl, h⟩ := h
      · exact (Attempt.allocationFailed hpool halloc).of_pure h
      · rw [Program.runs_ask_iff] at h
        obtain ⟨code | fence, rest, rfl, h⟩ := h
        · rw [Program.runs_ask_iff] at h
          obtain ⟨_, rest, rfl, h⟩ := h
          exact (Attempt.fenceFailed hpool halloc).of_pure h
        · exact (Attempt.allocated hpool halloc).of_pure h

/-- An operation that needs the buffer is refused without it. -/
theorem attempt_whenAllocated {operation : Program Outcome} {action : Action}
    (h : (u.whenAllocated operation).Runs events (result, v)) (hneeds : action.needsBuffer)
    (hop : u.isAllocated → operation.Runs events (result, v) → Attempt u action events result v) :
    Attempt u action events result v := by
  unfold whenAllocated at h
  split at h
  case isTrue halloc => exact hop halloc h
  case isFalse halloc => exact (Attempt.unallocated hneeds (by simpa using halloc)).of_pure h

theorem attempt_of_record (h : u.record.Runs events (result, v)) :
    Attempt u .record events result v := by
  refine attempt_whenAllocated h rfl fun halloc hrun => ?_
  split at hrun
  case h_1 hstate => exact (Attempt.recordingBefore halloc hstate).of_pure hrun
  case h_2 hstate => exact (Attempt.beginRefused halloc hstate).of_pure hrun
  case h_3 hstate =>
    rw [Program.runs_ask_iff] at hrun
    obtain ⟨code | _, rest, rfl, hrun⟩ := hrun
    · exact (Attempt.beginFailed halloc hstate).of_pure hrun
    · rw [logStep, Program.runs_log_iff] at hrun
      obtain ⟨rest, rfl, hrun⟩ := hrun
      exact (Attempt.begun halloc hstate).of_pure hrun

theorem attempt_of_finish (h : u.finish.Runs events (result, v)) :
    Attempt u .finish events result v := by
  refine attempt_whenAllocated h rfl fun halloc hrun => ?_
  split at hrun
  case isTrue hstate => exact (Attempt.endRefused halloc hstate).of_pure hrun
  case isFalse hstate =>
    rw [ne_eq, Decidable.not_not] at hstate
    rw [Program.runs_ask_iff] at hrun
    obtain ⟨code | _, rest, rfl, hrun⟩ := hrun
    · exact (Attempt.endFailed halloc hstate).of_pure hrun
    · rw [logStep, Program.runs_log_iff] at hrun
      obtain ⟨rest, rfl, hrun⟩ := hrun
      exact (Attempt.ended halloc hstate).of_pure hrun

/-- A wait of a unit with a submission in flight. -/
theorem waited_of_await {milliseconds : UInt32} (halloc : u.isAllocated) (hflight : u.inFlight)
    (h : (u.await milliseconds).Runs events (result, v)) :
    Waited u milliseconds events result v := by
  rw [await, whenAllocated, if_pos halloc, if_neg (by simp [hflight])] at h
  rw [Program.runs_ask_iff] at h
  obtain ⟨code | _, rest, rfl, h⟩ := h
  · dsimp only at h
    split at h
    case isTrue htime =>
      subst htime
      rw [Program.runs_log_iff] at h
      obtain ⟨rest, rfl, h⟩ := h
      exact Waited.timedOut.of_pure h
    case isFalse hcode => exact (Waited.waitFailed hcode).of_pure h
  · dsimp only [reset] at h
    rw [Program.runs_ask_iff] at h
    obtain ⟨code | _, rest, rfl, h⟩ := h
    · exact Waited.resetFailed.of_pure h
    · rw [logStep, Program.runs_log_iff] at h
      obtain ⟨rest, rfl, h⟩ := h
      exact Waited.settled.of_pure h

theorem attempt_of_await {milliseconds : UInt32}
    (h : (u.await milliseconds).Runs events (result, v)) :
    Attempt u (.await milliseconds) events result v := by
  refine attempt_whenAllocated h rfl fun halloc hrun => ?_
  split at hrun
  case isTrue hflight => exact (Attempt.idle halloc (by simpa using hflight)).of_pure hrun
  case isFalse hflight =>
    rw [Bool.not_eq_true, Bool.not_eq_false'] at hflight
    exact .awaited halloc hflight (waited_of_await halloc hflight h)

theorem attempt_of_submit {milliseconds : UInt32}
    (h : (u.submit milliseconds).Runs events (result, v)) :
    Attempt u (.submit milliseconds) events result v := by
  refine attempt_whenAllocated h rfl fun halloc hrun => ?_
  split at hrun
  case isTrue hstate => exact (Attempt.submitRefused halloc hstate).of_pure hrun
  case isFalse hstate =>
    rw [ne_eq, Decidable.not_not] at hstate
    split at hrun
    case isTrue hflight => exact (Attempt.pending halloc hstate hflight).of_pure hrun
    case isFalse hflight =>
      rw [Bool.not_eq_true] at hflight
      rw [Program.runs_ask_iff] at hrun
      obtain ⟨code | _, rest, rfl, hrun⟩ := hrun
      · exact (Attempt.fenceResetFailed halloc hstate hflight).of_pure hrun
      · rw [Program.runs_ask_iff] at hrun
        obtain ⟨code | _, rest, rfl, hrun⟩ := hrun
        · exact (Attempt.submitFailed halloc hstate hflight).of_pure hrun
        · have hwait := waited_of_await (u := { u with inFlight := true }) halloc rfl hrun
          exact .submitted halloc hstate hflight hwait

/-- An action is a retirement, or an attempt. -/
theorem attempt_of_perform {action : Action} (h : (u.perform action).Runs events (result, v)) :
    Attempt u action events result v ∨
      ∃ remaining, action = .retire remaining ∧ result = .ok () ∧
        (retireUnit remaining u).Runs events v := by
  cases action with
  | allocate => exact .inl (attempt_of_allocate h)
  | record => exact .inl (attempt_of_record h)
  | finish => exact .inl (attempt_of_finish h)
  | submit milliseconds => exact .inl (attempt_of_submit h)
  | await milliseconds => exact .inl (attempt_of_await h)
  | retire remaining =>
    obtain ⟨first, second, w, rfl, hretire, hend⟩ := Program.runs_bind_iff.1 h
    obtain ⟨rfl, he⟩ := Program.runs_pure_iff.1 hend
    cases he
    exact .inr ⟨remaining, rfl, rfl, by simpa using hretire⟩

/-- An allocation that fails leaves the unit as it was. -/
theorem eq_of_allocate_error {e : Error} (h : u.allocate.Runs events (.error e, v)) : v = u := by
  cases attempt_of_allocate h <;> rfl

end Attempt

/-! ## Turns -/

/-- A stretch of events that a unit goes through as a whole, and the unit after it. -/
inductive Turn (u : WorkUnit) : List Event → WorkUnit → Prop where
  | allocationFailed {raw : RawPool} {code : ResultCode} (hpool : u.pool = some raw)
      (halloc : u.isAllocated = false) :
      Turn u [.answered (.allocateBuffer u.device.handle raw.handle) (.error code)] u
  | fenceFailed {raw : RawPool} {buffer : BufferHandle} {code : ResultCode}
      (hpool : u.pool = some raw) (halloc : u.isAllocated = false) :
      Turn u [.answered (.allocateBuffer u.device.handle raw.handle) (.ok buffer),
        .answered (.createFence u.device.handle false) (.error code),
        .answered (.freeBuffer u.device.handle raw.handle buffer) ()] u
  | allocated {raw : RawPool} {buffer : BufferHandle} {fence : FenceHandle}
      (hpool : u.pool = some raw) (halloc : u.isAllocated = false) :
      Turn u [.answered (.allocateBuffer u.device.handle raw.handle) (.ok buffer),
        .answered (.createFence u.device.handle false) (.ok fence)]
        { u with buffer, fence, state := .initial, inFlight := false }
  | beginFailed {code : ResultCode} (halloc : u.isAllocated) (hstate : u.state = .initial) :
      Turn u [.answered (.beginBuffer u.device.handle u.buffer oneTimeSubmit) (.error code)] u
  | begun {r : LogRecord} (halloc : u.isAllocated) (hstate : u.state = .initial) :
      Turn u [.answered (.beginBuffer u.device.handle u.buffer oneTimeSubmit) (.ok ()),
        .noted (.log r)] { u with state := .recording }
  | endFailed {code : ResultCode} (halloc : u.isAllocated) (hstate : u.state = .recording) :
      Turn u [.answered (.endBuffer u.device.handle u.buffer) (.error code)] u
  | ended {r : LogRecord} (halloc : u.isAllocated) (hstate : u.state = .recording) :
      Turn u [.answered (.endBuffer u.device.handle u.buffer) (.ok ()), .noted (.log r)]
        { u with state := .executable }
  | fenceResetFailed {code : ResultCode} (halloc : u.isAllocated) (hstate : u.state = .executable)
      (hflight : u.inFlight = false) :
      Turn u [.answered (.resetFence u.device.handle u.fence) (.error code)] u
  | submitFailed {code : ResultCode} (halloc : u.isAllocated) (hstate : u.state = .executable)
      (hflight : u.inFlight = false) :
      Turn u [.answered (.resetFence u.device.handle u.fence) (.ok ()),
        .answered (.submit u.device.handle u.queue u.buffer u.fence) (.error code)] u
  | submitted (halloc : u.isAllocated) (hstate : u.state = .executable)
      (hflight : u.inFlight = false) :
      Turn u [.answered (.resetFence u.device.handle u.fence) (.ok ()),
        .answered (.submit u.device.handle u.queue u.buffer u.fence) (.ok ())]
        { u with inFlight := true }
  | waitFailed {time : UInt64} {code : ResultCode} (halloc : u.isAllocated) (hflight : u.inFlight) :
      Turn u [.answered (.waitFence u.device.handle u.fence time) (.error code)] u
  | timedOut {time : UInt64} {r : LogRecord} (halloc : u.isAllocated) (hflight : u.inFlight) :
      Turn u [.answered (.waitFence u.device.handle u.fence time) (.error .timeout),
        .noted (.log r)] u
  | resetFailed {time : UInt64} {code : ResultCode} (halloc : u.isAllocated)
      (hflight : u.inFlight) :
      Turn u [.answered (.waitFence u.device.handle u.fence time) (.ok ()),
        .answered (.resetBuffer u.device.handle u.buffer) (.error code)]
        { u with inFlight := false }
  | settled {time : UInt64} {r : LogRecord} (halloc : u.isAllocated) (hflight : u.inFlight) :
      Turn u [.answered (.waitFence u.device.handle u.fence time) (.ok ()),
        .answered (.resetBuffer u.device.handle u.buffer) (.ok ()), .noted (.log r)]
        { u with inFlight := false, state := .initial }

/-- Turns in a row. -/
inductive Turns : WorkUnit → List Event → WorkUnit → Prop where
  | nil (u : WorkUnit) : Turns u [] u
  | cons {u v w : WorkUnit} {first rest : List Event} (head : Turn u first v)
      (tail : Turns v rest w) : Turns u (first ++ rest) w

theorem Turn.turns {u v : WorkUnit} {events : List Event} (h : Turn u events v) :
    Turns u events v := by
  simpa using Turns.cons h (.nil v)

variable {u v : WorkUnit} {events : List Event} {result : Except Error Unit}

theorem Waited.turns {milliseconds : UInt32} (h : Waited u milliseconds events result v)
    (halloc : u.isAllocated) (hflight : u.inFlight) : Turns u events v := by
  cases h with
  | timedOut => exact (Turn.timedOut halloc hflight).turns
  | waitFailed => exact (Turn.waitFailed halloc hflight).turns
  | resetFailed => exact (Turn.resetFailed halloc hflight).turns
  | settled => exact (Turn.settled halloc hflight).turns

/-- An attempt consists of turns. -/
theorem Attempt.turns {action : Action} (h : Attempt u action events result v) :
    Turns u events v := by
  cases h with
  | poolless | allocatedBefore | unallocated | recordingBefore | beginRefused | endRefused
  | submitRefused | pending | idle => exact .nil u
  | allocationFailed hpool halloc => exact (Turn.allocationFailed hpool halloc).turns
  | fenceFailed hpool halloc => exact (Turn.fenceFailed hpool halloc).turns
  | allocated hpool halloc => exact (Turn.allocated hpool halloc).turns
  | beginFailed halloc hstate => exact (Turn.beginFailed halloc hstate).turns
  | begun halloc hstate => exact (Turn.begun halloc hstate).turns
  | endFailed halloc hstate => exact (Turn.endFailed halloc hstate).turns
  | ended halloc hstate => exact (Turn.ended halloc hstate).turns
  | fenceResetFailed halloc hstate hflight =>
    exact (Turn.fenceResetFailed halloc hstate hflight).turns
  | submitFailed halloc hstate hflight => exact (Turn.submitFailed halloc hstate hflight).turns
  | submitted halloc hstate hflight hwait =>
    -- The wait after the submission has turns of its own.
    exact .cons (Turn.submitted halloc hstate hflight) (hwait.turns halloc rfl)
  | awaited halloc hflight hwait => exact hwait.turns halloc hflight

theorem turns_allocate (h : u.allocate.Runs events (result, v)) : Turns u events v :=
  (attempt_of_allocate h).turns

theorem turns_record (h : u.record.Runs events (result, v)) : Turns u events v :=
  (attempt_of_record h).turns

theorem turns_finish (h : u.finish.Runs events (result, v)) : Turns u events v :=
  (attempt_of_finish h).turns

theorem turns_await {milliseconds : UInt32} (h : (u.await milliseconds).Runs events (result, v)) :
    Turns u events v := (attempt_of_await h).turns

theorem turns_submit {milliseconds : UInt32} (h : (u.submit milliseconds).Runs events (result, v)) :
    Turns u events v := (attempt_of_submit h).turns

/-- An action is a retirement, or it consists of turns. -/
theorem perform_cases {action : Action} (h : (u.perform action).Runs events (result, v)) :
    Turns u events v ∨
      ∃ remaining, action = .retire remaining ∧ (retireUnit remaining u).Runs events v := by
  rcases attempt_of_perform h with h | ⟨remaining, haction, -, hretire⟩
  · exact .inl h.turns
  · exact .inr ⟨remaining, haction, hretire⟩

/-! ## Invariants of runs -/

section Invariant

variable {σ : Type} {m : Monitor σ} {Inv : WorkUnit → σ → Prop}

/-- An invariant is kept by turns when every turn does as permitted and ends in it again. -/
def KeptByTurns (m : Monitor σ) (Inv : WorkUnit → σ → Prop) : Prop :=
  ∀ u events v s, Turn u events v → Inv u s → m.Along m.expects s events →
    m.Along m.permits s events ∧ Inv v (m.after s events)

theorem KeptByTurns.turns (hkept : KeptByTurns m Inv) {s : σ} (h : Turns u events v)
    (hinv : Inv u s) (hexpects : m.Along m.expects s events) :
    m.Along m.permits s events ∧ Inv v (m.after s events) := by
  induction h generalizing s with
  | nil u => exact ⟨trivial, hinv⟩
  | cons head _ ih =>
    obtain ⟨hfirst, hrest⟩ := Monitor.along_append.1 hexpects
    obtain ⟨hpermits, hinv⟩ := hkept _ _ _ _ head hinv hfirst
    obtain ⟨hpermits', hinv⟩ := ih hinv hrest
    exact ⟨Monitor.along_append.2 ⟨hpermits, hpermits'⟩, by simpa using hinv⟩

/-- An invariant that is kept by turns and by the retirements among some actions holds after
them. -/
theorem KeptByTurns.run_meets (hkept : KeptByTurns m Inv) {actions : List Action}
    (hretire : ∀ remaining, .retire remaining ∈ actions → ∀ u s, Inv u s →
      m.Meets (retireUnit remaining u) s Inv)
    {s : σ} (hinv : Inv u s) : m.Meets (u.run actions) s fun r t => Inv r.2 t := by
  induction actions generalizing u s with
  | nil => exact Monitor.meets_done hinv
  | cons action actions ih =>
    have hfirst : m.Meets (u.perform action) s fun r t => Inv r.2 t := by
      rintro events ⟨result, v⟩ hrun hexpects
      rcases perform_cases hrun with hturns | ⟨remaining, rfl, hretired⟩
      · exact hkept.turns hturns hinv hexpects
      · exact hretire remaining (by simp) u s hinv events v hretired hexpects
    apply hfirst.bind
    intro r t hinv
    apply (ih (fun remaining hm => hretire remaining (by simp [hm])) hinv).bind
    intro r t hinv
    exact Monitor.meets_done hinv

end Invariant

end VulkanExec.WorkUnit
