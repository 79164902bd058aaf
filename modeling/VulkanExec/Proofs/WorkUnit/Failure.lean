import VulkanExec.Proofs.Establishment.Undoing
import VulkanExec.Proofs.WorkUnit.Flight

/-!
# Failed operations of a unit

An operation that fails leaves its unit in a known state. One that comes at the wrong time asks
nothing of the driver. One of whose commands the driver refuses changes nothing, unless a submission
is under way; then the unit stays executable and remembers whether its fence was seen signaled. The
error is that of the command that was refused.

## Main definitions

- `Event.refused?`, `refusals`: the commands that the driver refused, each with its code;
- `waits`: the answers to waits for a fence;
- `Command.failure`: the error of a unit's operation with a refused command;
- `WorkUnit.Blames`, `WorkUnit.KnownState`: what is said of an error and of the unit after it.

The main statement is `error_leaves_known_state`.
-/

namespace VulkanExec

/-- The code that came instead of a value. -/
def Reply.code? {α : Type} : Reply α → Option ResultCode
  | .ok _ => none
  | .error code => some code

@[simp] theorem Reply.code?_ok {α : Type} (a : α) : Reply.code? (.ok a : Reply α) = none := rfl

@[simp] theorem Reply.code?_error {α : Type} (code : ResultCode) :
    Reply.code? (.error code : Reply α) = some code := rfl

/-- The code with which the driver refused a command. -/
def Command.refusal? : (c : Command) → c.Answer → Option ResultCode
  | layers, reply => Reply.code? reply
  | layerExtensions _, reply => Reply.code? reply
  | deviceExtensions .., reply => Reply.code? reply
  | createInstance _, reply => Reply.code? reply
  | createMessenger .., reply => Reply.code? reply
  | physicalDevices _, reply => Reply.code? reply
  | createDevice .., reply => Reply.code? reply
  | createPool .., reply => Reply.code? reply
  | allocateBuffer .., reply => Reply.code? reply
  | createFence .., reply => Reply.code? reply
  | beginBuffer .., reply => Reply.code? reply
  | endBuffer .., reply => Reply.code? reply
  | resetBuffer .., reply => Reply.code? reply
  | resetFence .., reply => Reply.code? reply
  | waitFence .., reply => Reply.code? reply
  | submit .., reply => Reply.code? reply
  | waitIdle _, reply => Reply.code? reply
  | _, _ => none

/-- The command that was refused at an event, with the code. -/
def Event.refused? : Event → Option (Command × ResultCode)
  | answered c answer => (c.refusal? answer).map (c, ·)
  | noted _ => none

/-- The commands that the driver refused, in order. -/
def refusals (events : List Event) : List (Command × ResultCode) :=
  events.filterMap Event.refused?

/-- The answers to the waits for a fence, in order. -/
def waits (events : List Event) : List (Reply Unit) :=
  events.filterMap fun
    | .answered (.waitFence ..) reply => some reply
    | _ => none

/-- The error of a unit's operation that fails because the driver refuses a command. -/
def Command.failure (c : Command) (code : ResultCode) : Error :=
  match c with
  | allocateBuffer .. => .bufferAllocationFailed code
  | createFence .. => .fenceCreationFailed code
  | beginBuffer .. => .beginFailed code
  | endBuffer .. => .endFailed code
  | c => .submissionFailed (c.function?.getD "") code

namespace WorkUnit

/-- The time that an action gives to a submission. -/
def Action.milliseconds? : Action → Option UInt32
  | .submit milliseconds | .await milliseconds => some milliseconds
  | .allocate | .record | .finish | .retire _ => none

/-- The error of an action is that of a command that the driver refused. It tells the function that
was called and the code, except for a wait that took too long. -/
inductive Blames (action : Action) : Command → ResultCode → Error → Prop where
  | timedOut {d : DeviceHandle} {fence : FenceHandle} {milliseconds : UInt32}
      (htime : action.milliseconds? = some milliseconds) :
      Blames action (.waitFence d fence (nanoseconds milliseconds)) .timeout
        (.submissionTimeout milliseconds)
  | failed {c : Command} {code : ResultCode} {name : String} (hname : c.function? = some name)
      (hmessage : (c.failure code).message = name ++ " failed: " ++ code.text)
      (hcode : (c matches .waitFence ..) → code ≠ .timeout) :
      Blames action c code (c.failure code)

/-- What is known of a unit after an action that failed. -/
structure KnownState (u : WorkUnit) (action : Action) (events : List Event) (e : Error)
    (v : WorkUnit) : Prop where
  /-- An action at the wrong time has no events and changes nothing. -/
  misused : e.stage = .state → events = [] ∧ v = u
  /-- Any other failed action has exactly one refused command, and the error is about it. -/
  refused : e.stage ≠ .state → ∃ c code, refusals events = [(c, code)] ∧ Blames action c code e
  /-- When no submission is under way, nothing changes, and nothing that was created is left. -/
  unsubmitted : e.stage ≠ .state → u.inFlight = false → submissions events = 0 →
    v = u ∧ Undone events
  /-- When a submission is under way, the unit stays executable with the same handles. It is in
  flight unless the wait for the fence succeeded, and waiting again makes sense when the time was
  over. -/
  submitted : e.stage ≠ .state → u.inFlight ∨ 0 < submissions events →
    v.state = .executable ∧ v = { u with inFlight := v.inFlight } ∧
      ∃ reply, waits events = [reply] ∧ (v.inFlight ↔ reply ≠ .ok ()) ∧
        (e.mayWaitAgain ↔ reply = .error .timeout)

section Failure

variable {u v : WorkUnit} {action : Action} {events : List Event} {e : Error}

theorem Attempt.misused (h : Attempt u action events (.error e) v) (hstage : e.stage = .state) :
    events = [] ∧ v = u := by
  cases h with
  | poolless | unallocated | beginRefused | endRefused | submitRefused | pending =>
    exact ⟨rfl, rfl⟩
  | allocationFailed | fenceFailed | beginFailed | endFailed | fenceResetFailed | submitFailed =>
    cases hstage
  | submitted _ _ _ hwait | awaited _ _ hwait => cases hwait <;> cases hstage

theorem Waited.refused {milliseconds : UInt32} (h : Waited u milliseconds events (.error e) v)
    (htime : action.milliseconds? = some milliseconds) :
    ∃ c code, refusals events = [(c, code)] ∧ Blames action c code e := by
  cases h with
  | timedOut => exact ⟨_, _, rfl, .timedOut htime⟩
  | waitFailed hcode => exact ⟨_, _, rfl, .failed rfl rfl fun _ => hcode⟩
  | resetFailed => exact ⟨_, _, rfl, .failed rfl rfl nofun⟩

theorem Attempt.refused (h : Attempt u action events (.error e) v) (hstage : e.stage ≠ .state) :
    ∃ c code, refusals events = [(c, code)] ∧ Blames action c code e := by
  cases h with
  | poolless | unallocated | beginRefused | endRefused | submitRefused | pending =>
    exact absurd rfl hstage
  | allocationFailed | fenceFailed | beginFailed | endFailed | fenceResetFailed | submitFailed =>
    exact ⟨_, _, rfl, .failed rfl rfl nofun⟩
  | submitted _ _ _ hwait | awaited _ _ hwait => exact hwait.refused rfl

theorem Attempt.unsubmitted (h : Attempt u action events (.error e) v)
    (hflight : u.inFlight = false) (hnone : submissions events = 0) : v = u ∧ Undone events := by
  cases h with
  | poolless | unallocated | beginRefused | endRefused | submitRefused | pending
  | allocationFailed | beginFailed | endFailed | fenceResetFailed | submitFailed =>
    exact ⟨rfl, undone_of_quiet rfl rfl⟩
  | @fenceFailed raw buffer code =>
    -- The buffer was allocated, and it is freed again.
    exact ⟨rfl, [.answered (.allocateBuffer u.device.handle raw.handle) (.ok buffer),
      .answered (.createFence u.device.handle false) (.error code)], _, rfl, rfl, rfl, rfl⟩
  | submitted => simp [submissions, Event.isSubmission] at hnone
  | awaited _ hflight' => simp [hflight] at hflight'

theorem Waited.submitted {milliseconds : UInt32} (h : Waited u milliseconds events (.error e) v)
    (hflight : u.inFlight) :
    v = { u with inFlight := v.inFlight } ∧
      ∃ reply, waits events = [reply] ∧ (v.inFlight ↔ reply ≠ .ok ()) ∧
        (e.mayWaitAgain ↔ reply = .error .timeout) := by
  cases h with
  | timedOut => exact ⟨rfl, _, rfl, by simp [hflight], by simp [Error.mayWaitAgain]⟩
  | waitFailed hcode =>
    exact ⟨rfl, _, rfl, by simp [hflight], by simpa [Error.mayWaitAgain] using hcode⟩
  | resetFailed => exact ⟨rfl, _, rfl, by simp, by simp [Error.mayWaitAgain]⟩

theorem Attempt.submitted_of_error (h : Attempt u action events (.error e) v)
    (hready : u.inFlight → u.isAllocated ∧ u.state = .executable) (hstage : e.stage ≠ .state)
    (hunder : u.inFlight ∨ 0 < submissions events) :
    v.state = .executable ∧ v = { u with inFlight := v.inFlight } ∧
      ∃ reply, waits events = [reply] ∧ (v.inFlight ↔ reply ≠ .ok ()) ∧
        (e.mayWaitAgain ↔ reply = .error .timeout) := by
  have hstate (hsame : v = { u with inFlight := v.inFlight }) (hu : u.state = .executable) :
      v.state = .executable := by
    rw [hsame]
    exact hu
  cases h with
  | poolless | unallocated | beginRefused | endRefused | submitRefused | pending =>
    exact absurd rfl hstage
  | allocationFailed _ hidle | fenceFailed _ hidle | beginFailed _ hidle | endFailed _ hidle
  | fenceResetFailed _ _ hidle | submitFailed _ _ hidle =>
    -- None of these submits, and none is possible while a submission is in flight.
    have hflight : u.inFlight := hunder.resolve_right (by simp [submissions, Event.isSubmission])
    obtain ⟨halloc, hexecutable⟩ := hready hflight
    grind
  | submitted _ hu _ hwait =>
    obtain ⟨hsame, hreply⟩ := hwait.submitted rfl
    exact ⟨hstate hsame hu, hsame, hreply⟩
  | awaited _ hflight hwait =>
    obtain ⟨hsame, hreply⟩ := hwait.submitted hflight
    exact ⟨hstate hsame (hready hflight).2, hsame, hreply⟩

/-- Whatever was done with a unit, it is allocated and executable while a submission is in
flight. -/
theorem ready_of_inFlight {pool : WorkPool} {queue : QueueHandle} {actions : List Action}
    {past : List Event} {results : List (Except Error Unit)}
    (h : ((ofPool pool queue).run actions).Runs past (results, u)) (hflight : u.inFlight) :
    u.isAllocated ∧ u.state = .executable := by
  rcases (alive_or_retired_of_run.of_history h).2 with halive | hretired
  · exact ⟨halive.allocated hflight, halive.state hflight⟩
  · exact absurd (hretired.inFlight.symm.trans hflight) (by decide)

/-- An operation that fails leaves its unit in a state that the error tells, whatever was done with
the unit before and whatever the driver answers. -/
theorem error_leaves_known_state {pool : WorkPool} {queue : QueueHandle} {actions : List Action}
    {past : List Event} {results : List (Except Error Unit)}
    (hpast : ((ofPool pool queue).run actions).Runs past (results, u))
    (h : (u.perform action).Runs events (.error e, v)) : KnownState u action events e v := by
  rcases attempt_of_perform h with hattempt | ⟨_, _, hok, _⟩
  · constructor
    · exact hattempt.misused
    · exact hattempt.refused
    · intro _
      exact hattempt.unsubmitted
    · exact hattempt.submitted_of_error (ready_of_inFlight hpast)
  · cases hok

end Failure

/-- A driver that refuses to reset buffers. -/
def refusesResets (c : Command) : Bool := c matches .resetBuffer ..

/-- The sample unit with a finished recording. -/
def sampleFinished : WorkUnit :=
  (((ofPool samplePool ⟨3⟩).run [.allocate, .record, .finish]).runWith
    (.numbering refusesResets) 4).1.2

/-- A submission of it that is seen done, after which the buffer is not reset. -/
def resetRefused : Outcome × List Event × Nat :=
  (sampleFinished.perform (.submit 10)).runWith (.numbering refusesResets) 8

theorem known_state_without_reset :
    resetRefused.1.1 = .error (.submissionFailed "vkResetCommandBuffer" .initializationFailed) ∧
      KnownState sampleFinished (.submit 10) resetRefused.2.1
        (.submissionFailed "vkResetCommandBuffer" .initializationFailed) resetRefused.1.2 ∧
      resetRefused.1.2.inFlight = false := by
  have hpast := Program.runs_runWith (.numbering refusesResets)
    ((ofPool samplePool ⟨3⟩).run [.allocate, .record, .finish]) 4
  have hruns := Program.runs_runWith (.numbering refusesResets)
    (sampleFinished.perform (.submit 10)) 8
  exact ⟨rfl, error_leaves_known_state hpast hruns, rfl⟩

end WorkUnit

end VulkanExec
