import VulkanExec.Proofs.Establishment.Answers
import VulkanExec.Proofs.WorkUnit.Failure

/-!
# Rounds of a unit

In a round a recording is begun, finished, submitted and waited for. On a unit that is ready, a
round fails exactly where the driver refuses a command, and that is the end of it. While a round is
under way nothing is created and nothing is released.

## Main definitions

- `Event.fails`: the driver does not do its part in making a pool, making a unit or a round;
- `Event.overdue?`: a wait for a fence that fails, on a device;
- `StopsAtFailure`: a success has no failure among its events, and after a failure nothing goes on;
- `WorkUnit.InOrder`, `WorkUnit.Rounds`: actions and rounds up to the first that fails;
- `WorkUnit.Stretch`: what is said of a part of the rounds.

The main statement, `Rounds.stretch`, is about any number of rounds.
-/

namespace VulkanExec

/-- Whether the command makes a pool, makes a unit, or is part of a round. -/
def Command.isExercise : Command → Bool
  | createPool .. | allocateBuffer .. | createFence .. | beginBuffer .. | endBuffer ..
  | resetBuffer .. | resetFence .. | waitFence .. | submit .. => true
  | _ => false

namespace Event

/-- The command of the event makes a pool, makes a unit, or is part of a round. -/
def exercises : Event → Bool
  | answered c _ => c.isExercise
  | noted _ => false

/-- The driver does not do its part in making a pool, making a unit or a round. A null handle is no
buffer. -/
def fails : Event → Bool
  | answered (.allocateBuffer ..) (.ok buffer) => buffer.isNull
  | answered c answer => c.isExercise && (c.refusal? answer).isSome
  | noted _ => false

/-- The device of a wait for a fence that takes too long or fails. -/
def overdue? : Event → Option DeviceHandle
  | answered (.waitFence d ..) (.error _) => some d
  | _ => none

theorem fails_of_overdue? {e : Event} {d : DeviceHandle} (h : e.overdue? = some d) : e.fails := by
  unfold overdue? at h
  split at h
  · rfl
  · cases h

/-- What is no part of an exercise neither fails nor works on a unit. -/
theorem of_exercises_eq_false {e : Event} (h : e.exercises = false) :
    (e.fails = false ∧ e.isWork = false) ∧ e.overdue? = none ∧ e.isSubmission = false ∧
      e.isSignal = false := by
  cases e with
  | noted n => exact ⟨⟨rfl, rfl⟩, rfl, rfl, rfl⟩
  | answered c answer => cases c <;> first | exact ⟨⟨rfl, rfl⟩, rfl, rfl, rfl⟩ | cases h

end Event

/-- The result is a success exactly when nothing fails, and after a failure nothing is worked
on. -/
structure StopsAtFailure {ε : Type} (events : List Event) (r : Except ε Unit) : Prop where
  ok_iff : r = .ok () ↔ ∀ e ∈ events, e.fails = false
  pairwise : events.Pairwise fun e later => e.fails → later.isWork = false

section StopsAtFailure

variable {ε : Type} {first second : List Event} {r : Except ε Unit}

theorem StopsAtFailure.append_left (h : StopsAtFailure second r)
    (hfirst : ∀ e ∈ first, e.fails = false) : StopsAtFailure (first ++ second) r where
  ok_iff := by
    rw [h.ok_iff, List.forall_mem_append]
    exact (and_iff_right hfirst).symm
  pairwise := by
    refine List.pairwise_append.2 ⟨?_, h.pairwise, ?_⟩
    · exact List.pairwise_of_forall_mem_list fun e he _ _ hfails => by simp [hfirst e he] at hfails
    · intro e he _ _ hfails
      simp [hfirst e he] at hfails

theorem StopsAtFailure.append_right (h : StopsAtFailure first r)
    (hsecond : ∀ e ∈ second, e.exercises = false) : StopsAtFailure (first ++ second) r := by
  have hcalm (e : Event) (he : e ∈ second) : e.fails = false ∧ e.isWork = false :=
    (Event.of_exercises_eq_false (hsecond e he)).1
  constructor
  · rw [h.ok_iff, List.forall_mem_append]
    exact (and_iff_left fun e he => (hcalm e he).1).symm
  · refine List.pairwise_append.2 ⟨h.pairwise, ?_, fun _ _ e he _ => (hcalm e he).2⟩
    exact List.pairwise_of_forall_mem_list fun _ _ e he _ => (hcalm e he).2

theorem counts_of_exercises_eq_false (h : ∀ e ∈ first, e.exercises = false) :
    submissions first = 0 ∧ signals first = 0 := by
  simp only [submissions, signals, List.countP_eq_zero, Bool.not_eq_true]
  exact ⟨fun e he => (Event.of_exercises_eq_false (h e he)).2.2.1,
    fun e he => (Event.of_exercises_eq_false (h e he)).2.2.2⟩

end StopsAtFailure

namespace WorkUnit

/-- Actions one after the other, up to the first that fails. -/
inductive InOrder : WorkUnit → List Action → List Event → Except Error Unit → WorkUnit → Prop where
  | done (u : WorkUnit) : InOrder u [] [] (.ok ()) u
  | failed {u v : WorkUnit} {action : Action} {actions : List Action} {events : List Event}
    {e : Error} (h : Attempt u action events (.error e) v) :
    InOrder u (action :: actions) events (.error e) v
  | next {u v w : WorkUnit} {action : Action} {actions : List Action} {first second : List Event}
    {r : Except Error Unit} (h : Attempt u action first (.ok ()) v)
    (rest : InOrder v actions second r w) : InOrder u (action :: actions) (first ++ second) r w

/-- The actions of a round. -/
def round (milliseconds : UInt32) : List Action := [.record, .finish, .submit milliseconds]

/-- The time of an action on the buffer: when it makes a step of a round. -/
def Action.IsTimely (u : WorkUnit) : Action → Prop
  | .record => u.isAllocated ∧ u.state = .initial
  | .finish => u.isAllocated ∧ u.state = .recording
  | .submit _ => u.isAllocated ∧ u.state = .executable ∧ u.inFlight = false
  | .await _ => u.isAllocated ∧ u.inFlight
  | .allocate | .retire _ => False

/-- Rounds one after the other, up to the first that fails, with a log record after each. -/
inductive Rounds (milliseconds : UInt32) :
    Nat → WorkUnit → List Event → Except Error Unit → WorkUnit → Prop where
  | done (u : WorkUnit) : Rounds milliseconds 0 u [] (.ok ()) u
  | failed {n : Nat} {u v : WorkUnit} {events : List Event} {e : Error}
    (h : InOrder u (round milliseconds) events (.error e) v) :
    Rounds milliseconds (n + 1) u events (.error e) v
  | next {n : Nat} {u v w : WorkUnit} {first second : List Event} {record : LogRecord}
    {r : Except Error Unit} (h : InOrder u (round milliseconds) first (.ok ()) v)
    (rest : Rounds milliseconds n v second r w) :
    Rounds milliseconds (n + 1) u (first ++ .noted (.log record) :: second) r w

/-- A unit that is ready for a round. -/
structure Ready (u : WorkUnit) : Prop where
  allocated : u.isAllocated
  initial : u.state = .initial
  idle : u.inFlight = false

/-- What is said of a part of the rounds, which starts with one unit and ends with the other. -/
structure Stretch (u : WorkUnit) (events : List Event) (r : Except Error Unit) (v : WorkUnit) :
    Prop where
  stops : StopsAtFailure events r
  quiet : creations events = [] ∧ releases events = []
  /-- Nothing is asked that an establishment asks. -/
  told : Answers.of events = {}
  /-- The unit keeps its handles. -/
  unit : v = { u with state := v.state, inFlight := v.inFlight }
  /-- After a wait that failed the submission is in flight. -/
  overdue : ∀ e ∈ events, ∀ d, e.overdue? = some d → d = u.device.handle ∧ v.inFlight

section Rounds

variable {u v w : WorkUnit} {action : Action} {first second events : List Event}
  {r : Except Error Unit} {milliseconds : UInt32} {n : Nat}

theorem Stretch.refl (u : WorkUnit) : Stretch u [] (.ok ()) u :=
  ⟨⟨by simp, .nil⟩, ⟨rfl, rfl⟩, rfl, rfl, by simp⟩

theorem Stretch.append (h : Stretch u first (.ok ()) v) (hrest : Stretch v second r w) :
    Stretch u (first ++ second) r w where
  stops := hrest.stops.append_left (h.stops.ok_iff.1 rfl)
  quiet := by simp [h.quiet, hrest.quiet]
  told := by simp [h.told, hrest.told]
  unit := by rw [hrest.unit, h.unit]
  overdue := by
    intro e he d hd
    rcases List.mem_append.1 he with hfirst | hsecond
    · exact absurd (Event.fails_of_overdue? hd) (by simp [h.stops.ok_iff.1 rfl e hfirst])
    · obtain ⟨rfl, hflight⟩ := hrest.overdue e hsecond d hd
      rw [h.unit]
      exact ⟨rfl, hflight⟩

/-- A wait for the submission in flight is a stretch of its own. -/
theorem Waited.stretch (h : Waited u milliseconds events r v) (hflight : u.inFlight) :
    Stretch u events r v := by
  cases h with
  | timedOut | waitFailed =>
    refine ⟨⟨?_, ?_⟩, ⟨rfl, rfl⟩, rfl, rfl, ?_⟩ <;>
      simp [Event.fails, Event.isWork, Event.overdue?, Command.isExercise, Command.refusal?,
        hflight]
  | resetFailed | settled =>
    refine ⟨⟨?_, ?_⟩, ⟨rfl, rfl⟩, rfl, rfl, ?_⟩ <;>
      simp [Event.fails, Event.isWork, Event.overdue?, Command.isExercise, Command.refusal?]

/-- An action at its time is a stretch. -/
theorem Attempt.stretch (h : Attempt u action events r v) (htime : action.IsTimely u) :
    Stretch u events r v := by
  cases h with
  | poolless | allocatedBefore | allocationFailed | fenceFailed | allocated => cases htime
  | unallocated _ hnone => cases action <;> simp_all [Action.IsTimely]
  | recordingBefore | beginRefused | endRefused | submitRefused | pending | idle =>
    simp_all [Action.IsTimely]
  | beginFailed | begun | endFailed | ended | fenceResetFailed | submitFailed =>
    refine ⟨⟨?_, ?_⟩, ⟨rfl, rfl⟩, rfl, rfl, ?_⟩ <;>
      simp [Event.fails, Event.isWork, Event.overdue?, Command.isExercise, Command.refusal?]
  | submitted _ _ _ hwait =>
    have hrest := hwait.stretch rfl
    refine ⟨?_, hrest.quiet, hrest.told, hrest.unit, ?_⟩
    · have hfirst : ∀ e ∈ [Event.answered (.resetFence u.device.handle u.fence) (.ok ()),
          .answered (.submit u.device.handle u.queue u.buffer u.fence) (.ok ())],
          e.fails = false := by simp [Event.fails, Command.refusal?]
      exact hrest.stops.append_left hfirst
    · simpa [Event.overdue?] using hrest.overdue
  | awaited _ hflight hwait => exact hwait.stretch hflight

/-- A round of a unit that is ready for it is a stretch. If it succeeds, the unit is as before, and
one submission was made and seen done. -/
theorem InOrder.stretch (h : InOrder u (round milliseconds) events r v) (hready : u.Ready) :
    Stretch u events r v ∧ (r = .ok () → v = u ∧ submissions events = 1 ∧ signals events = 1) := by
  obtain ⟨halloc, hstate, hflight⟩ := hready
  cases h with
  | failed hrecord => exact ⟨hrecord.stretch ⟨halloc, hstate⟩, by simp⟩
  | next hrecord hrest =>
    have hfirst := hrecord.stretch ⟨halloc, hstate⟩
    cases hrecord with
    | recordingBefore _ hrecording => simp [hstate] at hrecording
    | begun =>
      cases hrest with
      | failed hfinish => exact ⟨hfirst.append (hfinish.stretch ⟨halloc, rfl⟩), by simp⟩
      | next hfinish hrest =>
        have hsecond := hfirst.append (hfinish.stretch ⟨halloc, rfl⟩)
        cases hfinish
        cases hrest with
        | failed hsubmit =>
          have hthird := hsecond.append (hsubmit.stretch ⟨halloc, rfl, hflight⟩)
          exact ⟨by simpa using hthird, by simp⟩
        | next hsubmit hdone =>
          have hthird := hsecond.append (hsubmit.stretch ⟨halloc, rfl, hflight⟩)
          cases hdone
          cases hsubmit with
          | submitted _ _ _ hwait =>
            cases hwait
            refine ⟨by simpa using hthird, fun _ => ⟨?_, rfl, rfl⟩⟩
            rw [← hstate, ← hflight]

/-- Rounds of a unit that is ready are a stretch. If all of them succeed, the unit is as before, and
each of them made a submission that was seen done. -/
theorem Rounds.stretch (h : Rounds milliseconds n u events r v) (hready : u.Ready) :
    Stretch u events r v ∧ (r = .ok () → v = u ∧ submissions events = n ∧ signals events = n) := by
  induction h with
  | done u => exact ⟨.refl u, fun _ => ⟨rfl, rfl, rfl⟩⟩
  | failed hround => exact ⟨(hround.stretch hready).1, by simp⟩
  | @next n u v w first second record r hround hrest ih =>
    obtain ⟨hfirst, hdone⟩ := hround.stretch hready
    obtain ⟨rfl, hsubmissions, hsignals⟩ := hdone rfl
    obtain ⟨hsecond, hdone'⟩ := ih hready
    have hlog : Stretch v [.noted (.log record)] (.ok ()) v :=
      ⟨⟨by simp [Event.fails], by simp⟩, ⟨rfl, rfl⟩, rfl, rfl, by simp [Event.overdue?]⟩
    refine ⟨hfirst.append (hlog.append hsecond), fun hr => ?_⟩
    obtain ⟨rfl, hsubmissions', hsignals'⟩ := hdone' hr
    have hlogged : submissions (.noted (.log record) :: second) = submissions second ∧
        signals (.noted (.log record) :: second) = signals second := by
      simp [submissions, signals, Event.isSubmission, Event.isSignal]
    rw [submissions_append, signals_append]
    exact ⟨rfl, by omega, by omega⟩

/-! ## New units -/

/-- An allocation that fails undoes what it did. -/
theorem Attempt.of_allocate_error {raw : RawPool} {e : Error}
    (h : Attempt u .allocate events (.error e) v) (hpool : u.pool = some raw) :
    StopsAtFailure events (.error e : Except Error Unit) ∧ Undone events ∧
      Answers.of events = {} ∧ ∀ x ∈ events, x.overdue? = none := by
  cases h with
  | poolless hnone => simp [hpool] at hnone
  | unallocated hneeds => cases hneeds
  | allocationFailed =>
    refine ⟨⟨?_, ?_⟩, undone_of_quiet rfl rfl, rfl, ?_⟩ <;>
      simp [Event.fails, Command.isExercise, Command.refusal?, Event.overdue?]
  | @fenceFailed _ buffer code =>
    refine ⟨⟨?_, ?_⟩, ⟨[_, _], [_], rfl, rfl, rfl, rfl⟩, rfl, ?_⟩ <;>
      simp [Event.fails, Command.isExercise, Command.refusal?, Event.overdue?, Event.isWork]

/-- A unit that was allocated has a new buffer and a new fence. -/
theorem Attempt.of_allocate_ok (h : Attempt u .allocate events (.ok ()) v)
    (halloc : u.isAllocated = false) :
    ∃ (raw : RawPool) (buffer : BufferHandle) (fence : FenceHandle), events =
        [.answered (.allocateBuffer u.device.handle raw.handle) (.ok buffer),
          .answered (.createFence u.device.handle false) (.ok fence)] ∧
      v = { u with buffer, fence, state := .initial, inFlight := false } := by
  cases h with
  | allocatedBefore _ halloc' => simp [halloc] at halloc'
  | allocated => exact ⟨_, _, _, rfl, rfl⟩

/-- A unit that got a null handle for its buffer does not come to its first round. -/
theorem Rounds.of_unallocated (h : Rounds milliseconds (n + 1) u events r v)
    (halloc : u.isAllocated = false) : events = [] ∧ r ≠ .ok () ∧ v = u := by
  have hnone {actions : List Action} {first : List Event} {r : Except Error Unit} {w : WorkUnit}
      (h : InOrder u (.record :: actions) first r w) : first = [] ∧ r ≠ .ok () ∧ w = u := by
    cases h with
    | failed h => cases h <;> simp_all
    | next h => cases h <;> simp_all
  cases h with
  | failed h => exact hnone h
  | next h => exact absurd rfl (hnone h).2.1

/-- A new unit goes through its rounds, unless its buffer is none. -/
theorem Rounds.of_allocate (hallocate : Attempt u .allocate first (.ok ()) v)
    (halloc : u.isAllocated = false) (h : Rounds milliseconds (n + 1) v second r w) :
    StopsAtFailure (first ++ second) r ∧ (∃ r', Stretch v second r' w) ∧
      (r = .ok () → submissions second = n + 1 ∧ signals second = n + 1) := by
  obtain ⟨raw, buffer, fence, rfl, rfl⟩ := hallocate.of_allocate_ok halloc
  cases hnull : buffer.isNull with
  | true =>
    obtain ⟨rfl, hr, rfl⟩ := h.of_unallocated (by simp [isAllocated, hnull])
    refine ⟨⟨?_, ?_⟩, ⟨.ok (), .refl _⟩, fun h => absurd h hr⟩
    · simp [Event.fails, hnull, hr]
    · simp [Event.isWork]
  | false =>
    obtain ⟨hstretch, hdone⟩ := h.stretch ⟨by simp [isAllocated, hnull], rfl, rfl⟩
    refine ⟨hstretch.stops.append_left ?_, ⟨r, hstretch⟩, fun hr => (hdone hr).2⟩
    simp [Event.fails, Command.refusal?, hnull]

end Rounds

end WorkUnit

end VulkanExec
