import VulkanExec.Proofs.WorkUnit.Flight

/-!
# The life of a command buffer

A driver moves a command buffer through its states by the commands that succeed. What a unit
remembers as its state is computed here a second time, from the history of those commands alone.

## Main definitions

- `Event.advance`, `lifeOf`: the state of a buffer after an event and after a history;
- `Signaled`: the latest submission is of a buffer, and a wait has just found its fence signaled;
- `Event.Follows`: what the history has to be before a command on a buffer;
- `WorkUnit.Tracks`: a unit whose state is that of its buffer.

The main statement, `state_eq_lifeOf`, is about any run of a unit.
-/

namespace VulkanExec

/-- The state of a buffer after an event; there is none before its allocation and after its release.
Commands that fail and commands on other buffers leave it as it is. -/
def Event.advance (buffer : BufferHandle) (life : Option RecordingState) :
    Event → Option RecordingState
  | answered (.allocateBuffer ..) (.ok b) => if b = buffer then some .initial else life
  | answered (.beginBuffer _ b _) (.ok _) => if b = buffer then some .recording else life
  | answered (.endBuffer _ b) (.ok _) => if b = buffer then some .executable else life
  | answered (.resetBuffer _ b) (.ok _) => if b = buffer then some .initial else life
  | answered (.freeBuffer _ _ b) _ => if b = buffer then none else life
  | _ => life

/-- The state of a buffer after a history. -/
def lifeOf (buffer : BufferHandle) (events : List Event) : Option RecordingState :=
  events.foldl (Event.advance buffer) none

/-- The latest submission is one of the buffer on the device, made with the fence. -/
def LastSubmitted (d : DeviceHandle) (buffer : BufferHandle) (fence : FenceHandle)
    (past : List Event) : Prop :=
  ∃ before queue between, past = before ++ .answered (.submit d queue buffer fence) (.ok ()) ::
    between ∧ ∀ e ∈ between, e.isSubmission = false

/-- The latest submission is one of the buffer, and the last event is a wait that found the fence of
this submission signaled. -/
def Signaled (d : DeviceHandle) (buffer : BufferHandle) (past : List Event) : Prop :=
  ∃ fence time before, past = before ++ [.answered (.waitFence d fence time) (.ok ())] ∧
    LastSubmitted d buffer fence before

/-- What the history has to be before a command on a buffer. -/
def Event.Follows (past : List Event) : Event → Prop
  | answered (.beginBuffer _ b _) _ => lifeOf b past = some .initial
  | answered (.endBuffer _ b) _ => lifeOf b past = some .recording
  | answered (.submit _ _ b _) _ => lifeOf b past = some .executable
  | answered (.resetBuffer d b) _ => lifeOf b past = some .executable ∧ Signaled d b past
  | _ => True

section Life

variable {buffer : BufferHandle} {d : DeviceHandle} {fence : FenceHandle} {past events : List Event}

@[simp] theorem lifeOf_append : lifeOf buffer (past ++ events) =
    events.foldl (Event.advance buffer) (lifeOf buffer past) := List.foldl_append ..

theorem LastSubmitted.append (h : LastSubmitted d buffer fence past)
    (hquiet : ∀ e ∈ events, e.isSubmission = false) :
    LastSubmitted d buffer fence (past ++ events) := by
  obtain ⟨before, queue, between, rfl, hbetween⟩ := h
  refine ⟨before, queue, between ++ events, by simp, ?_⟩
  intro e he
  rcases List.mem_append.1 he with he | he
  · exact hbetween e he
  · exact hquiet e he

/-- Releases and waits for a device may come at any time. -/
theorem Command.follows_of_isTeardown {c : Command} (h : c.isTeardown) (answer : c.Answer) :
    (Event.answered c answer).Follows past := by
  cases c <;> trivial

end Life

namespace WorkUnit

variable {u v : WorkUnit} {past events : List Event}

/-- The state of a unit that has a buffer is the state of its buffer, and what is in flight is the
latest submission, which was one of the unit's buffer with the unit's fence. -/
structure Tracks (u : WorkUnit) (past : List Event) : Prop where
  life : u.isAllocated → lifeOf u.buffer past = some u.state
  state : u.inFlight → u.state = .executable
  submitted : u.inFlight → LastSubmitted u.device.handle u.buffer u.fence past

/-- A unit with nothing in flight tracks its buffer when the state is right. -/
theorem tracks_of_idle (hflight : v.inFlight = false)
    (hlife : v.isAllocated → lifeOf v.buffer past = some v.state) : Tracks v past where
  life := hlife
  state h := by simp [hflight] at h
  submitted h := by simp [hflight] at h

theorem tracks_ofPool (pool : WorkPool) (queue : QueueHandle) (past : List Event) :
    Tracks (ofPool pool queue) past := tracks_of_idle rfl nofun

theorem tracks_retired (u : WorkUnit) (past : List Event) : Tracks u.retired past :=
  tracks_of_idle rfl nofun

theorem Tracks.inFlight_eq_false (h : Tracks u past) (hstate : u.state ≠ .executable) :
    u.inFlight = false := by
  by_contra hflight
  exact hstate (h.state (by simpa using hflight))

/-- Events that neither submit nor move the buffer leave a unit on its track. -/
theorem Tracks.append (h : Tracks u past) (hquiet : ∀ e ∈ events, e.isSubmission = false)
    (hlife : u.isAllocated →
      events.foldl (Event.advance u.buffer) (lifeOf u.buffer past) = lifeOf u.buffer past) :
    Tracks u (past ++ events) where
  life halloc := by rw [lifeOf_append, hlife halloc, h.life halloc]
  state := h.state
  submitted hflight := (h.submitted hflight).append hquiet

/-- A unit without a buffer tracks nothing that a command could move. -/
theorem Tracks.append_of_unallocated (h : Tracks u past) (halloc : u.isAllocated = false)
    (hquiet : ∀ e ∈ events, e.isSubmission = false) : Tracks u (past ++ events) :=
  h.append hquiet fun halloc' => by simp [halloc] at halloc'

/-- After the signal of a unit's fence its buffer may be reset. -/
theorem Tracks.signaled (h : Tracks u past) (hflight : u.inFlight) (time : UInt64) :
    Signaled u.device.handle u.buffer
      (past ++ [.answered (.waitFence u.device.handle u.fence time) (.ok ())]) :=
  ⟨u.fence, time, past, rfl, h.submitted hflight⟩

/-- A reset of the buffer follows the signal of the unit's fence. -/
theorem Tracks.follows_reset (h : Tracks u past) (halloc : u.isAllocated) (hflight : u.inFlight)
    (time : UInt64) (reply : Reply Unit) :
    (Event.answered (.resetBuffer u.device.handle u.buffer) reply).Follows
      (past ++ [.answered (.waitFence u.device.handle u.fence time) (.ok ())]) := by
  refine ⟨?_, h.signaled hflight time⟩
  rw [lifeOf_append, h.life halloc, h.state hflight]
  rfl

/-- Every turn of a unit on its track follows the life of the buffer and leaves the unit on its
track. -/
theorem tracks_keptByTurns :
    KeptByTurns (Monitor.history fun past e => e.Follows past) Tracks := by
  intro u events v past hturn h _
  rw [Monitor.after_history, Monitor.history_permits]
  cases hturn with
  | allocationFailed hpool halloc =>
    exact ⟨⟨trivial, trivial⟩, h.append_of_unallocated halloc (by simp [Event.isSubmission])⟩
  | fenceFailed hpool halloc =>
    refine ⟨⟨trivial, trivial, trivial, trivial⟩, h.append_of_unallocated halloc ?_⟩
    simp [Event.isSubmission]
  | allocated hpool halloc =>
    refine ⟨⟨trivial, trivial, trivial⟩, tracks_of_idle rfl fun _ => ?_⟩
    simp [Event.advance]
  | beginFailed halloc hstate =>
    have hlife := h.life halloc
    rw [hstate] at hlife
    exact ⟨⟨hlife, trivial⟩, h.append (by simp [Event.isSubmission]) fun _ => rfl⟩
  | begun halloc hstate =>
    have hlife := h.life halloc
    rw [hstate] at hlife
    refine ⟨⟨hlife, trivial, trivial⟩, tracks_of_idle (h.inFlight_eq_false ?_) fun _ => ?_⟩
    · simp [hstate]
    · simp [Event.advance]
  | endFailed halloc hstate =>
    have hlife := h.life halloc
    rw [hstate] at hlife
    exact ⟨⟨hlife, trivial⟩, h.append (by simp [Event.isSubmission]) fun _ => rfl⟩
  | ended halloc hstate =>
    have hlife := h.life halloc
    rw [hstate] at hlife
    refine ⟨⟨hlife, trivial, trivial⟩, tracks_of_idle (h.inFlight_eq_false ?_) fun _ => ?_⟩
    · simp [hstate]
    · simp [Event.advance]
  | fenceResetFailed halloc hstate hflight =>
    exact ⟨⟨trivial, trivial⟩, h.append (by simp [Event.isSubmission]) fun _ => rfl⟩
  | submitFailed halloc hstate hflight =>
    have hlife := h.life halloc
    rw [hstate] at hlife
    refine ⟨⟨trivial, ?_, trivial⟩, h.append (by simp [Event.isSubmission]) fun _ => rfl⟩
    exact lifeOf_append.trans hlife
  | submitted halloc hstate hflight =>
    have hlife := h.life halloc
    refine ⟨⟨trivial, lifeOf_append.trans (hstate ▸ hlife), trivial⟩, ?_, fun _ => hstate, ?_⟩
    · intro _
      exact lifeOf_append.trans hlife
    · intro _
      exact ⟨past ++ [.answered (.resetFence u.device.handle u.fence) (.ok ())], u.queue, [],
        by simp, by simp⟩
  | waitFailed halloc hflight =>
    exact ⟨⟨trivial, trivial⟩, h.append (by simp [Event.isSubmission]) fun _ => rfl⟩
  | timedOut halloc hflight =>
    exact ⟨⟨trivial, trivial, trivial⟩, h.append (by simp [Event.isSubmission]) fun _ => rfl⟩
  | resetFailed halloc hflight =>
    refine ⟨⟨trivial, h.follows_reset halloc hflight _ _, trivial⟩, tracks_of_idle rfl fun _ => ?_⟩
    exact lifeOf_append.trans (h.life halloc)
  | settled halloc hflight =>
    refine ⟨⟨trivial, h.follows_reset halloc hflight _ _, trivial, trivial⟩,
      tracks_of_idle rfl fun _ => ?_⟩
    simp [Event.advance]

/-- A retirement only releases, and ends what is tracked. -/
theorem tracks_retireUnit {remaining : List Holder} :
    (Monitor.history fun past e => e.Follows past).Meets (retireUnit remaining u) past Tracks := by
  have honly : (retireUnit remaining u).Only fun c => c.isTeardown :=
    only_retireUnit (fun _ h _ => h) fun _ _ _ h _ => h
  have hfollows := honly.meets (m := .history fun past e => e.Follows past) (s := past)
    (I := fun _ => True) trivial
    (fun _ _ answer _ hc => ⟨Command.follows_of_isTeardown hc answer, trivial⟩)
    fun _ _ _ => ⟨trivial, trivial⟩
  apply (hfollows.with_result fun _ _ => runs_retireUnit).mono
  rintro v t ⟨rfl, -⟩
  exact tracks_retired u t

/-- While a unit has a buffer, its state is that of the buffer as the successful commands have moved
it. A recording begins in an initial buffer and ends in one that records; a submission is of an
executable one, and so is a reset, which comes right after the signal of the latest submission. -/
theorem state_eq_lifeOf {pool : WorkPool} {queue : QueueHandle} {actions : List Action}
    {results : List (Except Error Unit)}
    (hrun : ((ofPool pool queue).run actions).Runs events (results, v)) :
    (v.isAllocated → lifeOf v.buffer events = some v.state) ∧
      ∀ before e rest, events = before ++ e :: rest → e.Follows before := by
  have hmeets : (Monitor.history fun past e => e.Follows past).Meets
      ((ofPool pool queue).run actions) [] fun r t => Tracks r.2 t :=
    tracks_keptByTurns.run_meets (fun _ _ _ _ _ => tracks_retireUnit) (tracks_ofPool pool queue [])
  obtain ⟨hfollows, htracks⟩ := hmeets.of_history hrun
  exact ⟨htracks.life, hfollows⟩

/-- In the second of two rounds, the reset of the buffer finds it executable. -/
theorem executable_before_second_reset :
    lifeOf ⟨4⟩ ((sampleEvents (fun _ => false) twoRounds).take 18) = some .executable := by
  have hruns := Program.runs_runWith (.numbering fun _ => false)
    ((ofPool samplePool ⟨3⟩).run twoRounds) 4
  obtain ⟨-, hfollows⟩ := state_eq_lifeOf hruns
  exact (hfollows ((sampleEvents (fun _ => false) twoRounds).take 18)
    (.answered (.resetBuffer ⟨1⟩ ⟨4⟩) (.ok ())) ((sampleEvents (fun _ => false) twoRounds).drop 19)
    rfl).1

end WorkUnit

end VulkanExec
