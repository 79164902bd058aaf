import Mathlib.Data.List.DropRight
import VulkanExec.Proofs.Numbering
import VulkanExec.Proofs.Release

/-!
# Submissions of one recording

A recording is begun for a single submission, so between two submissions the buffer has to be reset
and recorded again. The one way around it: when the reset after a submission fails, the unit stays
executable with nothing in flight, and the same recording can be submitted once more.

## Main definitions

- `Event.submits`, `Event.resets`, `Event.failsToReset`, `Event.begins`: what happens to a buffer;
- `eventsSince`: the events after the latest one of a kind;
- `Rerecorded`: a reset of a buffer, and a recording begun after it;
- `WorkUnit.Cycle`: where a unit stands after a submission.

The main statement, `rerecorded_iff_no_reset_failed`, is about any two submissions in a row.
-/

namespace VulkanExec

namespace Event

/-- The event is a successful submission of a buffer. -/
def submits (buffer : BufferHandle) : Event → Bool
  | answered (.submit _ _ b _) (.ok _) => b = buffer
  | _ => false

/-- The event is a successful reset of a buffer. -/
def resets (buffer : BufferHandle) : Event → Bool
  | answered (.resetBuffer _ b) (.ok _) => b = buffer
  | _ => false

/-- The event is a reset of a buffer that the driver refused. -/
def failsToReset (buffer : BufferHandle) : Event → Bool
  | answered (.resetBuffer _ b) (.error _) => b = buffer
  | _ => false

/-- The event is the successful begin of a recording into a buffer. -/
def begins (buffer : BufferHandle) : Event → Bool
  | answered (.beginBuffer _ b _) (.ok _) => b = buffer
  | _ => false

/-- A begin, whether it succeeds or not, is for a single submission. -/
def beginsForOneSubmission : Event → Bool
  | answered (.beginBuffer _ _ usage) _ => usage = oneTimeSubmit
  | _ => true

@[simp] theorem submits_noted (buffer : BufferHandle) (n : Note) :
    (noted n).submits buffer = false := rfl

end Event

/-! ## Events since the latest submission -/

section Since

variable {p : Event → Bool} {past events : List Event} {e : Event}

/-- The events after the latest one that satisfies `p`; all events if none does. -/
def eventsSince (p : Event → Bool) (events : List Event) : List Event :=
  events.rtakeWhile (!p ·)

theorem eventsSince_append_of_forall (h : ∀ e ∈ events, p e = false) :
    eventsSince p (past ++ events) = eventsSince p past ++ events := by
  induction events using List.reverseRecOn with
  | nil => simp
  | append_singleton events e ih =>
    have hrest : ∀ e ∈ events, p e = false := fun e he => h e (by simp [he])
    rw [← List.append_assoc, eventsSince, List.rtakeWhile_concat_pos _ _ _ (by simp [h e]),
      ← eventsSince, ih hrest, List.append_assoc]

theorem eventsSince_append_singleton (h : p e) : eventsSince p (past ++ [e]) = [] := by
  rw [eventsSince, List.rtakeWhile_concat_neg _ _ _ (by simp [h])]

/-- After an event of the kind and others that are not, the others are what came since. -/
theorem eventsSince_append_cons (h : p e) (hrest : ∀ e ∈ events, p e = false) :
    eventsSince p (past ++ e :: events) = events := by
  have hsplit : past ++ e :: events = (past ++ [e]) ++ events := by simp
  rw [hsplit, eventsSince_append_of_forall hrest, eventsSince_append_singleton h, List.nil_append]

theorem eventsSince_congr {q : Event → Bool} (h : ∀ e ∈ events, p e = q e) :
    eventsSince p events = eventsSince q events := by
  induction events using List.reverseRecOn with
  | nil => rfl
  | append_singleton events e ih =>
    have hrest : ∀ e ∈ events, p e = q e := fun e he => h e (by simp [he])
    have hlast : p e = q e := h e (by simp)
    rw [eventsSince, eventsSince, List.rtakeWhile_concat, List.rtakeWhile_concat, hlast,
      ← eventsSince, ← eventsSince, ih hrest]

end Since

/-- A reset of the buffer, and a recording begun after it. -/
def Rerecorded (buffer : BufferHandle) (events : List Event) : Prop :=
  ∃ before reset between start rest, events = before ++ reset :: between ++ start :: rest ∧
    reset.resets buffer ∧ start.begins buffer

section Rerecorded

variable {buffer : BufferHandle} {first second : List Event}

theorem Rerecorded.append (h : Rerecorded buffer first) : Rerecorded buffer (first ++ second) := by
  obtain ⟨before, reset, between, start, rest, rfl, hreset, hstart⟩ := h
  exact ⟨before, reset, between, start, rest ++ second, by simp, hreset, hstart⟩

theorem rerecorded_append (hfirst : first.any (·.resets buffer))
    (hsecond : second.any (·.begins buffer)) : Rerecorded buffer (first ++ second) := by
  obtain ⟨reset, hm, hreset⟩ := List.any_eq_true.1 hfirst
  obtain ⟨start, hm', hstart⟩ := List.any_eq_true.1 hsecond
  obtain ⟨before, between, rfl⟩ := List.append_of_mem hm
  obtain ⟨between', rest, rfl⟩ := List.append_of_mem hm'
  exact ⟨before, reset, between ++ between', start, rest, by simp, hreset, hstart⟩

theorem Rerecorded.any_resets (h : Rerecorded buffer first) : first.any (·.resets buffer) := by
  obtain ⟨before, reset, between, start, rest, rfl, hreset, -⟩ := h
  simp [hreset]

end Rerecorded

namespace WorkUnit

/-! ## After a submission -/

/-- Where a unit stands after a submission of its buffer, given what has happened since. -/
inductive Cycle (buffer : BufferHandle) (u : WorkUnit) (since : List Event) : Prop where
  /-- The submission is in flight. -/
  | pending (hflight : u.inFlight) (hstate : u.state = .executable)
      (hreset : since.any (·.resets buffer) = false)
      (hfailed : since.any (·.failsToReset buffer) = false)
  /-- The submission is done, and the reset after it failed. -/
  | stuck (hflight : u.inFlight = false) (hstate : u.state = .executable)
      (hreset : since.any (·.resets buffer) = false)
      (hfailed : since.any (·.failsToReset buffer))
  /-- The buffer was reset and is empty. -/
  | cleared (hflight : u.inFlight = false) (hstate : u.state = .initial)
      (hreset : since.any (·.resets buffer))
      (hfailed : since.any (·.failsToReset buffer) = false)
  /-- The buffer was reset, and a recording was begun. -/
  | rerecorded (hflight : u.inFlight = false) (hstart : Rerecorded buffer since)
      (hfailed : since.any (·.failsToReset buffer) = false)

variable {buffer : BufferHandle} {u v : WorkUnit} {since past events : List Event}

/-- Events without a reset leave a unit where it stands. -/
theorem Cycle.append (h : Cycle buffer u since) (hreset : events.any (·.resets buffer) = false)
    (hfailed : events.any (·.failsToReset buffer) = false) : Cycle buffer u (since ++ events) := by
  cases h with
  | pending hflight hstate hr hf => exact .pending hflight hstate (by grind) (by grind)
  | stuck hflight hstate hr hf => exact .stuck hflight hstate (by grind) (by grind)
  | cleared hflight hstate hr hf => exact .cleared hflight hstate (by grind) (by grind)
  | rerecorded hflight hstart hf => exact .rerecorded hflight hstart.append (by grind)

/-- A recording begins in a cleared buffer. -/
theorem Cycle.begun (h : Cycle buffer u since) (hstate : u.state = .initial)
    (hstart : events.any (·.begins buffer)) (hfailed : events.any (·.failsToReset buffer) = false) :
    Cycle buffer { u with state := .recording } (since ++ events) := by
  cases h with
  | pending _ hstate' => simp [hstate] at hstate'
  | stuck _ hstate' => simp [hstate] at hstate'
  | cleared hflight _ hreset hf =>
    exact .rerecorded hflight (rerecorded_append hreset hstart) (by grind)
  | rerecorded hflight hstart' hf => exact .rerecorded hflight hstart'.append (by grind)

/-- The end of a recording leaves a buffer recorded again. -/
theorem Cycle.ended (h : Cycle buffer u since) (hstate : u.state = .recording)
    (hfailed : events.any (·.failsToReset buffer) = false) :
    Cycle buffer { u with state := .executable } (since ++ events) := by
  cases h with
  | pending _ hstate' => simp [hstate] at hstate'
  | stuck _ hstate' => simp [hstate] at hstate'
  | cleared _ hstate' => simp [hstate] at hstate'
  | rerecorded hflight hstart hf => exact .rerecorded hflight hstart.append (by grind)

/-- A reset that fails after the signal leaves the unit stuck. -/
theorem Cycle.resetFailed (h : Cycle buffer u since) (hflight : u.inFlight)
    (hreset : events.any (·.resets buffer) = false)
    (hfailed : events.any (·.failsToReset buffer)) :
    Cycle buffer { u with inFlight := false } (since ++ events) := by
  cases h with
  | pending _ hstate hr hf => exact .stuck rfl hstate (by grind) (by grind)
  | stuck hflight' => simp [hflight] at hflight'
  | cleared hflight' => simp [hflight] at hflight'
  | rerecorded hflight' => simp [hflight] at hflight'

/-- A reset after the signal clears the buffer. -/
theorem Cycle.settled (h : Cycle buffer u since) (hflight : u.inFlight)
    (hreset : events.any (·.resets buffer))
    (hfailed : events.any (·.failsToReset buffer) = false) :
    Cycle buffer { u with inFlight := false, state := .initial } (since ++ events) := by
  cases h with
  | pending _ hstate hr hf => exact .cleared rfl rfl (by grind) (by grind)
  | stuck hflight' => simp [hflight] at hflight'
  | cleared hflight' => simp [hflight] at hflight'
  | rerecorded hflight' => simp [hflight] at hflight'

/-- When a unit can submit, the buffer was recorded again unless the last reset failed. -/
theorem Cycle.rerecorded_iff (h : Cycle buffer u since) (hflight : u.inFlight = false)
    (hstate : u.state = .executable) :
    Rerecorded buffer since ↔ since.any (·.failsToReset buffer) = false := by
  cases h with
  | pending hflight' => simp [hflight] at hflight'
  | stuck _ _ hreset hfailed =>
    have hnot : ¬ Rerecorded buffer since := fun h => by simp [h.any_resets] at hreset
    simp [hnot, hfailed]
  | cleared _ hstate' => simp [hstate] at hstate'
  | rerecorded _ hstart hfailed => simp [hstart, hfailed]

/-- What is owed at an event: begins are for one submission, and a submission that is not the first
is of a new recording unless the reset since the last one failed. -/
def OnceRecorded (buffer : BufferHandle) (past : List Event) (e : Event) : Prop :=
  e.beginsForOneSubmission ∧
    (e.submits buffer → past.any (·.submits buffer) →
      (Rerecorded buffer (eventsSince (·.submits buffer) past) ↔
        (eventsSince (·.submits buffer) past).any (·.failsToReset buffer) = false))

/-- The state of a unit after a history: once its buffer has been submitted it is in a cycle, or
retired. -/
def Recorded (buffer : BufferHandle) (u : WorkUnit) (past : List Event) : Prop :=
  past.any (·.submits buffer) →
    (u.pool = none ∧ u.isAllocated = false) ∨
      (u.isAllocated ∧ u.buffer = buffer ∧ Cycle buffer u (eventsSince (·.submits buffer) past))

theorem along_onceRecorded_of_quiet (hquiet : events.any (·.submits buffer) = false)
    (hbegins : events.all Event.beginsForOneSubmission) :
    (Monitor.history (OnceRecorded buffer)).Along (OnceRecorded buffer) past events := by
  rw [Monitor.along_iff]
  rintro before e rest rfl
  have hbegin : e.beginsForOneSubmission := by grind
  have hsubmit : e.submits buffer = false := by grind
  exact ⟨hbegin, fun h => by simp [hsubmit] at h⟩

/-- A turn without a submission leaves a unit recorded when it keeps the unit's buffer and leads
from a cycle to a cycle. -/
theorem Recorded.append (h : Recorded buffer u past)
    (hquiet : events.any (·.submits buffer) = false) (halloc : u.isAllocated)
    (hbuffer : v.buffer = u.buffer)
    (hcycle : ∀ since, u.buffer = buffer → Cycle buffer u since →
      Cycle buffer v (since ++ events)) :
    Recorded buffer v (past ++ events) := by
  intro hany
  have hpast : past.any (·.submits buffer) := by
    simpa only [List.any_append, hquiet, Bool.or_false] using hany
  have hsince : eventsSince (·.submits buffer) (past ++ events) =
      eventsSince (·.submits buffer) past ++ events :=
    eventsSince_append_of_forall (by simpa using hquiet)
  have halloc' : v.isAllocated := by simpa [isAllocated, hbuffer] using halloc
  rcases h hpast with ⟨-, hnot⟩ | ⟨-, hb, hc⟩
  · simp [halloc] at hnot
  · rw [hsince]
    exact .inr ⟨halloc', hbuffer.trans hb, hcycle _ hb hc⟩

/-- A unit without a buffer that can still get one has never submitted any. -/
theorem Recorded.append_of_pool (h : Recorded buffer u past) {raw : RawPool}
    (hpool : u.pool = some raw) (halloc : u.isAllocated = false)
    (hquiet : events.any (·.submits buffer) = false) : Recorded buffer v (past ++ events) := by
  intro hany
  rw [List.any_append, hquiet, Bool.or_false] at hany
  rcases h hany with ⟨hnone, -⟩ | ⟨hnot, -⟩
  · simp [hpool] at hnone
  · simp [halloc] at hnot

/-- A submission by a recorded unit is of a new recording unless the last reset failed. -/
theorem Recorded.onceRecorded (h : Recorded buffer u past) (halloc : u.isAllocated)
    (hstate : u.state = .executable) (hflight : u.inFlight = false)
    (hquiet : events.any (·.submits buffer) = false)
    (hreset : events.any (·.resets buffer) = false)
    (hfailed : events.any (·.failsToReset buffer) = false) {e : Event}
    (hbegins : e.beginsForOneSubmission) : OnceRecorded buffer (past ++ events) e := by
  refine ⟨hbegins, ?_⟩
  intro _ hany
  have hpast : past.any (·.submits buffer) := by grind
  rcases h hpast with ⟨-, hnot⟩ | ⟨-, -, hc⟩
  · simp [halloc] at hnot
  · rw [eventsSince_append_of_forall (by simpa using hquiet)]
    exact (hc.append hreset hfailed).rerecorded_iff hflight hstate

/-- A submission, and the reset of the fence before it. -/
theorem Recorded.submit (h : Recorded buffer u past) (halloc : u.isAllocated)
    (hstate : u.state = .executable) (hflight : u.inFlight = false) {fenceReset submission : Event}
    (hreset : fenceReset.beginsForOneSubmission) (hquiet : fenceReset.submits buffer = false)
    (hfailed : fenceReset.failsToReset buffer = false) (hother : fenceReset.resets buffer = false)
    (hbegins : submission.beginsForOneSubmission)
    (hsubmits : submission.submits buffer = decide (u.buffer = buffer)) :
    (Monitor.history (OnceRecorded buffer)).Along (OnceRecorded buffer) past
        [fenceReset, submission] ∧
      Recorded buffer { u with inFlight := true } (past ++ [fenceReset, submission]) := by
  constructor
  · refine ⟨⟨hreset, fun hs => by simp [hquiet] at hs⟩, ?_, trivial⟩
    exact h.onceRecorded halloc hstate hflight (by simpa using hquiet) (by simpa using hother)
      (by simpa using hfailed) hbegins
  · by_cases hb : u.buffer = buffer
    · -- The cycle begins with this submission, so nothing has happened since.
      intro _
      refine .inr ⟨halloc, hb, ?_⟩
      have hsplit : past ++ [fenceReset, submission] = past ++ [fenceReset] ++ [submission] := by
        simp
      rw [hsplit, eventsSince_append_singleton (by simpa [hb] using hsubmits)]
      exact .pending rfl hstate rfl rfl
    · have hnone : [fenceReset, submission].any (·.submits buffer) = false := by
        simp [hquiet, hsubmits, hb]
      refine h.append hnone halloc rfl ?_
      intro _ hb'
      exact absurd hb' hb

/-- Turns lead from recorded units to recorded units, and submit once what was recorded once. -/
theorem recorded_keptByTurns :
    KeptByTurns (Monitor.history (OnceRecorded buffer)) (Recorded buffer) := by
  intro u events v past hturn hinv _
  rw [Monitor.after_history, Monitor.history_permits]
  cases hturn with
  | allocationFailed hpool halloc | fenceFailed hpool halloc | allocated hpool halloc =>
    exact ⟨along_onceRecorded_of_quiet rfl rfl, hinv.append_of_pool hpool halloc rfl⟩
  | beginFailed halloc hstate | endFailed halloc hstate | fenceResetFailed halloc hstate hflight
  | submitFailed halloc hstate hflight | waitFailed halloc hflight | timedOut halloc hflight =>
    refine ⟨along_onceRecorded_of_quiet rfl rfl, hinv.append rfl halloc rfl ?_⟩
    intro since hb hc
    exact hc.append rfl rfl
  | begun halloc hstate =>
    refine ⟨along_onceRecorded_of_quiet rfl rfl, hinv.append rfl halloc rfl ?_⟩
    intro since hb hc
    exact hc.begun hstate (by simp [Event.begins, hb]) rfl
  | ended halloc hstate =>
    refine ⟨along_onceRecorded_of_quiet rfl rfl, hinv.append rfl halloc rfl ?_⟩
    intro since hb hc
    exact hc.ended hstate rfl
  | submitted halloc hstate hflight =>
    exact hinv.submit halloc hstate hflight rfl rfl rfl rfl rfl rfl
  | resetFailed halloc hflight =>
    refine ⟨along_onceRecorded_of_quiet rfl rfl, hinv.append rfl halloc rfl ?_⟩
    intro since hb hc
    exact hc.resetFailed hflight rfl (by simp [Event.failsToReset, hb])
  | settled halloc hflight =>
    refine ⟨along_onceRecorded_of_quiet rfl rfl, hinv.append rfl halloc rfl ?_⟩
    intro since hb hc
    exact hc.settled hflight (by simp [Event.resets, hb]) rfl

theorem recorded_retireUnit {remaining : List Holder} :
    (Monitor.history (OnceRecorded buffer)).Meets (retireUnit remaining u) past
      (Recorded buffer) := by
  have honly : (retireUnit remaining u).Only fun c => c.isTeardown :=
    only_retireUnit (fun _ h _ => h) fun _ _ _ h _ => h
  have hsame := honly.meets (m := .history (OnceRecorded buffer))
    (I := fun t => t.any (·.submits buffer) = past.any (·.submits buffer)) rfl ?_ ?_
  · apply (hsame.with_result fun _ _ => runs_retireUnit).mono
    intro v t h _
    obtain ⟨rfl, -⟩ := h
    exact .inl ⟨rfl, rfl⟩
  · intro t c answer ht hc
    have hquiet : (Event.answered c answer).submits buffer = false := by
      cases c <;> first | rfl | simp [Command.isTeardown] at hc
    have hbegins : (Event.answered c answer).beginsForOneSubmission := by
      cases c <;> first | rfl | simp [Command.isTeardown] at hc
    exact ⟨⟨hbegins, fun hs => by simp [hquiet] at hs⟩, by simp [hquiet, ht]⟩
  · intro t n ht
    exact ⟨⟨rfl, fun hs => by simp at hs⟩, by simp [ht]⟩

/-! ## Two submissions in a row -/

/-- Of any two submissions of a buffer in a row, the second is of a new recording exactly when no
reset of the buffer failed in between. Every recording is begun for one submission. -/
theorem rerecorded_iff_no_reset_failed {actions : List Action} {events : List Event}
    {results : List (Except Error Unit)} (h : (u.run actions).Runs events (results, v))
    (buffer : BufferHandle) :
    (∀ e ∈ events, e.beginsForOneSubmission) ∧
      ∀ before first between second rest,
        events = before ++ first :: between ++ second :: rest →
        first.submits buffer → second.submits buffer →
        (∀ e ∈ between, e.submits buffer = false) →
        (Rerecorded buffer between ↔ ∀ e ∈ between, e.failsToReset buffer = false) := by
  have hmeets : (Monitor.history (OnceRecorded buffer)).Meets (u.run actions) [] fun r t =>
      Recorded buffer r.2 t :=
    recorded_keptByTurns.run_meets (fun _ _ _ _ _ => recorded_retireUnit)
      fun hany => by simp at hany
  obtain ⟨hevents, -⟩ := hmeets.of_history h
  constructor
  · intro e he
    obtain ⟨before, rest, rfl⟩ := List.append_of_mem he
    exact (hevents before e rest rfl).1
  · intro before first between second rest he hfirst hsecond hbetween
    have honce := (hevents (before ++ first :: between) second rest he).2 hsecond
      (List.any_eq_true.2 ⟨first, by simp, hfirst⟩)
    rw [eventsSince_append_cons hfirst hbetween] at honce
    simpa using honce

/-- The pool 2 of the device 1, which is the caller's own. -/
def samplePool : WorkPool := ⟨⟨0, ⟨1⟩, none⟩, some ⟨1, ⟨0, ⟨1⟩, none⟩, ⟨2⟩⟩, 0⟩

/-- The events of a unit on the sample pool and the queue 3. The driver gives the unit's buffer the
handle 4 and its fence the handle 5. -/
def sampleEvents (refuses : Command → Bool) (actions : List Action) : List Event :=
  (((ofPool samplePool ⟨3⟩).run actions).runWith (.numbering refuses) 4).2.1

/-- The submission of the sample unit. -/
def sampleSubmission : Event := .answered (.submit ⟨1⟩ ⟨3⟩ ⟨4⟩ ⟨5⟩) (.ok ())

/-- A unit goes through two rounds. -/
def twoRounds : List Action :=
  [.allocate, .record, .finish, .submit 10, .record, .finish, .submit 10]

theorem rerecorded_between_two_rounds :
    Rerecorded ⟨4⟩ (((sampleEvents (fun _ => false) twoRounds).drop 8).take 8) := by
  have hruns := Program.runs_runWith (.numbering fun _ => false)
    ((ofPool samplePool ⟨3⟩).run twoRounds) 4
  obtain ⟨-, hrounds⟩ := rerecorded_iff_no_reset_failed hruns ⟨4⟩
  have hbetween := hrounds ((sampleEvents (fun _ => false) twoRounds).take 7) sampleSubmission
    (((sampleEvents (fun _ => false) twoRounds).drop 8).take 8) sampleSubmission
    ((sampleEvents (fun _ => false) twoRounds).drop 17) rfl rfl rfl (by decide)
  exact hbetween.2 (by decide)

/-- When the driver refuses to reset the buffer, a unit submits the same recording twice. -/
theorem not_always_rerecorded :
    ¬ ∀ (pool : WorkPool) (queue : QueueHandle) (actions : List Action) (events : List Event)
      (results : List (Except Error Unit)) (v : WorkUnit) (buffer : BufferHandle),
      ((ofPool pool queue).run actions).Runs events (results, v) →
      ∀ before first between second rest,
        events = before ++ first :: between ++ second :: rest →
        first.submits buffer → second.submits buffer → Rerecorded buffer between := by
  intro hclaim
  let refuses : Command → Bool := fun c => c matches .resetBuffer ..
  let actions : List Action := [.allocate, .record, .finish, .submit 10, .submit 10]
  have hruns := Program.runs_runWith (.numbering refuses) ((ofPool samplePool ⟨3⟩).run actions) 4
  -- Between the submissions: the wait, the refused reset, and the next reset of the fence.
  have hagain := hclaim samplePool ⟨3⟩ actions _ _ _ ⟨4⟩ hruns
    ((sampleEvents refuses actions).take 7) sampleSubmission
    (((sampleEvents refuses actions).drop 8).take 3) sampleSubmission
    ((sampleEvents refuses actions).drop 12) rfl rfl rfl
  exact absurd hagain.any_resets (by decide)

end WorkUnit

end VulkanExec
