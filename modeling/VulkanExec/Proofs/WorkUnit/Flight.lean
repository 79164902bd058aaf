import VulkanExec.Proofs.WorkUnit.Submission

/-!
# The submission in flight

A unit has at most one submission in flight. How many there are is counted over the whole history
of its commands: the submissions that succeeded, less the waits that did. The commands are counted
here whatever they name; that they name the unit's own handles is another matter.

## Main definitions

- `Event.isSubmission`, `Event.isSignal`: what begins and ends a flight;
- `Pending`: there is one submission more than there are signals;
- `Settled`: what is pending was waited for by an idle device;
- `WorkUnit.Alive`: a unit that knows what is pending, up to its retirement.

The main statements are `alive_of_run`, for a unit before its retirement, and `settled_of_life`, for
the whole life of a unit with its drop.
-/

namespace VulkanExec

namespace Event

/-- The event is a successful submission, of whatever buffer. -/
def isSubmission : Event → Bool
  | answered (.submit ..) (.ok _) => true
  | _ => false

/-- The event is a wait for some fence that found it signaled. -/
def isSignal : Event → Bool
  | answered (.waitFence ..) (.ok _) => true
  | _ => false

/-- The event is a command on some buffer or fence, which must not be in use then. -/
def isWork : Event → Bool
  | answered (.resetFence ..) _ | answered (.submit ..) _ | answered (.beginBuffer ..) _
  | answered (.endBuffer ..) _ | answered (.resetBuffer ..) _ => true
  | _ => false

/-- The event is the end of some buffer or fence. -/
def isRelease : Event → Bool
  | answered (.destroyFence ..) _ | answered (.freeBuffer ..) _ => true
  | _ => false

/-- The event is a wait for a device to have nothing to do, whatever the driver says to it. -/
def isDrain (d : DeviceHandle) : Event → Bool
  | answered (.waitIdle d') _ => d' = d
  | _ => false

end Event

/-- The number of successful submissions. -/
def submissions (events : List Event) : Nat := events.countP Event.isSubmission

/-- The number of waits that found a fence signaled. -/
def signals (events : List Event) : Nat := events.countP Event.isSignal

/-- One submission is not known to be done. -/
def Pending (past : List Event) : Prop := submissions past = signals past + 1

/-- What is owed at an event: the submissions not known to be done are none or one, and while there
is one, its buffer and its fence are left alone until the device was waited for. -/
structure OneInFlight (d : DeviceHandle) (past : List Event) (e : Event) : Prop where
  bounds : signals past ≤ submissions past ∧ submissions past ≤ signals past + 1
  atRest : Pending past → e.isWork = false
  drained : Pending past → e.isRelease →
    (eventsSince Event.isSubmission past).any (Event.isDrain d)

/-- What is pending, if anything is, was waited for by an idle device. -/
structure Settled (d : DeviceHandle) (past : List Event) : Prop where
  bounds : signals past ≤ submissions past ∧ submissions past ≤ signals past + 1
  drained : Pending past → (eventsSince Event.isSubmission past).any (Event.isDrain d)

section Counts

variable {d : DeviceHandle} {past events : List Event} {e : Event}

@[simp] theorem submissions_append :
    submissions (past ++ events) = submissions past + submissions events :=
  List.countP_append ..

@[simp] theorem signals_append : signals (past ++ events) = signals past + signals events :=
  List.countP_append ..

/-- When nothing is pending, every event is permitted. -/
theorem oneInFlight_of_eq (h : submissions past = signals past) : OneInFlight d past e := by
  have hnot : ¬ Pending past := by
    rw [Pending]
    omega
  constructor
  · omega
  · intro hp
    exact absurd hp hnot
  · intro hp
    exact absurd hp hnot

/-- While something is pending, every event that leaves the buffer and the fence alone is
permitted. -/
theorem oneInFlight_of_calm (h : Pending past) (hwork : e.isWork = false)
    (hrelease : e.isRelease = false) : OneInFlight d past e := by
  constructor
  · rw [Pending] at h
    omega
  · intro _
    exact hwork
  · intro _ h
    simp [hrelease] at h

theorem settled_of_eq (h : submissions past = signals past) : Settled d past := by
  constructor
  · omega
  · intro hp
    rw [Pending] at hp
    omega

/-- Releases keep what is settled settled. -/
theorem Settled.meets {α : Type} {p : Program α} (h : Settled d past)
    (hp : p.Only fun c => c.isTeardown) :
    (Monitor.history (OneInFlight d)).Meets p past fun _ t => Settled d t := by
  have hquiet : ∀ t e, Settled d t → e.isSubmission = false → e.isSignal = false →
      Settled d (t ++ [e]) := by
    intro t e ht hsubmission hsignal
    have hcounts : submissions [e] = 0 ∧ signals [e] = 0 := by
      simp [submissions, signals, hsubmission, hsignal]
    constructor
    · simpa [hcounts] using ht.bounds
    · intro hpending
      have hany := ht.drained (by simpa [Pending, hcounts] using hpending)
      rw [eventsSince_append_of_forall (by simpa using hsubmission), List.any_append, hany]
      rfl
  refine hp.meets h ?_ ?_
  · intro t c answer ht hc
    have hwork : (Event.answered c answer).isWork = false := by
      cases c <;> first | rfl | simp [Command.isTeardown] at hc
    have hsubmission : (Event.answered c answer).isSubmission = false := by
      cases c <;> first | rfl | simp [Command.isTeardown] at hc
    have hsignal : (Event.answered c answer).isSignal = false := by
      cases c <;> first | rfl | simp [Command.isTeardown] at hc
    refine ⟨⟨ht.bounds, fun _ => hwork, ?_⟩, hquiet t _ ht hsubmission hsignal⟩
    intro hpending _
    exact ht.drained hpending
  · intro t n ht
    refine ⟨⟨ht.bounds, fun _ => rfl, ?_⟩, hquiet t _ ht rfl rfl⟩
    intro hpending _
    exact ht.drained hpending

end Counts

namespace WorkUnit

variable {d : DeviceHandle} {u v : WorkUnit} {past events : List Event}

/-- A unit before its retirement: it is in flight exactly when something is pending, and then it is
allocated and executable. -/
structure Alive (d : DeviceHandle) (u : WorkUnit) (past : List Event) : Prop where
  device : u.device.handle = d
  count : submissions past = signals past + u.inFlight.toNat
  state : u.inFlight → u.state = .executable
  allocated : u.inFlight → u.isAllocated

/-- A unit after its retirement, and what it left behind. -/
structure Retired (d : DeviceHandle) (u : WorkUnit) (past : List Event) : Prop where
  pool : u.pool = none
  allocated : u.isAllocated = false
  inFlight : u.inFlight = false
  settled : Settled d past

theorem alive_ofPool (pool : WorkPool) (queue : QueueHandle) :
    Alive pool.device.handle (ofPool pool queue) [] :=
  ⟨rfl, rfl, by simp [ofPool], by simp [ofPool]⟩

theorem Alive.count_eq (h : Alive d u past) (hflight : u.inFlight = false) :
    submissions past = signals past := by simpa [hflight] using h.count

theorem Alive.pending (h : Alive d u past) (hflight : u.inFlight) : Pending past := by
  simpa [Pending, hflight] using h.count

theorem Alive.inFlight_eq_false (h : Alive d u past) (hstate : u.state ≠ .executable) :
    u.inFlight = false := by
  by_contra hflight
  exact hstate (h.state (by simpa using hflight))

theorem Alive.inFlight_of_unallocated (h : Alive d u past) (halloc : u.isAllocated = false) :
    u.inFlight = false := by
  by_contra hflight
  simp [h.allocated (by simpa using hflight)] at halloc

/-- A stretch without submissions and signals, taken while nothing is in flight. -/
theorem Alive.idle (h : Alive d u past) (hflight : u.inFlight = false)
    (hsubmissions : submissions events = 0) (hsignals : signals events = 0)
    (hdevice : v.device = u.device) (hflight' : v.inFlight = false) :
    (Monitor.history (OneInFlight d)).Along (OneInFlight d) past events ∧
      Alive d v (past ++ events) := by
  have hpast := h.count_eq hflight
  constructor
  · rw [Monitor.along_iff]
    rintro before e rest rfl
    apply oneInFlight_of_eq
    simp only [submissions_append, signals_append, Nat.add_eq_zero_iff] at hsubmissions hsignals
    simp [hsubmissions.1, hsignals.1, hpast]
  · refine ⟨hdevice ▸ h.device, by simp [hsubmissions, hsignals, hpast, hflight'], ?_, ?_⟩
    · simp [hflight']
    · simp [hflight']

/-- A stretch without submissions and signals leaves a unit as it is. -/
theorem Alive.append (h : Alive d u past) (hsubmissions : submissions events = 0)
    (hsignals : signals events = 0) : Alive d u (past ++ events) :=
  ⟨h.device, by simp [hsubmissions, hsignals, h.count], h.state, h.allocated⟩

/-- The signal of the fence, and what follows it without a submission or another signal. -/
theorem Alive.signaled (h : Alive d u past) (hflight : u.inFlight) {time : UInt64}
    (hsubmissions : submissions events = 0) (hsignals : signals events = 0)
    (hdevice : v.device = u.device) (hflight' : v.inFlight = false) :
    (Monitor.history (OneInFlight d)).Along (OneInFlight d) past
        (.answered (.waitFence u.device.handle u.fence time) (.ok ()) :: events) ∧
      Alive d v
        (past ++ .answered (.waitFence u.device.handle u.fence time) (.ok ()) :: events) := by
  have hsignal : Alive d { u with inFlight := false }
      (past ++ [.answered (.waitFence u.device.handle u.fence time) (.ok ())]) := by
    refine ⟨h.device, ?_, by simp, by simp⟩
    rw [submissions_append, signals_append, h.pending hflight]
    rfl
  obtain ⟨halong, hv⟩ := hsignal.idle rfl hsubmissions hsignals hdevice hflight'
  refine ⟨⟨oneInFlight_of_calm (h.pending hflight) rfl rfl, halong⟩, ?_⟩
  simpa using hv

/-- Every turn of a unit that is alive leaves it alive. -/
theorem alive_keptByTurns : KeptByTurns (Monitor.history (OneInFlight d)) (Alive d) := by
  intro u events v past hturn h _
  rw [Monitor.after_history, Monitor.history_permits]
  cases hturn with
  | allocationFailed hpool halloc | fenceFailed hpool halloc =>
    have hflight := h.inFlight_of_unallocated halloc
    exact h.idle hflight rfl rfl rfl hflight
  | allocated hpool halloc =>
    exact h.idle (h.inFlight_of_unallocated halloc) rfl rfl rfl rfl
  | beginFailed halloc hstate | begun halloc hstate | endFailed halloc hstate
  | ended halloc hstate =>
    have hflight : u.inFlight = false := h.inFlight_eq_false (by simp [hstate])
    exact h.idle hflight rfl rfl rfl hflight
  | fenceResetFailed halloc hstate hflight | submitFailed halloc hstate hflight =>
    exact h.idle hflight rfl rfl rfl hflight
  | submitted halloc hstate hflight =>
    have hpast := h.count_eq hflight
    refine ⟨⟨oneInFlight_of_eq hpast, oneInFlight_of_eq ?_, trivial⟩,
      h.device, ?_, fun _ => hstate, fun _ => halloc⟩
    · rw [Monitor.history_step, submissions_append, signals_append, hpast]
      rfl
    · rw [submissions_append, signals_append, hpast]
      rfl
  | waitFailed halloc hflight =>
    have hpending := h.pending hflight
    exact ⟨⟨oneInFlight_of_calm hpending rfl rfl, trivial⟩, h.append rfl rfl⟩
  | timedOut halloc hflight =>
    have hpending := h.pending hflight
    refine ⟨⟨oneInFlight_of_calm hpending rfl rfl, oneInFlight_of_calm ?_ rfl rfl, trivial⟩,
      h.append rfl rfl⟩
    exact (h.append rfl rfl).pending hflight
  | resetFailed halloc hflight => exact h.signaled hflight rfl rfl rfl rfl
  | settled halloc hflight => exact h.signaled hflight rfl rfl rfl rfl

/-- A unit is alive, or it is retired and goes through no turn any more. -/
theorem alive_or_retired_keptByTurns :
    KeptByTurns (Monitor.history (OneInFlight d)) fun u past =>
      Alive d u past ∨ Retired d u past := by
  rintro u events v past hturn (h | h) hexpects
  · obtain ⟨hpermits, hv⟩ := alive_keptByTurns u events v past hturn h hexpects
    exact ⟨hpermits, .inl hv⟩
  · -- A turn needs a buffer, or a pool to get one from.
    have hpool := h.pool
    have halloc := h.allocated
    cases hturn <;> grind

/-! ## Retirement -/

/-- Waiting for the device settles what is pending. -/
theorem settled_drain (h : Pending past) :
    (Monitor.history (OneInFlight d)).Meets (Device.drain d) past fun _ t => Settled d t := by
  apply Monitor.meets_ask
  intro answer _
  refine ⟨oneInFlight_of_calm h rfl rfl, ?_⟩
  have hdrained : Settled d (past ++ [.answered (.waitIdle d) answer]) := by
    constructor
    · rw [submissions_append, signals_append, h]
      exact ⟨Nat.le_succ _, Nat.le_refl _⟩
    · intro _
      rw [eventsSince_append_of_forall (by simp [Event.isSubmission])]
      simp [Event.isDrain]
  cases answer with
  | error code => exact hdrained.meets (p := .log _ _) trivial
  | ok => exact hdrained.meets (p := .done ()) trivial

/-- Before a unit lets go of its buffer and its fence, what is pending is settled. -/
theorem settled_settle (h : Alive d u past ∨ Retired d u past) :
    (Monitor.history (OneInFlight d)).Meets u.settle past fun _ t => Settled d t := by
  unfold settle
  split
  case isTrue hflight =>
    rcases h with h | h
    · have hpending := h.pending hflight
      refine Monitor.meets_log (oneInFlight_of_calm hpending rfl rfl) ?_
      rw [h.device]
      exact settled_drain ((h.append rfl rfl).pending hflight)
    · simp [h.inFlight] at hflight
  case isFalse hflight =>
    rcases h with h | h
    · exact Monitor.meets_done (settled_of_eq (h.count_eq (by simpa using hflight)))
    · exact Monitor.meets_done h.settled

theorem retired_retireUnit {remaining : List Holder} (h : Alive d u past ∨ Retired d u past) :
    (Monitor.history (OneInFlight d)).Meets (retireUnit remaining u) past (Retired d) := by
  have hsettled : (Monitor.history (OneInFlight d)).Meets (retireUnit remaining u) past
      fun _ t => Settled d t := by
    rw [retireUnit_eq]
    apply (settled_settle h).bind
    intro _ t ht
    refine ht.meets ((only_dropFence fun _ h _ => h).bind fun _ => ?_)
    refine (only_dropBuffer fun _ h _ => h).bind fun _ => ?_
    exact (only_letGo fun _ _ _ h _ => h).bind fun _ => trivial
  apply (hsettled.with_result fun _ _ => runs_retireUnit).mono
  intro v t h
  obtain ⟨rfl, ht⟩ := h
  exact ⟨rfl, rfl, rfl, ht⟩

/-- The drop of a unit in any state settles what is pending first. -/
theorem settled_drop {remaining : List Holder} (h : Alive d u past ∨ Retired d u past) :
    (Monitor.history (OneInFlight d)).Meets ((Holder.unit u).drop remaining) past
      fun _ t => Settled d t := by
  rw [Holder.drop_unit]
  exact (retired_retireUnit h).bind fun v t ht =>
    ht.settled.meets <| only_releaseDevice (fun _ h _ => h) fun _ _ =>
      only_instance_close rfl fun _ _ => rfl

/-! ## Runs -/

/-- Whatever is done with a new unit, it is alive or retired. -/
theorem alive_or_retired_of_run {pool : WorkPool} {queue : QueueHandle} {actions : List Action} :
    (Monitor.history (OneInFlight pool.device.handle)).Meets ((ofPool pool queue).run actions) []
      fun r t => Alive pool.device.handle r.2 t ∨ Retired pool.device.handle r.2 t :=
  alive_or_retired_keptByTurns.run_meets
    (fun _ _ _ _ h => (retired_retireUnit h).mono fun _ _ h => .inr h)
    (.inl (alive_ofPool pool queue))

/-- Up to its retirement, a new unit is alive. -/
theorem alive_of_run {pool : WorkPool} {queue : QueueHandle} {actions : List Action}
    (hnone : ∀ others, .retire others ∉ actions) :
    (Monitor.history (OneInFlight pool.device.handle)).Meets ((ofPool pool queue).run actions) []
      fun r t => Alive pool.device.handle r.2 t :=
  alive_keptByTurns.run_meets (fun others hm => absurd hm (hnone others))
    (alive_ofPool pool queue)

/-- In the whole life of a unit, from its making to its drop, there is at most one submission in
flight. -/
theorem settled_of_life {pool : WorkPool} {queue : QueueHandle} {actions later : List Action}
    {remaining : List Holder} :
    (Monitor.history (OneInFlight pool.device.handle)).Meets
      (do
        let r ← (ofPool pool queue).run actions
        let r ← r.2.run later
        (Holder.unit r.2).drop remaining) []
      fun _ t => Settled pool.device.handle t := by
  apply alive_or_retired_of_run.bind
  intro r t h
  have hlater : (Monitor.history (OneInFlight pool.device.handle)).Meets (r.2.run later) t
      fun r t => Alive pool.device.handle r.2 t ∨ Retired pool.device.handle r.2 t :=
    alive_or_retired_keptByTurns.run_meets
      (fun _ _ _ _ h => (retired_retireUnit h).mono fun _ _ h => .inr h) h
  exact hlater.bind fun r t h => settled_drop h

/-- A driver that never lets a wait for a fence succeed. -/
def refusesWaits (c : Command) : Bool := c matches .waitFence ..

end WorkUnit

end VulkanExec
