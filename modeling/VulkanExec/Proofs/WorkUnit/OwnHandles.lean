import VulkanExec.Proofs.WorkUnit.Retirement

/-!
# The handles of a unit

From its allocation to its retirement a unit works with one device, one queue, one buffer and one
fence, and with no others. So its submissions and the signals of its fence can be counted with these
handles in view, and so can the commands that must not come while a submission is in flight.

## Main definitions

- `WorkUnit.OwnHandles`, `WorkUnit.ownHandles`: the device, the queue, the buffer and the fence of a
  unit;
- `OwnHandles.Owns`: an event that is about a buffer or a fence is about these;
- `OwnHandles.submissions`, `OwnHandles.signals`: how often the buffer was submitted with the fence,
  and how often the fence was found signaled;
- `OwnHandles.SingleFlight`: at most one submission is in flight at any time of a life.

The main statement, `at_most_one_in_flight`, is about a unit at any time before its retirement.
-/

namespace VulkanExec.WorkUnit

open Program

/-- What a unit hands its work over with. -/
structure OwnHandles where
  device : DeviceHandle
  queue : QueueHandle
  buffer : BufferHandle
  fence : FenceHandle
  deriving DecidableEq, Repr

/-- The handles of a unit as it is. -/
def ownHandles (u : WorkUnit) : OwnHandles := ⟨u.device.handle, u.queue, u.buffer, u.fence⟩

namespace OwnHandles

/-- The event is a successful submission of the buffer to the queue, with the fence. -/
def submits (h : OwnHandles) : Event → Bool
  | .answered (.submit d queue b f) (.ok _) => ⟨d, queue, b, f⟩ = h
  | _ => false

/-- The event is a wait that found the fence signaled. -/
def sees (h : OwnHandles) : Event → Bool
  | .answered (.waitFence d f _) (.ok _) => d = h.device ∧ f = h.fence
  | _ => false

/-- The event is a command on the buffer or the fence that must not come while they are in use. -/
def works (h : OwnHandles) : Event → Bool
  | .answered (.resetFence d f) _ => d = h.device ∧ f = h.fence
  | .answered (.submit d _ b f) _ => d = h.device ∧ (b = h.buffer ∨ f = h.fence)
  | .answered (.beginBuffer d b _) _ | .answered (.endBuffer d b) _
  | .answered (.resetBuffer d b) _ => d = h.device ∧ b = h.buffer
  | _ => false

/-- The event is the end of the buffer or the fence. -/
def frees (h : OwnHandles) : Event → Bool
  | .answered (.destroyFence d f) _ => d = h.device ∧ f = h.fence
  | .answered (.freeBuffer d _ b) _ => d = h.device ∧ b = h.buffer
  | _ => false

/-- An event that is about a buffer or a fence is about these. So is a wait for a device. -/
def Owns (h : OwnHandles) : Event → Prop
  | .answered (.submit d queue b f) _ => ⟨d, queue, b, f⟩ = h
  | .answered (.beginBuffer d b _) _ | .answered (.endBuffer d b) _
  | .answered (.resetBuffer d b) _ | .answered (.freeBuffer d _ b) _ =>
    d = h.device ∧ b = h.buffer
  | .answered (.resetFence d f) _ | .answered (.waitFence d f _) _
  | .answered (.destroyFence d f) _ => d = h.device ∧ f = h.fence
  | .answered (.waitIdle d) _ => d = h.device
  | _ => True

/-- How often the buffer was submitted with the fence. -/
def submissions (h : OwnHandles) (events : List Event) : Nat := events.countP h.submits

/-- How often the fence was found signaled. -/
def signals (h : OwnHandles) (events : List Event) : Nat := events.countP h.sees

/-- In a whole life, what was submitted and not yet seen done is nothing or one submission. While
there is one, the buffer and the fence are left alone, and they go only after a wait for the device
since the submission. -/
structure SingleFlight (h : OwnHandles) (life : List Event) : Prop where
  bounds : ∀ before rest, life = before ++ rest →
    h.signals before ≤ h.submissions before ∧ h.submissions before ≤ h.signals before + 1
  atRest : ∀ before e rest, life = before ++ e :: rest →
    h.submissions before = h.signals before + 1 → h.works e = false
  drained : ∀ before e rest, life = before ++ e :: rest →
    h.submissions before = h.signals before + 1 → h.frees e →
      ∃ drain ∈ eventsSince h.submits before, drain.isDrain h.device

/-! ## Own events, counted -/

theorem owns_of_only {α : Type} {h : OwnHandles} {p : Program α} {events : List Event} {a : α}
    (honly : p.Only fun c => ∀ answer, h.Owns (.answered c answer)) (hruns : p.Runs events a) :
    ∀ e ∈ events, h.Owns e := by
  intro e he
  cases e with
  | noted n => trivial
  | answered c answer => exact honly.of_mem hruns he answer

section Counts

variable {h : OwnHandles} {d : DeviceHandle} {events : List Event} {e : Event}

theorem submits_eq (ho : h.Owns e ∨ e.isRelease) : h.submits e = e.isSubmission := by
  cases e with
  | noted n => rfl
  | answered c answer =>
    cases c with
    | submit d queue b f =>
      have hnames : ⟨d, queue, b, f⟩ = h := by simpa [Owns, Event.isRelease] using ho
      cases answer <;> simp [submits, Event.isSubmission, hnames]
    | _ => rfl

theorem sees_eq (ho : h.Owns e ∨ e.isRelease) : h.sees e = e.isSignal := by
  cases e with
  | noted n => rfl
  | answered c answer =>
    cases c with
    | waitFence d f time =>
      have hnames : d = h.device ∧ f = h.fence := by simpa [Owns, Event.isRelease] using ho
      cases answer <;> simp [sees, Event.isSignal, hnames]
    | _ => rfl

theorem isWork_of_works (hworks : h.works e) : e.isWork := by
  unfold works at hworks
  split at hworks <;> first | rfl | cases hworks

theorem isRelease_of_frees (hfrees : h.frees e) : e.isRelease := by
  unfold frees at hfrees
  split at hfrees <;> first | rfl | cases hfrees

variable (hown : ∀ e ∈ events, h.Owns e ∨ e.isRelease)
include hown

theorem submissions_eq : h.submissions events = VulkanExec.submissions events :=
  List.countP_congr fun e he => by rw [submits_eq (hown e he)]

theorem signals_eq : h.signals events = VulkanExec.signals events :=
  List.countP_congr fun e he => by rw [sees_eq (hown e he)]

/-- When all events are about the handles, a submission in flight is one of the buffer with the
fence. -/
theorem singleFlight_of_owns
    (howed : ∀ before e rest, events = before ++ e :: rest → OneInFlight h.device before e)
    (hend : Settled h.device events) : h.SingleFlight events := by
  have hbefore {before rest : List Event} (he : events = before ++ rest) :
      ∀ e ∈ before, h.Owns e ∨ e.isRelease := fun e hb => hown e (by simp [he, hb])
  constructor
  · intro before rest he
    rw [submissions_eq (hbefore he), signals_eq (hbefore he)]
    cases rest with
    | nil => exact (he.trans (List.append_nil _)) ▸ hend.bounds
    | cons e rest => exact (howed before e rest he).bounds
  · intro before e rest he hpending
    rw [submissions_eq (hbefore he), signals_eq (hbefore he)] at hpending
    have hrest := (howed before e rest he).atRest hpending
    by_contra hworks
    simp [isWork_of_works (by simpa using hworks)] at hrest
  · intro before e rest he hpending hfrees
    rw [submissions_eq (hbefore he), signals_eq (hbefore he)] at hpending
    rw [eventsSince_congr fun e hb => submits_eq (hbefore he e hb)]
    exact List.any_eq_true.1 ((howed before e rest he).drained hpending (isRelease_of_frees hfrees))

end Counts

end OwnHandles

/-! ## What a unit names -/

variable {u v w : WorkUnit} {h : OwnHandles} {first rest events : List Event}
  {results : List (Except Error Unit)} {remaining : List Holder}

theorem Continues.ownHandles (hc : u.Continues v) (halloc : u.isAllocated) :
    v.ownHandles = u.ownHandles := by
  rw [WorkUnit.ownHandles, hc.device, hc.queue, hc.buffer halloc, hc.fence halloc]
  rfl

/-- A turn names the handles that the unit has after it. Only the release of a buffer that was left
without a fence is not about them. -/
theorem Turn.owns (ht : Turn u events v) (hv : v.isAllocated → v.ownHandles = h) :
    ∀ e ∈ events, h.Owns e ∨ (u.isAllocated = false ∧ e.isRelease) := by
  cases ht with
  | allocationFailed _ halloc | fenceFailed _ halloc | allocated _ halloc =>
    simp [OwnHandles.Owns, Event.isRelease, halloc]
  | _ halloc =>
    obtain rfl := hv halloc
    simp [OwnHandles.Owns, WorkUnit.ownHandles]

theorem Turns.append (ht : Turns u first v) (ht' : Turns v rest w) :
    Turns u (first ++ rest) w := by
  induction ht with
  | nil u => exact ht'
  | cons head _ ih => exact List.append_assoc .. ▸ .cons head (ih ht')

theorem Turns.owns (ht : Turns u events v) (hv : v.isAllocated → v.ownHandles = h) :
    ∀ e ∈ events, h.Owns e ∨ (u.isAllocated = false ∧ e.isRelease) := by
  induction ht with
  | nil u => simp
  | @cons u v w first rest head tail ih =>
    intro e he
    rcases List.mem_append.1 he with he | he
    · exact head.owns (fun halloc => (tail.continues.ownHandles halloc).symm.trans
        (hv (tail.continues.isAllocated halloc))) e he
    · refine (ih hv e he).imp_right fun hr => ⟨?_, hr.2⟩
      by_contra halloc
      have := head.continues.isAllocated (by simpa using halloc)
      simp [hr.1] at this

/-- Without a retirement, a run of a unit consists of turns. -/
theorem turns_of_run {actions : List Action} (hrun : (u.run actions).Runs events (results, v))
    (hnone : ∀ others, .retire others ∉ actions) : Turns u events v := by
  induction actions generalizing u events results with
  | nil =>
    obtain ⟨rfl, he⟩ := runs_pure_iff.1 hrun
    cases he
    exact .nil _
  | cons action actions ih =>
    obtain ⟨first, rest, _, _, w, rfl, rfl, hfirst, hrest⟩ := runs_run_cons hrun
    have htail := ih hrest fun others hm => hnone others (by simp [hm])
    rcases perform_cases hfirst with hturns | ⟨others, rfl, -⟩
    · exact hturns.append htail
    · exact absurd (List.mem_cons_self ..) (hnone others)

/-- A retirement waits for the device of the unit, and frees its fence and its buffer. -/
theorem owns_retireUnit (hrun : (retireUnit remaining u).Runs events v) :
    ∀ e ∈ events, u.ownHandles.Owns e := by
  have honly : (retireUnit remaining u).Only fun c =>
      ∀ answer, u.ownHandles.Owns (.answered c answer) := by
    rw [retireUnit_eq]
    refine (only_settle_of_waitIdle fun _ _ => rfl).bind fun _ => ?_
    refine (only_dropFence_of_destroyFence fun _ => ⟨rfl, rfl⟩).bind fun _ => ?_
    refine (only_dropBuffer_of_freeBuffer fun _ _ _ => ⟨rfl, rfl⟩).bind fun _ => ?_
    exact (only_letGo_of_destroyPool fun _ _ _ => trivial).bind fun _ => trivial
  exact OwnHandles.owns_of_only honly hrun

/-- The last holder of a device waits for this device. -/
theorem owns_releaseDevice {d : Device} (hd : d.handle = h.device)
    (hrun : (releaseDevice remaining d).Runs events ()) : ∀ e ∈ events, h.Owns e := by
  have honly : (releaseDevice remaining d).Only fun c => ∀ answer, h.Owns (.answered c answer) :=
    only_releaseDevice_of_destroyDevice (fun _ => hd) (fun _ => trivial) fun _ _ =>
      only_instance_close (fun _ => trivial) fun _ _ _ => trivial
  exact OwnHandles.owns_of_only honly hrun

/-- The unit has the handles, or it had them until its retirement. -/
def StillHas (u : WorkUnit) (h : OwnHandles) : Prop :=
  (u.isAllocated ∧ u.ownHandles = h) ∨ ∃ w : WorkUnit, w.ownHandles = h ∧ u = w.retired

/-- Whatever is done with a unit that is allocated, it names its own handles, which it keeps up to
its retirement. -/
theorem owns_run {actions : List Action} (halloc : u.isAllocated)
    (hrun : (u.run actions).Runs events (results, v)) :
    (∀ e ∈ events, u.ownHandles.Owns e) ∧ v.StillHas u.ownHandles := by
  induction actions generalizing u events results with
  | nil =>
    obtain ⟨rfl, he⟩ := runs_pure_iff.1 hrun
    cases he
    exact ⟨by simp, .inl ⟨halloc, rfl⟩⟩
  | cons action actions ih =>
    obtain ⟨first, rest, _, _, w, rfl, rfl, hfirst, hrest⟩ := runs_run_cons hrun
    rcases perform_cases hfirst with hturns | ⟨others, rfl, hretire⟩
    · have hsame := hturns.continues.ownHandles halloc
      obtain ⟨hown, hend⟩ := ih (hturns.continues.isAllocated halloc) hrest
      rw [hsame] at hown hend
      refine ⟨fun e he => ?_, hend⟩
      rcases List.mem_append.1 he with he | he
      · exact (hturns.owns (fun _ => hsame) e he).resolve_right (by simp [halloc])
      · exact hown e he
    · have hown := owns_retireUnit hretire
      obtain rfl := runs_retireUnit hretire
      obtain ⟨rfl, -, rfl⟩ := runs_run_retired hrest
      exact ⟨by simpa using hown, .inr ⟨u, rfl, rfl⟩⟩

/-- So does its drop, whether it was retired before or not. -/
theorem owns_drop (hv : v.StillHas h) (hdrop : ((Holder.unit v).drop remaining).Runs events ()) :
    ∀ e ∈ events, h.Owns e := by
  rw [Holder.drop_unit] at hdrop
  obtain ⟨first, rest, _, rfl, hretire, hrelease⟩ := runs_bind_iff.1 hdrop
  rcases hv with ⟨-, rfl⟩ | ⟨w, rfl, rfl⟩
  · intro e he
    rcases List.mem_append.1 he with he | he
    · exact owns_retireUnit hretire e he
    · exact owns_releaseDevice rfl hrelease e he
  · obtain ⟨rfl, -⟩ := runs_retireUnit_retired hretire
    exact owns_releaseDevice rfl hrelease

/-! ## One submission -/

/-- A unit at any time before its retirement knows whether a submission of its buffer is in flight,
as its fence tells, and it is executable then. Nothing was done to another buffer or fence, releases
apart: a buffer that gets no fence is freed at once. If the unit is allocated, then in its whole
life, from its making to its drop, there is never more than one submission in flight; while there is
one, the buffer and the fence are left alone, and they are released only after a wait for the device
since. -/
theorem at_most_one_in_flight {pool : WorkPool} {queue : QueueHandle} {actions later : List Action}
    {past events last : List Event} {results results' : List (Except Error Unit)}
    {remaining : List Holder}
    (hpast : ((ofPool pool queue).run actions).Runs past (results, u))
    (hnone : ∀ others, .retire others ∉ actions)
    (hlater : (u.run later).Runs events (results', v))
    (hdrop : ((Holder.unit v).drop remaining).Runs last ()) :
    (u.ownHandles.device = pool.device.handle ∧ u.ownHandles.queue = queue) ∧
    u.ownHandles.submissions past = u.ownHandles.signals past + u.inFlight.toNat ∧
    (u.inFlight → u.isAllocated ∧ u.state = .executable) ∧
    (∀ e ∈ past, u.ownHandles.Owns e ∨ e.isRelease) ∧
    (u.isAllocated →
      (∀ e ∈ events ++ last, u.ownHandles.Owns e) ∧
        u.ownHandles.SingleFlight (past ++ events ++ last)) := by
  have hturns := turns_of_run hpast hnone
  have hown : ∀ e ∈ past, u.ownHandles.Owns e ∨ e.isRelease :=
    fun e he => (hturns.owns (fun _ => rfl) e he).imp_right And.right
  obtain ⟨-, halive⟩ := (alive_of_run hnone).of_history hpast
  refine ⟨⟨halive.device, hturns.continues.queue⟩, ?_, fun hflight =>
    ⟨halive.allocated hflight, halive.state hflight⟩, hown, fun halloc => ?_⟩
  · rw [OwnHandles.submissions_eq hown, OwnHandles.signals_eq hown]
    exact halive.count
  · obtain ⟨hevents, hend⟩ := owns_run halloc hlater
    have hafter : ∀ e ∈ events ++ last, u.ownHandles.Owns e := by
      intro e he
      rcases List.mem_append.1 he with he | he
      · exact hevents e he
      · exact owns_drop hend hdrop e he
    obtain ⟨howed, hsettled⟩ := settled_of_life.of_history (hpast.bind (hlater.bind hdrop))
    rw [← List.append_assoc, ← halive.device] at howed hsettled
    refine ⟨hafter, OwnHandles.singleFlight_of_owns ?_ howed hsettled⟩
    intro e he
    rw [List.append_assoc] at he
    rcases List.mem_append.1 he with he | he
    · exact hown e he
    · exact .inl (hafter e he)

/-- The sample unit after a single round, with a driver that never lets a wait succeed. -/
def sampleRound : (List (Except Error Unit) × WorkUnit) × List Event × Nat :=
  ((ofPool samplePool ⟨3⟩).run [.allocate, .record, .finish, .submit 10]).runWith
    (.numbering refusesWaits) 4

/-- The events of its drop. -/
def sampleDrop : List Event :=
  (((Holder.unit sampleRound.1.2).drop [.pool samplePool]).runWith (.numbering refusesWaits) 12).2.1

/-- The fence of a submission that was never seen done is destroyed after a wait for the device. -/
theorem drained_before_fence_goes :
    ∃ drain ∈ eventsSince (OwnHandles.submits ⟨⟨1⟩, ⟨3⟩, ⟨4⟩, ⟨5⟩⟩)
      (sampleRound.2.1 ++ sampleDrop.take 2), drain.isDrain ⟨1⟩ := by
  have hpast := runs_runWith (.numbering refusesWaits)
    ((ofPool samplePool ⟨3⟩).run [.allocate, .record, .finish, .submit 10]) 4
  have hnothing : (sampleRound.1.2.run []).Runs [] ([], sampleRound.1.2) :=
    runs_pure_iff.2 ⟨rfl, rfl⟩
  have hdrop := runs_runWith (.numbering refusesWaits)
    ((Holder.unit sampleRound.1.2).drop [.pool samplePool]) 12
  obtain ⟨-, -, -, -, hlife⟩ := at_most_one_in_flight hpast (by simp) hnothing hdrop
  obtain ⟨-, hsingle⟩ := hlife rfl
  exact hsingle.drained (sampleRound.2.1 ++ sampleDrop.take 2)
    (.answered (.destroyFence ⟨1⟩ ⟨5⟩) ()) (sampleDrop.drop 3) rfl (by decide) rfl

end VulkanExec.WorkUnit
