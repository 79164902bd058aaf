import VulkanExec.Proofs.Smoke.Exercise

/-!
# The end of a smoke test

However far the smoke test came, it drops the unit, the pool and the context, so far as they are
there. What they stand for is released in the reverse order of its creation, after the device was
waited for if a submission is in flight.

## Main definitions

- `Event.tearsDown`, `TornDown`: what there can be in a release, and what is said of one;
- `nonNull`: objects without the null handles among them;
- `Context.objects`: what was created for a context.

The main statements are `releases_context`, `releases_pool` and `releases_unit`, one for each time
at which the drops can begin.
-/

namespace VulkanExec

open Program

/-- A note, or a command that destroys an object or waits for a device to have nothing to do. -/
def Event.tearsDown : Event → Bool
  | answered c _ => c.isTeardown
  | noted _ => true

/-- What is said of a part in which things are only released: it is no part of the exercise, nothing
is created, and nothing is asked that an establishment asks. -/
structure TornDown (events : List Event) : Prop where
  idle : ∀ e ∈ events, e.exercises = false
  creations : creations events = []
  told : Answers.of events = {}

theorem tornDown_of_forall {events : List Event} (h : ∀ e ∈ events, e.tearsDown) :
    TornDown events := by
  have hone (e : Event) (he : e.tearsDown) :
      e.exercises = false ∧ e.created? = none ∧ e.tells = {} := by
    cases e with
    | noted n => exact ⟨rfl, rfl, rfl⟩
    | answered c answer => cases c <;> first | exact ⟨rfl, rfl, rfl⟩ | cases he
  constructor
  · exact fun e he => (hone e (h e he)).1
  · exact List.filterMap_eq_nil_iff.2 fun e he => (hone e (h e he)).2.1
  · induction events with
    | nil => rfl
    | cons e events ih =>
      obtain ⟨-, -, htells⟩ := hone e (h e (.head events))
      rw [Answers.of_cons, htells, ih fun x hx => h x (.tail e hx), Answers.empty_append]

theorem tornDown_notes (notes : List Note) : TornDown (notes.map .noted) :=
  tornDown_of_forall (List.forall_mem_map.2 fun _ _ => rfl)

theorem TornDown.append {first second : List Event} (h : TornDown first) (h' : TornDown second) :
    TornDown (first ++ second) where
  idle := List.forall_mem_append.2 ⟨h.idle, h'.idle⟩
  creations := by rw [creations_append, h.creations, h'.creations]; rfl
  told := by rw [Answers.of_append, h.told, h'.told, Answers.empty_append]

theorem TornDown.overdue {events : List Event} (h : TornDown events) :
    ∀ e ∈ events, e.overdue? = none := fun e he => (Event.of_exercises_eq_false (h.idle e he)).2.1

theorem releases_notes (notes : List Note) : releases (notes.map .noted) = [] := by
  simp [releases, Event.released?]

/-- The objects that are there: the null handle names none. -/
def nonNull (objects : List Object) : List Object := objects.filter (·.value != 0)

@[simp] theorem nonNull_append (first second : List Object) :
    nonNull (first ++ second) = nonNull first ++ nonNull second := List.filter_append ..

@[simp] theorem nonNull_reverse (objects : List Object) :
    nonNull objects.reverse = (nonNull objects).reverse := List.filter_reverse ..

/-- The objects of a context on an instance, in the order in which they are created. -/
def Context.objects (c : Context) (i : Instance) : List Object :=
  i.objects ++ [c.device.handle.object]

theorem nonNull_of_isNull {kind : ObjectKind} {h : Handle kind} (hnull : h.isNull) :
    nonNull [h.object] = [] := by
  obtain rfl : h = .null := of_decide_eq_true hnull
  rfl

section Release

variable {events first second : List Event} {u : WorkUnit} {d : Device} {i : Instance}
  {raw : RawPool}

theorem tornDown_of_only {α : Type} {p : Program α} {a : α}
    (h : p.Only fun c => c.isTeardown) (hruns : p.Runs events a) : TornDown events := by
  refine tornDown_of_forall fun e he => ?_
  cases e with
  | noted n => rfl
  | answered c answer => exact h.of_mem hruns he

/-! ## Single releases -/

theorem Device.releases_close (howner : d.owner = some i) (h : d.close.Runs events ()) :
    releases events = (i.objects ++ [d.handle.object]).reverse := by
  rw [close, howner] at h
  obtain ⟨waiting, _, _, rfl, hdrain, hdestroy⟩ := runs_bind_iff.1 h
  obtain ⟨_, _, rfl, hlog⟩ := runs_ask_iff.1 hdestroy
  obtain ⟨_, rfl, hclose⟩ := runs_log_iff.1 hlog
  obtain rfl := Instance.runs_close hclose
  obtain ⟨-, hwaiting⟩ := quiet_of_only (only_drain rfl) hdrain
  have hclosing : releases i.closing = i.objects.reverse := Instance.undoes_closing.2
  simp only [releases, List.filterMap_append, List.filterMap_cons] at hwaiting hclosing ⊢
  simp [hwaiting, hclosing, Event.released?, Command.released]

theorem RawPool.releases_destroy (h : raw.destroy.Runs events ()) :
    releases events = [raw.handle.object] := by
  obtain ⟨_, _, rfl, hlog⟩ := runs_ask_iff.1 h
  obtain ⟨_, rfl, hend⟩ := runs_note_iff.1 hlog
  obtain ⟨rfl, -⟩ := runs_done_iff.1 hend
  rfl

namespace WorkUnit

/-- A unit with a submission in flight waits for its device and does nothing else. -/
theorem runs_settle (h : u.settle.Runs events ()) :
    releases events = [] ∧ (u.inFlight → ∃ record answer rest, events =
      .noted (.log record) :: .answered (.waitIdle u.device.handle) answer :: rest) := by
  constructor
  · exact (quiet_of_only (only_settle_of_waitIdle fun _ => rfl) h).2
  · intro hflight
    rw [settle, if_pos hflight] at h
    obtain ⟨_, rfl, hdrain⟩ := runs_log_iff.1 h
    obtain ⟨answer, rest, rfl, -⟩ := runs_ask_iff.1 hdrain
    exact ⟨_, answer, rest, rfl⟩

theorem nonNull_releases_dropFence (h : u.dropFence.Runs events ()) :
    nonNull (releases events) = nonNull [u.fence.object] := by
  unfold dropFence at h
  split at h
  · next hnull =>
    obtain ⟨rfl, -⟩ := runs_pure_iff.1 h
    exact (nonNull_of_isNull hnull).symm
  · obtain ⟨_, _, rfl, hend⟩ := runs_ask_iff.1 h
    obtain ⟨rfl, -⟩ := runs_pure_iff.1 hend
    rfl

theorem nonNull_releases_dropBuffer (hpool : u.pool = some raw) (h : u.dropBuffer.Runs events ()) :
    nonNull (releases events) = nonNull [u.buffer.object] := by
  rw [dropBuffer, hpool] at h
  dsimp only at h
  split at h
  · obtain ⟨_, _, rfl, hend⟩ := runs_ask_iff.1 h
    obtain ⟨rfl, -⟩ := runs_pure_iff.1 hend
    rfl
  · next halloc =>
    obtain ⟨rfl, -⟩ := runs_pure_iff.1 h
    exact (nonNull_of_isNull (by simpa [isAllocated] using halloc)).symm

end WorkUnit

end Release

namespace Smoke

open Session

variable {s t : Session} {name : String} {names : List String} {events : List Event} {c : Context}
  {p : WorkPool} {u : WorkUnit} {i : Instance} {raw : RawPool}

/-! ## Dropping names -/

theorem runs_dropNames_absent (hget : s.get? name = none)
    (h : (s.dropNames (name :: names)).Runs events t) : (s.dropNames names).Runs events t := by
  obtain ⟨first, second, _, rfl, hfirst, hsecond⟩ := runs_bind_iff.1 h
  rcases runs_dropName hfirst with ⟨-, rfl, rfl⟩ | ⟨x, hx, -⟩
  · exact hsecond
  · simp [hget] at hx

theorem runs_dropNames {x : Holder} (hget : s.get? name = some x)
    (h : (s.dropNames (name :: names)).Runs events t) :
    ∃ first second, events = first ++ second ∧ (x.drop (s.erase name).all).Runs first () ∧
      ((s.erase name).dropNames names).Runs second t := by
  obtain ⟨first, second, _, rfl, hfirst, hsecond⟩ := runs_bind_iff.1 h
  rcases runs_dropName hfirst with ⟨hnone, -⟩ | ⟨y, hy, hdrop, rfl⟩
  · simp [hget] at hnone
  · obtain rfl : x = y := by simpa [hget] using hy
    exact ⟨first, second, rfl, hdrop, hsecond⟩

theorem only_dropNames : (s.dropNames names).Only fun c => c.isTeardown := by
  induction names generalizing s with
  | nil => trivial
  | cons name names ih =>
    refine Only.bind ?_ fun r => ih
    unfold dropName
    split
    · trivial
    · exact (only_drop (fun _ hc => hc) _).bind fun _ => trivial

/-! ## The holders of the test -/

theorem releases_context (hs : s.Has [("context", .context c)])
    (howner : c.device.owner = some i) (h : (s.dropNames ["context"]).Runs events t) :
    releases events = (c.objects i).reverse := by
  obtain ⟨first, second, rfl, hdrop, hend⟩ := runs_dropNames hs.get? h
  obtain ⟨rfl, -⟩ := runs_pure_iff.1 hend
  rw [hs.erase.all, Holder.drop_context] at hdrop
  obtain ⟨telling, closing, _, rfl, htell, hclose⟩ := runs_bind_iff.1 hdrop
  have htelling := (quiet_of_only only_tellOthers htell).2
  have hclosing := Device.releases_close howner hclose
  simp [htelling, hclosing, Context.objects]

theorem releases_pool (hs : s.Has [("pool", .pool p), ("context", .context c)])
    (hraw : p.raw = some raw) (hdevice : p.device = c.device) (howner : c.device.owner = some i)
    (h : (s.dropNames ["pool", "context"]).Runs events t) :
    releases events = raw.handle.object :: (c.objects i).reverse := by
  obtain ⟨first, second, rfl, hdrop, hrest⟩ := runs_dropNames hs.get? h
  have hkept : releaseDevice [.context c] p.device = return () :=
    releaseDevice_of_mem (.head _) (congrArg some hdevice.symm)
  have hs' : (s.erase "pool").Has [("context", .context c)] := hs.erase
  have hrest := releases_context hs' howner hrest
  rw [hs.erase.all, Holder.drop_pool, hraw] at hdrop
  obtain ⟨destroying, keeping, _, rfl, hdestroy, hkeep⟩ := runs_bind_iff.1 hdrop
  have hdestroying := RawPool.releases_destroy hdestroy
  obtain ⟨rfl, -⟩ := runs_pure_iff.1 (hkept ▸ hkeep)
  simp [hdestroying, hrest]

/-- The unit waits first. Then its fence, its buffer and its pool go, and then the rest. -/
theorem releases_unit (hs : s.Has (staged c p u)) (hraw : p.raw = some raw)
    (hdevice : p.device = c.device) (howner : c.device.owner = some i)
    (hpool : u.pool = some raw) (hunit : u.device = c.device)
    (h : (s.dropNames ["unit", "pool", "context"]).Runs events t) :
    ∃ settling rest, events = settling ++ rest ∧ u.settle.Runs settling () ∧
      nonNull (releases rest) = nonNull ([u.fence.object, u.buffer.object, raw.handle.object] ++
        (c.objects i).reverse) := by
  obtain ⟨first, second, rfl, hdrop, hrest⟩ := runs_dropNames hs.get? h
  -- The pool and the context still have their shares in the raw pool and in the device.
  have hpoolKept : letGo [.pool p, .context c] (some raw) = return () :=
    letGo_of_mem (.head _) hraw
  have hdeviceKept : releaseDevice [.pool p, .context c] u.device = return () :=
    releaseDevice_of_mem (.tail _ (.head _)) (congrArg some hunit.symm)
  have hs' : (s.erase "unit").Has [("pool", .pool p), ("context", .context c)] := hs.erase
  have hrest := releases_pool hs' hraw hdevice howner hrest
  rw [hs.erase.all, Holder.drop_unit, retireUnit_eq, hpool] at hdrop
  obtain ⟨_, keeping, _, rfl, hretire, hkeep⟩ := runs_bind_iff.1 hdrop
  obtain ⟨settling, _, _, rfl, hsettle, hretire⟩ := runs_bind_iff.1 hretire
  obtain ⟨dropping, _, _, rfl, hfence, hretire⟩ := runs_bind_iff.1 hretire
  obtain ⟨freeing, _, _, rfl, hbuffer, hretire⟩ := runs_bind_iff.1 hretire
  obtain ⟨letting, _, _, rfl, hletGo, hend⟩ := runs_bind_iff.1 hretire
  obtain ⟨rfl, -⟩ := runs_pure_iff.1 hend
  obtain ⟨rfl, -⟩ := runs_pure_iff.1 (hpoolKept ▸ hletGo)
  obtain ⟨rfl, -⟩ := runs_pure_iff.1 (hdeviceKept ▸ hkeep)
  refine ⟨settling, dropping ++ (freeing ++ second), by simp, hsettle, ?_⟩
  have hfence := WorkUnit.nonNull_releases_dropFence hfence
  have hbuffer := WorkUnit.nonNull_releases_dropBuffer hpool hbuffer
  rw [releases_append, releases_append, nonNull_append, nonNull_append, hfence, hbuffer, hrest]
  rw [← nonNull_append, ← nonNull_append]
  rfl

end Smoke

end VulkanExec
