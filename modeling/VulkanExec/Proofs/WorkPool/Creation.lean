import VulkanExec.Proofs.Establishment.Undoing
import VulkanExec.Proofs.WorkPool.Family

/-!
# Creations of pools and units

A pool or a unit is created whole or not at all. If the driver refuses a part of it, the part that
was made before is released, the half-made pool or unit is dropped, and nothing is left: live
objects, holders and their shares are as before. Otherwise the new objects and the new holder are
all that is added.

## Main definitions

- `liveObjects`: the objects that some events have created and not released;
- `Session.openPoolOrDrop`, `Session.openUnitOrDrop`: the creations, with the drop of a half-made
  pool or unit written out;
- `Session.Unchanged`, `Session.Grown`: what is said after a creation that failed, and after one
  that is done;
- `Session.CreatesWhole`: what is said of the creations of a session.

The main statement is `Session.creations_whole`.
-/

namespace VulkanExec

open Program

/-! ## Live objects -/

/-- The live objects after an event: a new object comes, a released one goes. -/
def Event.liveAfter (live : Multiset Object) (e : Event) : Multiset Object :=
  match e.created?, e.released? with
  | some o, _ => o ::ₘ live
  | none, some o => live.erase o
  | none, none => live

/-- The objects that some events have created and not released, as often as that happened. -/
def liveObjects (events : List Event) : Multiset Object := events.foldl Event.liveAfter 0

section Live

variable {host : Object → Prop} {l : Ledger} {past events : List Event} {e : Event}

theorem liveObjects_append : liveObjects (past ++ events) =
    events.foldl Event.liveAfter (liveObjects past) := List.foldl_append

/-- Where nothing is released, what is created comes on top. -/
theorem liveObjects_append_of_releases (h : releases events = []) :
    liveObjects (past ++ events) = creations events + liveObjects past := by
  rw [liveObjects_append]
  generalize liveObjects past = live
  induction events generalizing live with
  | nil => exact (zero_add live).symm
  | cons e events ih =>
    cases hreleased : e.released? with
    | some o => simp [releases, hreleased] at h
    | none =>
      have hrest : releases events = [] := by simpa [releases, hreleased] using h
      rw [List.foldl_cons, ih hrest]
      cases hcreated : e.created? with
      | none => simp [Event.liveAfter, creations, hcreated, hreleased]
      | some o =>
        simp [Event.liveAfter, creations, hcreated, ← Multiset.cons_coe, Multiset.cons_add,
          Multiset.add_cons]

/-- A ledger without duplicates has the live objects. -/
theorem objects_live_step (hnodup : (objects l.live).Nodup) :
    objects ((ledger host).step l e).live = e.liveAfter (objects l.live) := by
  cases e with
  | noted n => rfl
  | answered c answer =>
    rw [ledger_step]
    rcases l.after_cases c answer with ⟨entry, hmade, -, hafter⟩ | ⟨o, hmade, hreleased, hafter⟩ |
      ⟨hmade, hreleased, hafter⟩ <;> rw [hafter]
    · obtain ⟨o, ho, rfl⟩ := Option.map_eq_some_iff.1 hmade
      simp [Event.liveAfter, Event.created?, ho]
    · have hnone : c.created answer = none := Option.map_eq_none_iff.1 hmade
      rw [objects_filter_ne, ← hnodup.erase_eq_filter]
      simp [Event.liveAfter, Event.created?, Event.released?, hnone, hreleased]
    · have hnone : c.created answer = none := Option.map_eq_none_iff.1 hmade
      simp [Event.liveAfter, Event.created?, Event.released?, hnone, hreleased]

/-- Live objects are those of the ledger, if the driver does as expected. -/
theorem objects_live_after (hnodup : (objects l.live).Nodup)
    (hexpects : (ledger host).Along (ledger host).expects l events)
    (hpermits : (ledger host).Along (ledger host).permits l events) :
    objects ((ledger host).after l events).live =
      events.foldl Event.liveAfter (objects l.live) := by
  induction events generalizing l with
  | nil => rfl
  | cons e events ih =>
    have hnodup' : (objects ((ledger host).step l e).live).Nodup :=
      (balance_step hnodup hexpects.1 hpermits.1 ⟨.inst, 0⟩).2
    rw [Monitor.after_cons, ih hnodup' hexpects.2 hpermits.2, objects_live_step hnodup,
      List.foldl_cons]

end Live

/-! ## Half-made holders -/

section Drop

variable {hs : List Holder} {c : Context} {p : WorkPool}

/-- A pool without a raw pool is dropped without a trace while its context is there. -/
theorem drop_of_context (hc : .context c ∈ hs) :
    (Holder.pool (.ofDevice c.device)).drop hs = return () := by
  rw [Holder.drop_pool]
  exact releaseDevice_of_mem hc rfl

/-- A unit for which nothing is allocated is dropped without a trace while its pool is there. -/
theorem drop_of_pool (hp : .pool p ∈ hs) (queue : QueueHandle) :
    (Holder.unit (.ofPool p queue)).drop hs = return () := by
  have hpool : letGo hs p.raw = return () := by
    cases hraw : p.raw with
    | none => rfl
    | some raw => exact letGo_of_mem hp hraw
  have hbuffer : (WorkUnit.ofPool p queue).dropBuffer = return () := by
    unfold WorkUnit.dropBuffer
    split <;> rfl
  have hsettle : (WorkUnit.ofPool p queue).settle = return () := rfl
  have hfence : (WorkUnit.ofPool p queue).dropFence = return () := rfl
  have hletGo : letGo hs (WorkUnit.ofPool p queue).pool = return () := hpool
  have hdevice : releaseDevice hs (WorkUnit.ofPool p queue).device = return () :=
    releaseDevice_of_mem hp rfl
  rw [Holder.drop_unit, retireUnit_eq, hsettle, hfence, hbuffer, hletGo, hdevice]
  rfl

end Drop

/-- Whether an operation makes a holder. -/
def Operation.makes : Operation → Bool
  | establish .. | adopt .. | shareDevice .. | openPool .. | newPool .. | openUnit ..
  | newUnit .. => true
  | _ => false

theorem Operation.work?_of_makes {operation : Operation} (h : operation.makes) :
    operation.work? = none := by
  cases operation <;> first | rfl | cases h

namespace Session

variable {s t : Session} {operations : List Operation} {outcomes : List Outcome}
  {past first : List Event} {context pool name : String} {c : Context} {p q : WorkPool}
  {raw : RawPool} {buffer : BufferHandle} {fence : FenceHandle} {h : Holder} {e : Error}

/-- Make a pool on the family of a context. After a failure, the half-made pool is dropped. -/
def openPoolOrDrop (s : Session) (context name : String) : Program (Outcome × Session) :=
  match s.context? context with
  | none => return (.absent .context, s)
  | some c => do
    let (stamp, s) := s.stamped
    match ← (WorkPool.ofDevice c.device).bindTo c.family 0 stamp with
    | (.ok (), pool) => s.keep name .pool (.ok pool)
    | (.error e, pool) => do
      (Holder.pool pool).drop s.all
      return (.failed e, s)

/-- Make an allocated unit on the queue of a context. After a failure, the half-made unit is
dropped. -/
def openUnitOrDrop (s : Session) (context pool name : String) : Program (Outcome × Session) :=
  match s.pool? pool, s.context? context with
  | none, _ => return (.absent .pool, s)
  | _, none => return (.absent .context, s)
  | some p, some c => do
    match ← (WorkUnit.ofPool p c.queue).allocate with
    | (.ok (), unit) => s.keep name .unit (.ok unit)
    | (.error e, unit) => do
      (Holder.unit unit).drop s.all
      return (.failed e, s)

/-- A pool that the driver refuses leaves nothing to drop. -/
theorem openPoolOrDrop_eq (s : Session) (context name : String) :
    s.openPoolOrDrop context name = s.perform (.openPool context name) := by
  rw [perform, openPool, openPoolOrDrop]
  cases hc : s.context? context with
  | none => rfl
  | some c =>
    refine bind_congr_of_runs ?_
    rintro events ⟨e | ⟨⟩, q⟩ hbind
    · obtain rfl := WorkPool.eq_of_bindTo_error hbind
      have hdrop : (Holder.pool (.ofDevice c.device)).drop s.stamped.2.all = return () :=
        drop_of_context (mem_all_of_get? (get?_of_context? hc))
      exact congrArg (· >>= fun _ => _) hdrop
    · rfl

/-- A unit that the driver refuses leaves nothing to drop: what was allocated for it is freed. -/
theorem openUnitOrDrop_eq (s : Session) (context pool name : String) :
    s.openUnitOrDrop context pool name = s.perform (.openUnit context pool name) := by
  rw [perform, openUnit, openUnitOrDrop]
  cases hp : s.pool? pool with
  | none => rfl
  | some p =>
    cases hc : s.context? context with
    | none => rfl
    | some c =>
      refine bind_congr_of_runs ?_
      rintro events ⟨e | ⟨⟩, u⟩ hallocate
      · obtain rfl := WorkUnit.eq_of_allocate_error hallocate
        have hdrop := drop_of_pool (mem_all_of_get? (get?_of_pool? hp)) c.queue
        exact congrArg (· >>= fun _ => _) hdrop
      · rfl

/-! ## Creations that fail -/

/-- Some events change neither the live objects nor the holders of a session. -/
structure Unchanged (s : Session) (past first : List Event) (t : Session) : Prop where
  live : liveObjects (past ++ first) = liveObjects past
  /-- Under every name there is what was there before: a pool with its raw pool and its family, a
  unit with its buffer and its fence. -/
  holders : t.holders = s.holders
  outstanding : ∀ p, t.outstanding p = s.outstanding p
  /-- As many as before have a share in a device. -/
  shares : ∀ d, holdersOf t.all d = holdersOf s.all d

theorem unchanged_of_spent {operation : Operation} (ht : t = s.spent operation)
    (hlive : liveObjects (past ++ first) = liveObjects past) : s.Unchanged past first t := by
  have hall : t.all = s.all := ht ▸ all_spent
  refine ⟨hlive, ?_, fun p => ?_, fun d => ?_⟩
  · rw [ht, spent]
    split <;> rfl
  · rw [outstanding, outstanding, hall]
  · rw [hall]

/-- The buffer that is allocated in some events is freed in them, through the pool that it was
allocated from, and nothing else is. -/
def FreesAllocated (first : List Event) : Prop :=
  ∀ d raw b, .answered (.allocateBuffer d raw) (.ok b) ∈ first →
    .answered (.freeBuffer d raw b) () ∈ first ∧ releases first = [b.object]

/-- An operation that makes a holder finds nothing, or fails to make it, or has made it. -/
theorem Step.making_cases {operation : Operation} {r : Outcome × Session}
    (hstep : Step s operation first r) (hmakes : operation.makes) :
    (∃ sort, r = (.absent sort, s)) ∨
    (∃ e, Failing s operation first e ∧ r = (.failed e, s.spent operation)) ∨
    ∃ made replaced h, first = made ++ replaced ∧ Making s operation made h ∧
      Replacing s operation.target h replaced ∧
      r = (.done, (s.spent operation).set operation.target h) := by
  cases hstep with
  | absent sort => exact .inl ⟨sort, rfl⟩
  | failed failing => exact .inr (.inl ⟨_, failing, rfl⟩)
  | made making replacing => exact .inr (.inr ⟨_, _, _, rfl, making, replacing, rfl⟩)
  | worked hwork => simp [Operation.work?_of_makes hmakes] at hwork
  | retired | bound | released | closed | dropped => cases hmakes

theorem failing_of_runs {operation : Operation} (hmakes : operation.makes)
    (hrun : (s.perform operation).Runs first (.failed e, t)) :
    Failing s operation first e ∧ t = s.spent operation := by
  rcases (runs_perform hrun).making_cases hmakes with ⟨_, he⟩ | ⟨_, hfailing, he⟩ |
    ⟨_, _, _, _, _, _, he⟩
  · cases he
  · obtain ⟨he, ht⟩ := Prod.mk.inj he
    cases he
    exact ⟨hfailing, ht⟩
  · cases he

/-- What an operation has made is under its name, and every other name keeps its holder. -/
theorem making_of_runs {operation : Operation} (hmakes : operation.makes)
    (hrun : (s.perform operation).Runs first (.done, t)) :
    ∃ made replaced h, first = made ++ replaced ∧ Making s operation made h ∧
      Replacing s operation.target h replaced ∧ t = (s.spent operation).set operation.target h := by
  rcases (runs_perform hrun).making_cases hmakes with ⟨_, he⟩ | ⟨_, _, he⟩ |
    ⟨made, replaced, h, hfirst, hmaking, hreplacing, he⟩
  · cases he
  · cases he
  · exact ⟨made, replaced, h, hfirst, hmaking, hreplacing, (Prod.mk.inj he).2⟩

theorem openPool_unchanged
    (hrun : (s.perform (.openPool context name)).Runs first (.failed e, t)) :
    s.Unchanged past first t := by
  obtain ⟨hfailing, hspent⟩ := failing_of_runs rfl hrun
  refine unchanged_of_spent hspent ?_
  cases hfailing with
  | openPool hc binding =>
    cases WorkPool.runs_bindTo binding with
    | refused releasing =>
      obtain ⟨rfl, -⟩ := runs_pure_iff.1 releasing
      exact liveObjects_append

theorem openUnit_unchanged
    (hrun : (s.perform (.openUnit context pool name)).Runs first (.failed e, t)) :
    s.Unchanged past first t ∧ FreesAllocated first := by
  obtain ⟨hfailing, hspent⟩ := failing_of_runs rfl hrun
  have hunchanged : liveObjects (past ++ first) = liveObjects past → s.Unchanged past first t :=
    unchanged_of_spent hspent
  cases hfailing with
  | openUnit hp hc allocating =>
    cases WorkUnit.attempt_of_allocate allocating with
    | poolless => exact ⟨hunchanged liveObjects_append, nofun⟩
    | allocationFailed =>
      refine ⟨hunchanged liveObjects_append, fun d raw b hb => ?_⟩
      cases List.mem_singleton.1 hb
    | fenceFailed =>
      refine ⟨hunchanged ?_, fun d raw b hb => ?_⟩
      · rw [liveObjects_append]
        exact Multiset.erase_cons_head ..
      · rcases List.mem_cons.1 hb with hb | hb
        · cases hb
          exact ⟨by simp, rfl⟩
        · simp only [List.mem_cons, List.not_mem_nil, or_false] at hb
          rcases hb with hb | hb <;> cases hb
    | unallocated hneeds => cases hneeds

/-! ## Creations that are done -/

/-- A creation adds objects and a holder under a name. The holder that was there before, if any, is
dropped after it, and all other names keep theirs. -/
structure Grown (s : Session) (past first : List Event) (name : String) (h : Holder)
    (new : List Object) (t : Session) : Prop where
  created : ∃ made replaced, first = made ++ replaced ∧ Replacing s name h replaced ∧
    creations made = new ∧ releases made = [] ∧
    liveObjects (past ++ made) = new + liveObjects past
  added : t.get? name = some h
  others : ∀ other, other ≠ name → t.get? other = s.get? other
  /-- Under a new name, the holder is one more than there were. -/
  beside : s.get? name = none → t.all = h :: s.all

theorem grown_of_making {operation : Operation} {made replaced : List Event}
    (hreplacing : Replacing s operation.target h replaced) (hreleases : releases made = [])
    (ht : t = (s.spent operation).set operation.target h) :
    s.Grown past (made ++ replaced) operation.target h (creations made) t where
  created := ⟨made, replaced, rfl, hreplacing, rfl, hreleases,
    liveObjects_append_of_releases hreleases⟩
  added := by simp [ht]
  others other hne := by simp [ht, hne]
  beside hnew := by rw [ht, all_set, all_erase_spent, erase_of_get?_eq_none hnew]

theorem openPool_grown (hrun : (s.perform (.openPool context name)).Runs first (.done, t)) :
    ∃ c handle, s.context? context = some c ∧
      s.Grown past first name
        (.pool ⟨c.device, some ⟨s.nextStamp, c.device, handle⟩, c.family⟩) [handle.object] t := by
  obtain ⟨made, replaced, _, rfl, hmaking, hreplacing, ht⟩ := making_of_runs rfl hrun
  cases hmaking with
  | openPool hc binding =>
    cases WorkPool.runs_bindTo binding with
    | bound hbound => exact absurd rfl hbound
    | @created _ handle _ releasing =>
      obtain ⟨rfl, -⟩ := runs_pure_iff.1 releasing
      exact ⟨_, handle, hc, grown_of_making hreplacing rfl ht⟩

theorem openUnit_grown (hrun : (s.perform (.openUnit context pool name)).Runs first (.done, t)) :
    ∃ c p raw buffer fence, s.context? context = some c ∧ s.pool? pool = some p ∧
      p.raw = some raw ∧
      s.Grown past first name (.unit { WorkUnit.ofPool p c.queue with buffer, fence })
        [buffer.object, fence.object] t := by
  obtain ⟨made, replaced, _, rfl, hmaking, hreplacing, ht⟩ := making_of_runs rfl hrun
  cases hmaking with
  | openUnit hp hc allocating =>
    cases WorkUnit.attempt_of_allocate allocating with
    | allocatedBefore hpool halloc => cases halloc
    | @allocated raw buffer fence hraw =>
      exact ⟨_, _, raw, buffer, fence, hc, hp, hraw, grown_of_making hreplacing rfl ht⟩

/-- A new unit is one more on its raw pool. -/
theorem unitsOn_unit_cons {u : WorkUnit} {hs : List Holder} (hraw : u.pool = some raw) :
    unitsOn (.unit u :: hs) raw = unitsOn hs raw + 1 :=
  List.countP_cons_of_pos (by simp [Holder.isUnitOn, hraw])

/-- A unit that is new under its name is one more on its pool, and changes no other count. -/
theorem outstanding_of_unit {u : WorkUnit} (hs : Counted s.nextStamp s.all)
    (hp : s.get? pool = some (.pool p)) (hraw : p.raw = some raw) (hu : u.pool = some raw)
    (hall : t.all = .unit u :: s.all) :
    t.outstanding p = s.outstanding p + 1 ∧
      ∀ other q, other ≠ pool → s.get? other = some (.pool q) →
        t.outstanding q = s.outstanding q := by
  constructor
  · simp only [outstanding, hraw, hall]
    exact unitsOn_unit_cons hu
  · intro other q hother hq
    cases hraw' : q.raw with
    | none => simp only [outstanding, hraw']
    | some raw' =>
      have hne : raw.stamp ≠ raw'.stamp := by
        intro hstamp
        have hmem := mem_rawPools.2 ⟨_, mem_all_of_get? hp, hraw⟩
        have hmem' := mem_rawPools.2 ⟨_, mem_all_of_get? hq, hraw'⟩
        obtain rfl := hs.poolStamps.inj raw hmem raw' hmem' hstamp
        exact hother (pool_unique hs hp hraw hq hraw')
      simp only [outstanding, hraw', hall]
      exact List.countP_cons_of_neg (by simp [Holder.isUnitOn, hu, hne])

/-! ## All creations -/

/-- The objects that are live are those that the holders of a session own, each once, if the driver
gives out new handles. -/
theorem liveObjects_of_run (hrun : (empty.run operations).Runs past (outcomes, s))
    (hfresh : Fresh past) : liveObjects past = objects (owned s.all) := by
  obtain ⟨hpermits, hbalanced⟩ := run_permits hrun hfresh fun x _ => hosted_by_all x
  rw [← hbalanced.live_eq]
  exact (objects_live_after (by simp [Ledger.start]) hfresh.along_start hpermits).symm

/-- What is said of the creation of pools and units in a session. -/
structure CreatesWhole (s : Session) (past : List Event) : Prop where
  /-- Live objects are those that the holders own, if the driver gives out new handles. -/
  live : Fresh past → liveObjects past = objects (owned s.all)
  /-- The drop of a pool that could not be made does nothing. -/
  poolDropped : ∀ context name,
    s.openPoolOrDrop context name = s.perform (.openPool context name)
  /-- The drop of a unit that could not be made does nothing. -/
  unitDropped : ∀ context pool name,
    s.openUnitOrDrop context pool name = s.perform (.openUnit context pool name)
  poolFailed : ∀ context name first e t,
    (s.perform (.openPool context name)).Runs first (.failed e, t) → s.Unchanged past first t
  unitFailed : ∀ context pool name first e t,
    (s.perform (.openUnit context pool name)).Runs first (.failed e, t) →
      s.Unchanged past first t ∧ FreesAllocated first
  /-- A pool comes with one raw pool on its family. -/
  poolMade : ∀ context name first t,
    (s.perform (.openPool context name)).Runs first (.done, t) →
      ∃ c handle, s.context? context = some c ∧
        s.Grown past first name
          (.pool ⟨c.device, some ⟨s.nextStamp, c.device, handle⟩, c.family⟩) [handle.object] t
  /-- A unit comes with one buffer and one fence, and is one more on the raw pool. -/
  unitMade : ∀ context pool name first t,
    (s.perform (.openUnit context pool name)).Runs first (.done, t) →
      ∃ c p raw buffer fence, s.context? context = some c ∧ s.pool? pool = some p ∧
        p.raw = some raw ∧
        s.Grown past first name (.unit { WorkUnit.ofPool p c.queue with buffer, fence })
          [buffer.object, fence.object] t ∧
        unitsOn (.unit { WorkUnit.ofPool p c.queue with buffer, fence } :: s.all) raw =
          s.outstanding p + 1 ∧
        (s.get? name = none → t.outstanding p = s.outstanding p + 1 ∧
          ∀ other q, other ≠ pool → s.get? other = some (.pool q) →
            t.outstanding q = s.outstanding q)

/-- After any operations, and whatever the driver answers, pools and units are created whole or not
at all. -/
theorem creations_whole (hrun : (empty.run operations).Runs past (outcomes, s)) :
    s.CreatesWhole past where
  live hfresh := liveObjects_of_run hrun hfresh
  poolDropped := s.openPoolOrDrop_eq
  unitDropped := s.openUnitOrDrop_eq
  poolFailed _ _ _ _ _ h := openPool_unchanged h
  unitFailed _ _ _ _ _ _ h := openUnit_unchanged h
  poolMade _ _ _ _ h := openPool_grown h
  unitMade context pool name first t h := by
    obtain ⟨c, p, raw, buffer, fence, hc, hp, hraw, hgrown⟩ := openUnit_grown h
    refine ⟨c, p, raw, buffer, fence, hc, hp, hraw, hgrown, ?_, fun hnew => ?_⟩
    · rw [unitsOn_unit_cons hraw, outstanding, hraw]
    · exact outstanding_of_unit (counted_of_run hrun) (get?_of_pool? hp) hraw hraw
        (hgrown.beside hnew)

/-! ### A refused fence -/

/-- The context makes a second unit on the pool, and the driver refuses the fence. -/
def refusedUnit (s : Session) : (Outcome × Session) × List Event × Nat :=
  (s.perform (.openUnit "c" "p" "v")).runWith
    (.numbering fun | .createFence .. => true | _ => false) 88

set_option maxRecDepth 4000 in
/-- The new buffer is freed, and the pool has one unit as before. -/
theorem refused_unit_leaves_nothing : ∃ p,
    (empty.played pooledOperations 1).1.2.get? "p" = some (.pool p) ∧
    liveObjects ((empty.played pooledOperations 1).2.1 ++
      (refusedUnit (empty.played pooledOperations 1).1.2).2.1) =
        liveObjects (empty.played pooledOperations 1).2.1 ∧
    (refusedUnit (empty.played pooledOperations 1).1.2).1.2.outstanding p = 1 ∧
    releases (refusedUnit (empty.played pooledOperations 1).1.2).2.1 = [⟨.buffer, 88⟩] := by
  have hpool : ((empty.played pooledOperations 1).1.2.pool? "p").any fun p =>
      (empty.played pooledOperations 1).1.2.outstanding p == 1 := by
    decide +kernel
  have hfailed : (refusedUnit (empty.played pooledOperations 1).1.2).1.1 =
      .failed (.fenceCreationFailed .initializationFailed) := by
    decide +kernel
  have hallocated : .answered (.allocateBuffer ⟨78⟩ ⟨82⟩) (.ok ⟨88⟩) ∈
      (refusedUnit (empty.played pooledOperations 1).1.2).2.1 :=
    List.mem_of_getElem? (i := 0) rfl
  have hrun := runs_played empty pooledOperations 1
  generalize empty.played pooledOperations 1 = run at *
  have hrefused : (run.1.2.perform (.openUnit "c" "p" "v")).Runs (refusedUnit run.1.2).2.1
      (refusedUnit run.1.2).1 := runs_runWith ..
  generalize refusedUnit run.1.2 = refused at *
  obtain ⟨⟨outcome, t⟩, first, _⟩ := refused
  obtain rfl : outcome = _ := hfailed
  obtain ⟨p, hp, hone⟩ := Option.any_eq_true _ _ |>.1 hpool
  obtain ⟨hunchanged, hfrees⟩ := (creations_whole hrun).unitFailed _ _ _ _ _ _ hrefused
  refine ⟨p, get?_of_pool? hp, hunchanged.live, ?_, (hfrees _ _ _ hallocated).2⟩
  rw [hunchanged.outstanding, beq_iff_eq.1 hone]

end Session

end VulkanExec
