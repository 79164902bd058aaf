import VulkanExec.Proofs.Counting.Pools
import VulkanExec.Proofs.Counting.Units
import VulkanExec.Proofs.Lifetime
import VulkanExec.Proofs.WorkUnit.Separation

/-!
# The family of a work pool

A work pool tells a queue family and, while it has one, a raw pool. The raw pool is on that family:
it was created on it for this work pool, and lives as long as the work pool has it. To bind the
work pool to another family is to let go of the raw pool first; if the driver then refuses a new
one, the work pool has none until it is bound again.

## Main definitions

- `Session.BoundSince`: where the raw pool of a work pool comes from;
- `Session.GivesBack`: what is destroyed when a work pool lets go of its raw pool;
- `Session.Rebound`: how a work pool is bound to a family that it is not on;
- `Session.Unbound`: what is said of a work pool without a raw pool;
- `Session.KeepsFamily`: what is said of a work pool.

The main statement is `Session.pool_keeps_family`.
-/

namespace VulkanExec

open Program

namespace Session

variable {s t : Session} {operation : Operation} {operations : List Operation}
  {outcomes : List Outcome} {events past first : List Event} {name : String} {p q : WorkPool}
  {raw : RawPool} {family : UInt32} {r : Outcome × Session}

/-! ## Where a raw pool comes from -/

/-- A raw pool was created on a family, for the work pool under a name, by an operation that is for
it, and at all times since then it has been behind that work pool, which has told that family. -/
inductive BoundSince (name : String) (raw : RawPool) (family : UInt32) :
    List Operation → List Event → Session → Prop where
  | created {earlier : List Operation} {operation : Operation} {outcomes : List Outcome}
      {past first : List Event} {before : Session} {r : Outcome × Session}
      (hpast : (empty.run earlier).Runs past (outcomes, before))
      (hnew : raw ∉ rawPools before.all) (hopens : before.Opens name family operation)
      (creating : (before.perform operation).Runs first r)
      (hcreated : .answered (.createPool raw.device.handle family resettableBuffers)
        (.ok raw.handle) ∈ first)
      (hthere : r.2.HasOn raw family name) :
      BoundSince name raw family (earlier ++ [operation]) (past ++ first) r.2
  | later {operations : List Operation} {operation : Operation} {past first : List Event}
      {s : Session} {r : Outcome × Session} (since : BoundSince name raw family operations past s)
      (performing : (s.perform operation).Runs first r) (hthere : r.2.HasOn raw family name) :
      BoundSince name raw family (operations ++ [operation]) (past ++ first) r.2

/-- The raw pool behind a work pool was created for it on the family that it tells. -/
theorem bound_since_of_run (hrun : (empty.run operations).Runs events (outcomes, s))
    (hp : s.get? name = some (.pool p)) (hraw : p.raw = some raw) :
    BoundSince name raw p.family operations events s := by
  refine run_induction_outcomes (I := fun operations _ past s =>
    ∀ p, s.get? name = some (.pool p) → p.raw = some raw →
      BoundSince name raw p.family operations past s) hrun nofun ?_ p hp hraw
  intro done operation past before s first r _ _ hpast hfirst ih q hq hraw'
  rcases (runs_perform hfirst).bound_cases hq hraw' with ⟨p, hp, hraw, hfamily⟩ |
    ⟨hstamp, hopens, hcreated⟩
  · exact .later (hfamily ▸ ih p hp hraw) hfirst ⟨q, hq, hraw', rfl⟩
  · have hnew := (counted_of_run hpast).poolStamps.notMem hstamp
    exact .created hpast hnew hopens hfirst hcreated ⟨q, hq, hraw', rfl⟩

/-! ## Raw pools that live -/

/-- A raw pool that somebody holds was created more often than destroyed, whatever handles the
driver gives out. -/
theorem live_of_held (hrun : (empty.run operations).Runs events (outcomes, s))
    (hraw : raw ∈ rawPools s.all) :
    (poolsDestroyed events : Multiset (DeviceHandle × PoolHandle)).count raw.key <
      (poolsMade events : Multiset (DeviceHandle × PoolHandle)).count raw.key := by
  have hheld : 0 < (poolKeys (rawPools s.all)).count raw.key :=
    Multiset.count_pos.2 (Multiset.mem_sum.2 ⟨raw, hraw, Multiset.mem_singleton_self _⟩)
  rw [pools_made_of_run hrun, Multiset.count_add]
  exact Nat.lt_add_of_pos_right hheld

/-- A raw pool that somebody holds has not been destroyed, if the driver gives out new handles. -/
theorem unreleased_of_held (hrun : (empty.run operations).Runs events (outcomes, s))
    (hfresh : Fresh events) (hraw : raw ∈ rawPools s.all) :
    ∀ e ∈ events, e.releases raw.handle.object = false := by
  obtain ⟨hpermits, hbalanced⟩ := run_permits hrun hfresh fun x _ => hosted_by_all x
  refine (hfresh.created_of_live hpermits ?_).2
  rw [hbalanced.live_eq]
  exact mem_objects_of_mem (e := raw.entry) (mem_owned.2 (.inr (.inl ⟨raw, hraw, rfl⟩)))

/-! ## Letting go -/

/-- What is destroyed when a work pool lets go of its raw pool: the raw pool, unless a unit holds
it. -/
inductive GivesBack (s : Session) (p : WorkPool) : List Command → Prop where
  | nothing (hraw : p.raw = none) : GivesBack s p []
  | shared {raw : RawPool} {unit : String} (hraw : p.raw = some raw)
      (hunit : s.HoldsRaw raw unit) : GivesBack s p []
  | last {raw : RawPool} (hraw : p.raw = some raw) (hunits : ∀ unit, ¬ s.HoldsRaw raw unit) :
      GivesBack s p [.destroyPool raw.device.handle raw.handle]

/-- No unit is counted for a work pool exactly when none holds its raw pool. -/
theorem outstanding_eq_zero_iff (hrun : (empty.run operations).Runs events (outcomes, s))
    (hp : s.get? name = some (.pool p)) (hraw : p.raw = some raw) :
    s.outstanding p = 0 ↔ ∀ unit, ¬ s.HoldsRaw raw unit := by
  obtain ⟨history, -, hlive⟩ := held_since_of_run hrun hp hraw
  have hsame : {unit | s.HoldsRaw raw unit} = (liveUnits name history : Set String) := by
    ext unit
    exact (hlive unit).symm
  rw [outstanding_eq_ncard (counted_of_run hrun) hp hraw, hsame, Set.ncard_coe_finset,
    Finset.card_eq_zero, Finset.eq_empty_iff_forall_notMem]
  exact forall_congr' fun unit => not_congr (hlive unit)

theorem gives_back_of_release (hrun : (empty.run operations).Runs events (outcomes, s))
    (hp : s.get? name = some (.pool p)) (h : (p.release (s.outstanding p)).Runs first q) :
    s.GivesBack p (Event.commands first) := by
  unfold WorkPool.release at h
  split at h
  next hnone =>
    obtain ⟨rfl, -⟩ := runs_pure_iff.1 h
    exact .nothing hnone
  next raw hraw =>
    have hzero := outstanding_eq_zero_iff hrun hp hraw
    split at h
    case isTrue hlast =>
      obtain ⟨_, _, _, rfl, hdestroy, hend⟩ := runs_bind_iff.1 h
      obtain ⟨rfl, -⟩ := runs_pure_iff.1 hend
      obtain ⟨_, _, rfl, hlog⟩ := runs_ask_iff.1 hdestroy
      obtain ⟨_, rfl, hdone⟩ := runs_log_iff.1 hlog
      obtain ⟨rfl, -⟩ := runs_done_iff.1 hdone
      exact .last hraw (hzero.1 hlast)
    case isFalse hothers =>
      obtain ⟨unit, hunit⟩ : ∃ unit, s.HoldsRaw raw unit := by
        by_contra hnone
        exact hothers (hzero.2 (not_exists.1 hnone))
      obtain ⟨_, rfl, hend⟩ := runs_log_iff.1 h
      obtain ⟨rfl, -⟩ := runs_pure_iff.1 hend
      exact .shared hraw hunit

/-! ## A work pool without a raw pool -/

/-- What is said of a work pool without a raw pool. -/
structure Unbound (s : Session) (name : String) (p : WorkPool) : Prop where
  handle : p.handle = .null
  outstanding : s.outstanding p = 0
  /-- A unit that is made on it cannot be allocated. -/
  unallocated : ∀ unit queue events outcomes t,
    (s.run [.newUnit name queue unit, .allocate unit]).Runs events (outcomes, t) →
      outcomes = [.done, .failed (.notInitialized "work pool")]
  /-- No allocated unit is made on it, and the driver is not asked for one. -/
  unopened : ∀ context unit c events r, s.context? context = some c →
    (s.perform (.openUnit context name unit)).Runs events r →
      events = [] ∧ r = (.failed (.notInitialized "work pool"), s)
  /-- To bind it is to ask the driver for a raw pool and for nothing else, on any family. -/
  asked : ∀ family events r, (s.perform (.bindPool name family)).Runs events r →
    Event.commands events = [.createPool p.device.handle family resettableBuffers]
  /-- To let go of it, however often, is to do nothing. -/
  released : ∀ n events outcomes t,
    (s.run (List.replicate n (.releasePool name))).Runs events (outcomes, t) →
      events = [] ∧ outcomes = List.replicate n .done ∧ ∀ other, t.get? other = s.get? other

theorem pool?_of_get? (hp : s.get? name = some (.pool p)) : s.pool? name = some p := by
  rw [pool?, hp]

theorem runs_bindPool (hp : s.get? name = some (.pool p))
    (h : (s.perform (.bindPool name family)).Runs events r) :
    ∃ result q, (p.bindTo family (s.outstanding p) s.nextStamp).Runs events (result, q) ∧
      r = s.stamped.2.update name (.pool q) result := by
  rw [perform, bindPool, pool?_of_get? hp] at h
  obtain ⟨first, _, ⟨result, q⟩, rfl, hbind, hend⟩ := runs_bind_iff.1 h
  obtain ⟨rfl, rfl⟩ := runs_pure_iff.1 hend
  rw [List.append_nil]
  exact ⟨result, q, hbind, rfl⟩

theorem runs_releasePool (hp : s.get? name = some (.pool p))
    (h : (s.perform (.releasePool name)).Runs events r) :
    (p.release (s.outstanding p)).Runs events { p with raw := none } ∧
      r = (.done, s.set name (.pool { p with raw := none })) := by
  rw [perform, releasePool, pool?_of_get? hp] at h
  obtain ⟨first, _, q, rfl, hrelease, hend⟩ := runs_bind_iff.1 h
  obtain ⟨rfl, rfl⟩ := runs_pure_iff.1 hend
  obtain rfl := WorkPool.runs_release hrelease
  rw [List.append_nil]
  exact ⟨hrelease, rfl⟩

/-- To put back the holder under a name is to change nothing. -/
theorem get?_set_same {h : Holder} (hget : s.get? name = some h) (other : String) :
    (s.set name h).get? other = s.get? other := by
  rw [get?_set]
  split
  · next hsame => rw [hsame, hget]
  · rfl

/-- A work pool without a raw pool lets go of nothing. -/
theorem runs_release_of_none {units : Nat} (hraw : p.raw = none)
    (h : (p.release units).Runs events q) : events = [] ∧ q = p := by
  rw [WorkPool.release, hraw] at h
  exact runs_pure_iff.1 h

theorem runs_releases_of_none {n : Nat} (hp : s.get? name = some (.pool p)) (hraw : p.raw = none)
    (h : (s.run (List.replicate n (.releasePool name))).Runs events (outcomes, t)) :
    events = [] ∧ outcomes = List.replicate n .done ∧ ∀ other, t.get? other = s.get? other := by
  induction n generalizing s events outcomes with
  | zero =>
    obtain ⟨rfl, he⟩ := runs_pure_iff.1 h
    cases he
    exact ⟨rfl, rfl, fun _ => rfl⟩
  | succ n ih =>
    obtain ⟨first, second, r, rest, rfl, hfirst, hrest, rfl⟩ := runs_perform_of_cons h
    obtain ⟨hrelease, rfl⟩ := runs_releasePool hp hfirst
    obtain ⟨rfl, hkept⟩ := runs_release_of_none hraw hrelease
    rw [hkept] at hrest
    have hsame := get?_set_same hp
    obtain ⟨rfl, rfl, hlater⟩ := ih ((hsame name).trans hp) hrest
    exact ⟨rfl, rfl, fun other => (hlater other).trans (hsame other)⟩

/-- A unit on a work pool without a raw pool is not allocated. -/
theorem runs_allocate_of_none {queue : QueueHandle} {result : WorkUnit.Outcome}
    (hraw : p.raw = none) (h : (WorkUnit.ofPool p queue).allocate.Runs events result) :
    events = [] ∧ result = (.error (.notInitialized "work pool"), .ofPool p queue) := by
  have hpool : (WorkUnit.ofPool p queue).pool = none := hraw
  rw [WorkUnit.allocate, hpool] at h
  obtain ⟨rfl, rfl⟩ := runs_pure_iff.1 h
  exact ⟨rfl, rfl⟩

theorem unbound_of_none (hp : s.get? name = some (.pool p)) (hraw : p.raw = none) :
    s.Unbound name p where
  handle := by rw [WorkPool.handle, hraw]; rfl
  outstanding := by rw [outstanding, hraw]
  unallocated unit queue events outcomes t h := by
    obtain ⟨first, _, _, _, rfl, hmake, hrest, rfl⟩ := runs_perform_of_cons h
    obtain ⟨second, _, r, _, rfl, hallocate, hend, rfl⟩ := runs_perform_of_cons hrest
    obtain ⟨rfl, he⟩ := runs_pure_iff.1 hend
    cases he
    rw [perform, pool?_of_get? hp] at hmake
    rcases runs_keep hmake with ⟨_, he, _⟩ | ⟨u, he, _, rfl⟩ <;> cases he
    have hunit : (s.set unit (.unit (.ofPool p queue))).get? unit =
        some (.unit (.ofPool p queue)) := by simp
    obtain ⟨result, v, hrun, rfl⟩ := runs_onUnit hunit hallocate
    obtain ⟨-, he⟩ := runs_allocate_of_none hraw hrun
    cases he
    rfl
  unopened context unit c events r hc h := by
    rw [perform, openUnit, pool?_of_get? hp, hc] at h
    obtain ⟨first, second, _, rfl, hallocate, hkeep⟩ := runs_bind_iff.1 h
    obtain ⟨rfl, rfl⟩ := runs_allocate_of_none hraw hallocate
    obtain ⟨rfl, rfl⟩ := runs_pure_iff.1 hkeep
    exact ⟨rfl, rfl⟩
  asked family events r h := by
    obtain ⟨result, q, hbind, -⟩ := runs_bindPool hp h
    cases WorkPool.runs_bindTo hbind with
    | bound hbound => exact absurd hraw hbound
    | refused releasing | created releasing =>
      obtain ⟨rfl, -⟩ := runs_release_of_none hraw releasing
      rfl
  released n events outcomes t h := runs_releases_of_none hp hraw h

/-! ## A work pool that is bound again -/

/-- How a work pool is bound to a family that it is not on: it lets go of its raw pool, and then a
new one is created or refused. -/
inductive Rebound (s : Session) (name : String) (p : WorkPool) (family : UInt32) :
    List Event → Outcome × Session → Prop where
  | created {events : List Event} {r : Outcome × Session} {back : List Command} {stamp : Nat}
      {handle : PoolHandle} (hback : s.GivesBack p back)
      (hcommands : Event.commands events =
        back ++ [.createPool p.device.handle family resettableBuffers])
      (hanswer : .answered (.createPool p.device.handle family resettableBuffers) (.ok handle) ∈
        events)
      (hdone : r.1 = .done)
      (hpool : r.2.get? name = some (.pool ⟨p.device, some ⟨stamp, p.device, handle⟩, family⟩)) :
      Rebound s name p family events r
  | refused {events : List Event} {r : Outcome × Session} {back : List Command}
      {code : ResultCode} (hback : s.GivesBack p back)
      (hcommands : Event.commands events =
        back ++ [.createPool p.device.handle family resettableBuffers])
      (hanswer : .answered (.createPool p.device.handle family resettableBuffers)
        (.error code) ∈ events)
      (hfailed : r.1 = .failed (.poolCreationFailed code))
      (hpool : r.2.get? name = some (.pool { p with raw := none }))
      (hunbound : r.2.Unbound name { p with raw := none }) : Rebound s name p family events r

theorem rebound_of_binding (hrun : (empty.run operations).Runs past (outcomes, s))
    (hp : s.get? name = some (.pool p)) (hother : p.raw = none ∨ p.family ≠ family)
    (h : (s.perform (.bindPool name family)).Runs events r) :
    s.Rebound name p family events r := by
  obtain ⟨result, q, hbind, rfl⟩ := runs_bindPool hp h
  cases WorkPool.runs_bindTo hbind with
  | bound hbound hfamily =>
    rcases hother with hraw | hne
    · exact absurd hraw hbound
    · exact absurd hfamily hne
  | refused releasing =>
    have hpool : (s.stamped.2.set name (.pool { p with raw := none })).get? name =
        some (.pool { p with raw := none }) := by simp
    refine .refused (gives_back_of_release hrun hp releasing) ?_ (by simp) rfl hpool
      (unbound_of_none hpool rfl)
    rw [Event.commands_append]
    rfl
  | created releasing =>
    refine .created (gives_back_of_release hrun hp releasing) ?_
      (List.mem_append_right _ List.mem_cons_self) rfl ((get?_set ..).trans (if_pos rfl))
    rw [Event.commands_append]
    rfl

/-! ## The whole of a work pool -/

/-- What is said of the work pool under a name after some operations. -/
structure KeepsFamily (s : Session) (name : String) (p : WorkPool) (operations : List Operation)
    (events : List Event) : Prop where
  /-- A handle is that of a raw pool. -/
  handle : p.handle ≠ .null → ∃ raw, p.raw = some raw ∧ p.handle = raw.handle
  /-- The raw pool was created for this work pool, on its device and on the family that it tells. -/
  created : ∀ raw, p.raw = some raw →
    raw.device = p.device ∧ BoundSince name raw p.family operations events s
  /-- The raw pool was not destroyed as often as it was created. -/
  live : ∀ raw, p.raw = some raw →
    (poolsDestroyed events : Multiset (DeviceHandle × PoolHandle)).count raw.key <
      (poolsMade events : Multiset (DeviceHandle × PoolHandle)).count raw.key
  /-- It was never destroyed if the driver gives out new handles. -/
  unreleased : Fresh events → ∀ raw, p.raw = some raw →
    ∀ e ∈ events, e.releases raw.handle.object = false
  /-- On its own family, a work pool with a raw pool is bound already. -/
  bound : p.raw ≠ none → ∀ first r, (s.perform (.bindPool name p.family)).Runs first r →
    first = [] ∧ r.1 = .done ∧ ∀ other, r.2.get? other = s.get? other
  rebound : ∀ family first r, p.raw = none ∨ p.family ≠ family →
    (s.perform (.bindPool name family)).Runs first r → s.Rebound name p family first r
  /-- To let go of the raw pool is to destroy it, unless a unit holds it. -/
  released : ∀ first r, (s.perform (.releasePool name)).Runs first r →
    s.GivesBack p (Event.commands first) ∧ r.1 = .done ∧
      r.2.get? name = some (.pool { p with raw := none }) ∧
      r.2.Unbound name { p with raw := none }
  unbound : p.raw = none → s.Unbound name p

/-- After any operations, and whatever the driver answers, a work pool with a raw pool is on the
family that it tells. -/
theorem pool_keeps_family (hrun : (empty.run operations).Runs events (outcomes, s))
    (hp : s.get? name = some (.pool p)) : s.KeepsFamily name p operations events where
  handle hhandle := by
    cases hraw : p.raw with
    | none => exact absurd (by rw [WorkPool.handle, hraw]; rfl) hhandle
    | some raw => exact ⟨raw, rfl, by rw [WorkPool.handle, hraw]; rfl⟩
  created raw hraw := by
    have hdevice := (counted_of_run hrun).pool _ (mem_all_of_get? hp) raw hraw
    exact ⟨(Option.some.inj hdevice).symm, bound_since_of_run hrun hp hraw⟩
  live raw hraw := live_of_held hrun (mem_rawPools.2 ⟨_, mem_all_of_get? hp, hraw⟩)
  unreleased hfresh raw hraw :=
    unreleased_of_held hrun hfresh (mem_rawPools.2 ⟨_, mem_all_of_get? hp, hraw⟩)
  bound hbound first r h := by
    obtain ⟨result, q, hbind, rfl⟩ := runs_bindPool hp h
    rw [WorkPool.bindTo, if_pos (by simpa [Option.isSome_iff_ne_none] using hbound)] at hbind
    obtain ⟨rfl, he⟩ := runs_pure_iff.1 hbind
    cases he
    exact ⟨rfl, rfl, get?_set_same (s := s.stamped.2) hp⟩
  rebound family first r hother h := rebound_of_binding hrun hp hother h
  released first r h := by
    obtain ⟨hrelease, rfl⟩ := runs_releasePool hp h
    have hpool : (s.set name (.pool { p with raw := none })).get? name =
        some (.pool { p with raw := none }) := by simp
    exact ⟨gives_back_of_release hrun hp hrelease, rfl, hpool, unbound_of_none hpool rfl⟩
  unbound hraw := unbound_of_none hp hraw

/-! ### A refused raw pool -/

/-- A pool has a unit. -/
def pooledOperations : List Operation :=
  [.establish { Config.default with validation := false } 0 "c", .openPool "c" "p",
    .openUnit "c" "p" "u"]

/-- The pool is bound to another family, and the driver refuses the raw pool. -/
def refusedBinding (s : Session) : (Outcome × Session) × List Event × Nat :=
  (s.perform (.bindPool "p" 7)).runWith (.numbering Command.isForPool) 88

theorem refused_pool_leaves_none : ∃ p,
    (empty.played pooledOperations 1).1.2.get? "p" = some (.pool p) ∧ p.handle ≠ .null ∧
    (refusedBinding (empty.played pooledOperations 1).1.2).1.2.Unbound "p"
      { p with raw := none } := by
  have hpool : ((empty.played pooledOperations 1).1.2.pool? "p").any fun p =>
      p.handle ≠ .null && p.family ≠ 7 := by
    decide +kernel
  have hrefused : (refusedBinding (empty.played pooledOperations 1).1.2).1.1 ≠ .done := by
    decide +kernel
  have hrun := runs_played empty pooledOperations 1
  generalize empty.played pooledOperations 1 = run at *
  have hbinding : (run.1.2.perform (.bindPool "p" 7)).Runs (refusedBinding run.1.2).2.1
      (refusedBinding run.1.2).1 := runs_runWith ..
  generalize refusedBinding run.1.2 = binding at *
  obtain ⟨p, hp, hon⟩ := Option.any_eq_true _ _ |>.1 hpool
  obtain ⟨hhandle, hfamily⟩ := Bool.and_eq_true_iff.1 hon
  have hkeeps := pool_keeps_family hrun (get?_of_pool? hp)
  cases hkeeps.rebound 7 _ _ (.inr (of_decide_eq_true hfamily)) hbinding with
  | created _ _ _ hdone => exact absurd hdone hrefused
  | refused _ _ _ _ _ hunbound =>
    exact ⟨p, get?_of_pool? hp, of_decide_eq_true hhandle, hunbound⟩

end Session

end VulkanExec
