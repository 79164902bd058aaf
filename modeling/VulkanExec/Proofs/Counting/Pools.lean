import Mathlib.Algebra.BigOperators.Group.Finset.Piecewise
import VulkanExec.Proofs.Counting.Shares

/-!
# Raw pools come and go

A raw pool is created when a work pool takes it on, and destroyed when the last holder lets go of
it: neither earlier nor later, and only once. So the raw pools that were created are those that were
destroyed and those that somebody holds.

## Main definitions

- `RawPool.key`: the handles of a raw pool and of its device;
- `poolsMade`, `poolsDestroyed`: the raw pools that are created and destroyed in some events;
- `Exchanged`: events in which the raw pools that are held change.

The main statements are `Session.Step.exchanged`, about one operation, and
`Session.pools_made_of_run`, about all of them.
-/

namespace VulkanExec

open Program

/-- The handles of a raw pool and of its device. -/
def RawPool.key (raw : RawPool) : DeviceHandle × PoolHandle := (raw.device.handle, raw.handle)

/-- The keys of some raw pools. -/
def poolKeys (pools : Finset RawPool) : Multiset (DeviceHandle × PoolHandle) :=
  ∑ raw ∈ pools, {raw.key}

@[simp] theorem poolKeys_empty : poolKeys ∅ = 0 := rfl

@[simp] theorem poolKeys_singleton (raw : RawPool) : poolKeys {raw} = {raw.key} :=
  Finset.sum_singleton ..

theorem poolKeys_add_of_disjoint {pools others : Finset RawPool} (h : Disjoint pools others) :
    poolKeys pools + poolKeys others = poolKeys (pools ∪ others) := (Finset.sum_union h).symm

theorem poolKeys_sdiff_add_inter (pools others : Finset RawPool) :
    poolKeys (pools \ others) + poolKeys (pools ∩ others) = poolKeys pools := by
  rw [add_comm]
  exact Finset.sum_inter_add_sum_sdiff ..

/-! ## Events -/

/-- Whether a command creates or destroys a raw pool. -/
def Command.isForPool : Command → Bool
  | createPool .. | destroyPool .. => true
  | _ => false

/-- The raw pool that is created at an event. -/
def Event.poolMade? : Event → Option (DeviceHandle × PoolHandle)
  | answered (.createPool d _ _) (.ok p) => some (d, p)
  | _ => none

/-- The raw pool that is destroyed at an event. -/
def Event.poolDestroyed? : Event → Option (DeviceHandle × PoolHandle)
  | answered (.destroyPool d p) _ => some (d, p)
  | _ => none

/-- The raw pools that are created in some events, in order. -/
def poolsMade (events : List Event) : List (DeviceHandle × PoolHandle) :=
  events.filterMap Event.poolMade?

/-- The raw pools that are destroyed in some events, in order. -/
def poolsDestroyed (events : List Event) : List (DeviceHandle × PoolHandle) :=
  events.filterMap Event.poolDestroyed?

section Events

variable {α : Type} {first second events : List Event} {p : Program α} {a : α}

@[simp] theorem poolsMade_append :
    poolsMade (first ++ second) = poolsMade first ++ poolsMade second := List.filterMap_append

@[simp] theorem poolsDestroyed_append :
    poolsDestroyed (first ++ second) = poolsDestroyed first ++ poolsDestroyed second :=
  List.filterMap_append

/-- Without a command that is for raw pools, none is created or destroyed. -/
theorem no_pools_of_only (h : p.Only fun c => c.isForPool = false) (hruns : p.Runs events a) :
    poolsMade events = [] ∧ poolsDestroyed events = [] := by
  have hnone : ∀ e ∈ events, e.poolMade? = none ∧ e.poolDestroyed? = none := by
    intro e he
    cases e with
    | noted n => exact ⟨rfl, rfl⟩
    | answered c answer =>
      have hc := h.of_mem hruns he
      cases c <;> first | exact ⟨rfl, rfl⟩ | cases hc
  exact ⟨List.filterMap_eq_nil_iff.2 fun e he => (hnone e he).1,
    List.filterMap_eq_nil_iff.2 fun e he => (hnone e he).2⟩

theorem WorkUnit.Turns.no_pools {u v : WorkUnit} (h : u.Turns events v) :
    poolsMade events = [] ∧ poolsDestroyed events = [] := by
  induction h with
  | nil => exact ⟨rfl, rfl⟩
  | cons head _ ih =>
    rw [poolsMade_append, poolsDestroyed_append, ih.1, ih.2]
    cases head <;> exact ⟨rfl, rfl⟩

end Events

/-! ## Exchanges -/

/-- Events in which the raw pools that are held change from the first ones to the second ones. What
is new is created, what is gone is destroyed, and nothing else is. -/
structure Exchanged (before after : Finset RawPool) (events : List Event) : Prop where
  made : (poolsMade events : Multiset (DeviceHandle × PoolHandle)) = poolKeys (after \ before)
  destroyed :
    (poolsDestroyed events : Multiset (DeviceHandle × PoolHandle)) = poolKeys (before \ after)

section Exchanged

variable {before middle after : Finset RawPool} {first second events : List Event}

theorem exchanged_of_no_pools (h : poolsMade events = [] ∧ poolsDestroyed events = [])
    (hsame : after = before) : Exchanged before after events := by
  subst hsame
  exact ⟨by simp [h.1], by simp [h.2]⟩

/-- Exchanges follow one another if no raw pool goes and comes back, or comes and goes again. -/
theorem Exchanged.append (h : Exchanged before middle first) (h' : Exchanged middle after second)
    (hkept : before ∩ after ⊆ middle) (hpassed : middle ⊆ before ∪ after) :
    Exchanged before after (first ++ second) := by
  constructor
  · have hsplit : middle \ before ∪ after \ middle = after \ before := by
      ext raw
      have hin := @hkept raw
      have hout := @hpassed raw
      simp only [Finset.mem_union, Finset.mem_inter, Finset.mem_sdiff] at hin hout ⊢
      tauto
    rw [poolsMade_append, ← Multiset.coe_add, h.made, h'.made, poolKeys_add_of_disjoint, hsplit]
    exact Finset.disjoint_left.2 fun raw hraw hraw' =>
      (Finset.mem_sdiff.1 hraw').2 (Finset.mem_sdiff.1 hraw).1
  · have hsplit : before \ middle ∪ middle \ after = before \ after := by
      ext raw
      have hin := @hkept raw
      have hout := @hpassed raw
      simp only [Finset.mem_union, Finset.mem_inter, Finset.mem_sdiff] at hin hout ⊢
      tauto
    rw [poolsDestroyed_append, ← Multiset.coe_add, h.destroyed, h'.destroyed,
      poolKeys_add_of_disjoint, hsplit]
    exact Finset.disjoint_left.2 fun raw hraw hraw' =>
      (Finset.mem_sdiff.1 hraw).2 (Finset.mem_sdiff.1 hraw').1

/-- Other events may follow an exchange. -/
theorem Exchanged.append_no_pools (h : Exchanged before after first)
    (hnone : poolsMade second = [] ∧ poolsDestroyed second = []) :
    Exchanged before after (first ++ second) :=
  h.append (exchanged_of_no_pools hnone rfl) Finset.inter_subset_right Finset.subset_union_right

/-- What is created in an exchange is what was destroyed and what is held more. -/
theorem Exchanged.balance (h : Exchanged before after events) :
    (poolsMade events : Multiset (DeviceHandle × PoolHandle)) + poolKeys before =
      poolsDestroyed events + poolKeys after := by
  rw [h.made, h.destroyed, ← poolKeys_sdiff_add_inter before after,
    ← poolKeys_sdiff_add_inter after before, Finset.inter_comm before after]
  abel

end Exchanged

/-! ## Holders that let go -/

section Holders

variable {n : Nat} {x : Holder} {hs : List Holder} {c : Context} {d : Device} {p : WorkPool}
  {u v : WorkUnit} {raw : RawPool} {events : List Event}

theorem runs_destroy (h : raw.destroy.Runs events ()) :
    poolsMade events = [] ∧ poolsDestroyed events = [raw.key] := by
  obtain ⟨_, _, rfl, hlog⟩ := runs_ask_iff.1 h
  obtain ⟨_, rfl, hend⟩ := runs_note_iff.1 hlog
  obtain ⟨rfl, -⟩ := runs_done_iff.1 hend
  exact ⟨rfl, rfl⟩

/-- The raw pool that only the first holder has is destroyed without it. -/
theorem exchanged_of_destroy (hraw : x.rawPool? = some raw) (hlast : raw ∉ rawPools hs)
    (h : raw.destroy.Runs events ()) : Exchanged (rawPools (x :: hs)) (rawPools hs) events := by
  obtain ⟨hmade, hdestroyed⟩ := runs_destroy h
  rw [rawPools_cons, hraw, Option.toFinset_some]
  constructor
  · rw [hmade, Finset.sdiff_eq_empty_iff_subset.2 Finset.subset_union_right]
    rfl
  · rw [hdestroyed, Finset.union_sdiff_right,
      Finset.sdiff_eq_self_of_disjoint (Finset.disjoint_singleton_left.2 hlast),
      poolKeys_singleton]
    rfl

/-- The raw pool that somebody else has too is kept. -/
theorem rawPools_cons_of_shared (h : ∀ raw, x.rawPool? = some raw → raw ∈ rawPools hs) :
    rawPools hs = rawPools (x :: hs) := by
  rw [rawPools_cons, eq_comm, Finset.union_eq_right]
  intro raw hraw
  exact h raw (by simpa [eq_comm] using hraw)

theorem rawPools_cons_of_none (h : x.rawPool? = none) : rawPools hs = rawPools (x :: hs) :=
  rawPools_cons_of_shared (by simp [h])

theorem exchanged_of_letGo (hshared : Shared n (x :: hs))
    (h : (letGo hs x.rawPool?).Runs events ()) :
    Exchanged (rawPools (x :: hs)) (rawPools hs) events := by
  unfold letGo releasePool at h
  split at h
  next hnone =>
    obtain ⟨rfl, -⟩ := runs_pure_iff.1 h
    exact exchanged_of_no_pools ⟨rfl, rfl⟩ (rawPools_cons_of_none hnone)
  next raw hraw =>
    have hheld := hshared.poolStamps.poolHeld_iff hraw
    split at h
    case isTrue hothers =>
      obtain ⟨rfl, -⟩ := runs_pure_iff.1 h
      refine exchanged_of_no_pools ⟨rfl, rfl⟩ (rawPools_cons_of_shared ?_)
      simpa [hraw] using hheld.1 hothers
    case isFalse hlast => exact exchanged_of_destroy hraw (fun hm => hlast (hheld.2 hm)) h

theorem no_pools_releaseDevice (h : (releaseDevice hs d).Runs events ()) :
    poolsMade events = [] ∧ poolsDestroyed events = [] := by
  refine no_pools_of_only (only_releaseDevice_of_destroyDevice rfl rfl ?_) h
  exact fun _ _ => only_instance_close rfl fun _ _ => rfl

/-- A unit lets go of its raw pool after it has freed its buffer and its fence. -/
theorem exchanged_of_retireUnit (hshared : Shared n (.unit u :: hs))
    (h : (retireUnit hs u).Runs events v) :
    Exchanged (rawPools (.unit u :: hs)) (rawPools hs) events := by
  rw [retireUnit_eq] at h
  obtain ⟨settling, _, _, rfl, hsettle, h⟩ := runs_bind_iff.1 h
  obtain ⟨fence, _, _, rfl, hfence, h⟩ := runs_bind_iff.1 h
  obtain ⟨buffer, _, _, rfl, hbuffer, h⟩ := runs_bind_iff.1 h
  obtain ⟨pool, _, _, rfl, hletGo, h⟩ := runs_bind_iff.1 h
  obtain ⟨rfl, -⟩ := runs_pure_iff.1 h
  have hsettled := no_pools_of_only (only_settle_of_waitIdle fun _ => rfl) hsettle
  have hfreed := no_pools_of_only (only_dropFence_of_destroyFence rfl) hfence
  have hemptied := no_pools_of_only (only_dropBuffer_of_freeBuffer fun _ _ => rfl) hbuffer
  have hpool : Exchanged (rawPools (.unit u :: hs)) (rawPools hs) pool :=
    exchanged_of_letGo hshared hletGo
  constructor
  · simpa [hsettled, hfreed, hemptied] using hpool.made
  · simpa [hsettled, hfreed, hemptied] using hpool.destroyed

/-- With a holder goes its raw pool, if nobody else has it. -/
theorem exchanged_of_drop (hshared : Shared n (x :: hs)) (h : (x.drop hs).Runs events ()) :
    Exchanged (rawPools (x :: hs)) (rawPools hs) events := by
  cases x with
  | context c =>
    rw [Holder.drop_context] at h
    obtain ⟨_, _, _, rfl, htell, h⟩ := runs_bind_iff.1 h
    have htold : Exchanged (rawPools (.context c :: hs)) (rawPools hs) _ :=
      exchanged_of_no_pools (no_pools_of_only only_tellOthers htell) (rawPools_cons_of_none rfl)
    exact htold.append_no_pools (no_pools_releaseDevice h)
  | share d => exact exchanged_of_no_pools (no_pools_releaseDevice h) (rawPools_cons_of_none rfl)
  | pool p =>
    rw [Holder.drop_pool] at h
    obtain ⟨_, _, _, rfl, hletGo, h⟩ := runs_bind_iff.1 h
    exact (exchanged_of_letGo hshared hletGo).append_no_pools (no_pools_releaseDevice h)
  | unit u =>
    rw [Holder.drop_unit] at h
    obtain ⟨_, _, _, rfl, hretire, h⟩ := runs_bind_iff.1 h
    exact (exchanged_of_retireUnit hshared hretire).append_no_pools (no_pools_releaseDevice h)
  | inst i =>
    exact exchanged_of_no_pools (no_pools_of_only (only_instance_close rfl fun _ _ => rfl) h)
      (rawPools_cons_of_none rfl)
  | bareDevice d =>
    obtain ⟨rfl, -⟩ := runs_pure_iff.1 h
    exact exchanged_of_no_pools ⟨rfl, rfl⟩ (rawPools_cons_of_none rfl)

/-! ## Pools -/

/-- A work pool lets go of its raw pool, which is destroyed if no unit shares it. -/
theorem exchanged_of_release {q : WorkPool} {units : Nat} (hshared : Shared n (.pool p :: hs))
    (hunits : ∀ raw, p.raw = some raw → units = unitsOn (.pool p :: hs) raw)
    (h : (p.release units).Runs events q) :
    Exchanged (rawPools (.pool p :: hs)) (rawPools hs) events := by
  unfold WorkPool.release at h
  split at h
  next hnone =>
    obtain ⟨rfl, -⟩ := runs_pure_iff.1 h
    exact exchanged_of_no_pools ⟨rfl, rfl⟩
      (rawPools_cons_of_none hnone)
  next raw hraw =>
    have hzero := hshared.unitsOn_eq_zero_iff hraw
    rw [← hunits raw hraw] at hzero
    split at h
    case isTrue hlast =>
      obtain ⟨_, _, _, rfl, hdestroy, hend⟩ := runs_bind_iff.1 h
      obtain ⟨rfl, -⟩ := runs_pure_iff.1 hend
      rw [List.append_nil]
      exact exchanged_of_destroy hraw (hzero.1 hlast) hdestroy
    case isFalse hothers =>
      obtain ⟨_, rfl, hend⟩ := runs_log_iff.1 h
      obtain ⟨rfl, -⟩ := runs_pure_iff.1 hend
      refine exchanged_of_no_pools ⟨rfl, rfl⟩ (rawPools_cons_of_shared ?_)
      simpa [Holder.rawPool?, hraw] using mt hzero.2 hothers

/-- A work pool without a raw pool takes on a new one. -/
theorem exchanged_of_create {q : WorkPool} (hshared : Shared n hs) (hq : q.raw = some raw)
    (hstamp : raw.stamp = n) (family : UInt32) (record : LogRecord) :
    Exchanged (rawPools hs) (rawPools (.pool q :: hs))
      [.answered (.createPool raw.device.handle family resettableBuffers) (.ok raw.handle),
        .noted (.log record)] := by
  have hnew := hshared.poolStamps.notMem hstamp
  rw [rawPools_cons, Holder.rawPool?, hq, Option.toFinset_some]
  constructor
  · rw [Finset.union_sdiff_right,
      Finset.sdiff_eq_self_of_disjoint (Finset.disjoint_singleton_left.2 hnew), poolKeys_singleton]
    rfl
  · rw [Finset.sdiff_eq_empty_iff_subset.2 Finset.subset_union_right]
    rfl

theorem exchanged_of_binding {family : UInt32} {units : Nat} {r : Except Error Unit × WorkPool}
    (hshared : Shared n (.pool p :: hs))
    (hunits : ∀ raw, p.raw = some raw → units = unitsOn (.pool p :: hs) raw)
    (h : p.Binding family units n events r) :
    Exchanged (rawPools (.pool p :: hs)) (rawPools (.pool r.2 :: hs)) events := by
  cases h with
  | bound => exact exchanged_of_no_pools ⟨rfl, rfl⟩ rfl
  | refused releasing =>
    have hreleased := exchanged_of_release hshared hunits releasing
    rw [rawPools_cons_of_none (x := .pool { p with raw := none }) rfl] at hreleased
    exact hreleased.append_no_pools ⟨rfl, rfl⟩
  | @created _ handle record releasing =>
    let raw : RawPool := ⟨n, p.device, handle⟩
    have hreleased := exchanged_of_release hshared hunits releasing
    have hcreated : Exchanged (rawPools hs)
        (rawPools (.pool { p with raw := some raw, family } :: hs)) _ :=
      exchanged_of_create hshared.tail rfl rfl family record
    refine hreleased.append hcreated ?_ ?_
    · -- The new raw pool is not the one that was there before.
      intro other hother
      have hnew := hshared.poolStamps.notMem (a := raw) rfl
      simp only [rawPools_cons, Holder.rawPool?, Finset.mem_inter, Finset.mem_union,
        Option.mem_toFinset, Option.mem_def] at hother hnew ⊢
      rcases hother.2 with heq | hm
      · obtain rfl := Option.some.inj heq
        exact absurd hother.1 hnew
      · exact hm
    · rw [rawPools_cons]
      exact Finset.subset_union_right.trans Finset.subset_union_left

end Holders

/-! ## Operations -/

namespace Session

variable {s : Session} {operation : Operation} {operations : List Operation}
  {outcomes : List Outcome} {events : List Event} {h : Holder} {name : String} {c : Context}
  {r : Outcome × Session}

theorem no_pools_establish {config : Config} {sink : SinkId} {stamp : Nat}
    {made : Except Error Context} (hruns : (Context.establish config sink stamp).Runs events made) :
    poolsMade events = [] ∧ poolsDestroyed events = [] := by
  refine no_pools_of_only (only_establish (fun _ => rfl) ?_ ?_ (fun _ _ => rfl) (fun _ _ => rfl)
    fun _ => only_instance_close rfl fun _ _ => rfl) hruns
  · exact fun _ => only_instance_establish rfl (fun _ => rfl) (fun _ => rfl) (fun _ _ => rfl)
      (fun _ => rfl) fun _ => only_instance_close rfl fun _ _ => rfl
  · exact fun _ => only_negotiate (only_choose rfl (fun _ => rfl) (fun _ => rfl) fun _ => rfl)
      (fun _ _ => rfl) (fun _ _ => rfl) fun _ => rfl

theorem no_pools_adopt {host : HostHandles} {config : Config} {stamp : Nat}
    {made : Except Error Context} (hruns : (Context.adopt host config stamp).Runs events made) :
    poolsMade events = [] ∧ poolsDestroyed events = [] :=
  no_pools_of_only (only_adopt (fun _ => rfl) (fun _ => rfl) rfl rfl rfl rfl) hruns

theorem exchanged_of_openPool (hs : Counted s.nextStamp s.all) (hc : .context c ∈ s.all)
    {made : Except Error Unit × WorkPool}
    (hruns : ((WorkPool.ofDevice c.device).bindTo c.family 0 s.nextStamp).Runs events made) :
    Exchanged (rawPools s.all) (rawPools (.pool made.2 :: s.all)) events := by
  have hnew := hs.new_pool (mem_devices.2 ⟨_, hc, rfl⟩)
  rw [rawPools_cons_of_none (x := .pool (.ofDevice c.device)) rfl]
  exact exchanged_of_binding hnew.toShared nofun (WorkPool.runs_bindTo hruns)

theorem Making.exchanged (hmaking : Making s operation events h) (hs : Counted s.nextStamp s.all) :
    Exchanged (rawPools s.all) (rawPools (h :: s.all)) events := by
  cases hmaking with
  | establish establishing =>
    exact exchanged_of_no_pools (no_pools_establish establishing)
      (rawPools_cons_of_none rfl).symm
  | adopt adopting =>
    exact exchanged_of_no_pools (no_pools_adopt adopting) (rawPools_cons_of_none rfl).symm
  | shareDevice | newPool =>
    exact exchanged_of_no_pools ⟨rfl, rfl⟩ (rawPools_cons_of_none rfl).symm
  | openPool hc binding =>
    exact exchanged_of_openPool hs (mem_all_of_get? (get?_of_context? hc)) binding
  | openUnit hp _ allocating =>
    have hturns := WorkUnit.turns_allocate allocating
    refine exchanged_of_no_pools hturns.no_pools (rawPools_cons_of_shared fun raw hraw => ?_).symm
    exact mem_rawPools.2 ⟨_, mem_all_of_get? (get?_of_pool? hp),
      hturns.continues.pool.symm.trans hraw⟩
  | newUnit hp =>
    refine exchanged_of_no_pools ⟨rfl, rfl⟩ (rawPools_cons_of_shared fun raw hraw => ?_).symm
    exact mem_rawPools.2 ⟨_, mem_all_of_get? (get?_of_pool? hp), hraw⟩

theorem Failing.exchanged {e : Error} (hfailing : Failing s operation events e)
    (hs : Counted s.nextStamp s.all) : Exchanged (rawPools s.all) (rawPools s.all) events := by
  cases hfailing with
  | establish establishing => exact exchanged_of_no_pools (no_pools_establish establishing) rfl
  | adopt adopting => exact exchanged_of_no_pools (no_pools_adopt adopting) rfl
  | @openPool _ _ c _ _ _ hc binding =>
    have hopened := exchanged_of_openPool hs (mem_all_of_get? (get?_of_context? hc)) binding
    rw [WorkPool.eq_of_bindTo_error binding] at hopened
    rwa [← rawPools_cons_of_none rfl] at hopened
  | openUnit _ _ allocating =>
    exact exchanged_of_no_pools (WorkUnit.turns_allocate allocating).no_pools rfl

/-- In one operation, a raw pool is created when it is held after it and was not before, and it is
destroyed when it was held before it and is not any more. -/
theorem Step.exchanged (hstep : Step s operation events r) (hs : Counted s.nextStamp s.all) :
    Exchanged (rawPools s.all) (rawPools r.2.all) events := by
  cases hstep with
  | absent => exact exchanged_of_no_pools ⟨rfl, rfl⟩ rfl
  | failed failing =>
    rw [all_spent]
    exact failing.exchanged hs
  | @made _ _ _ h making replacing =>
    have hmade := making.exchanged hs
    rw [all_set, all_erase_spent]
    cases replacing with
    | vacant hget => rwa [erase_of_get?_eq_none hget, List.append_nil]
    | former hget dropping =>
      have hperm := ((all_perm hget).cons h).trans (.swap _ h _)
      have hdropped := exchanged_of_drop ((making.counted hs).perm hperm).toShared dropping
      rw [← rawPools_perm hperm] at hdropped
      refine hmade.append hdropped ?_ ?_
      · simp only [rawPools_cons]
        exact Finset.inter_subset_left.trans Finset.subset_union_right
      · simp only [rawPools_cons]
        exact Finset.union_subset (Finset.subset_union_left.trans Finset.subset_union_right)
          Finset.subset_union_left
  | worked hwork hu working =>
    have hturns := Operation.turns_of_work? hwork working
    refine exchanged_of_no_pools hturns.no_pools ?_
    rw [update_snd, all_set, rawPools_perm (all_perm hu), rawPools_cons, rawPools_cons,
      Holder.rawPool?, Holder.rawPool?, hturns.continues.pool]
  | retired hu retiring =>
    rw [all_set, rawPools_perm (all_perm hu),
      ← rawPools_cons_of_none (x := .unit (WorkUnit.retired _)) rfl]
    exact exchanged_of_retireUnit (counted_of_get? hs hu).toShared retiring
  | bound hp binding =>
    rw [update_snd, all_set, all_erase_spent, rawPools_perm (all_perm hp)]
    exact exchanged_of_binding (counted_of_get? hs hp).toShared
      (fun raw hraw => outstanding_eq hp hraw) (WorkPool.runs_bindTo binding)
  | released hp releasing =>
    rw [all_set, rawPools_perm (all_perm hp),
      ← rawPools_cons_of_none (x := .pool (WorkPool.mk _ none _)) rfl]
    exact exchanged_of_release (counted_of_get? hs hp).toShared
      (fun raw hraw => outstanding_eq hp hraw) releasing
  | closed hc dropping =>
    rw [rawPools_perm (all_perm hc)]
    exact exchanged_of_drop (counted_of_get? hs hc).toShared dropping
  | dropped hget dropping =>
    rw [rawPools_perm (all_perm hget)]
    exact exchanged_of_drop (counted_of_get? hs hget).toShared dropping

/-- The raw pools that were created are those that were destroyed and those that somebody holds. -/
theorem pools_made_of_run (hrun : (empty.run operations).Runs events (outcomes, s)) :
    (poolsMade events : Multiset (DeviceHandle × PoolHandle)) =
      poolsDestroyed events + poolKeys (rawPools s.all) := by
  refine run_induction (I := fun _ past s =>
    (poolsMade past : Multiset (DeviceHandle × PoolHandle)) =
      poolsDestroyed past + poolKeys (rawPools s.all)) hrun rfl ?_
  intro done operation past before s first r _ _ hpast hstep ih
  have hbalance := (hstep.exchanged (counted_of_run hpast)).balance
  rw [poolsMade_append, poolsDestroyed_append, ← Multiset.coe_add, ← Multiset.coe_add, ih,
    add_assoc, add_assoc, ← hbalance, add_comm (poolKeys _)]

end Session

end VulkanExec
