import Mathlib.Data.Finset.Insert
import VulkanExec.Proofs.Counting.Shares
import VulkanExec.Proofs.Names

/-!
# The units of a raw pool

The units that hold the raw pool behind a work pool are those that were made on the work pool since
that raw pool was created, and that were neither retired nor dropped. Whether a unit was allocated
does not matter.

## Main definitions

- `unitsAfter`, `liveUnits`: the units that are there, by what was done and what came of it;
- `Session.HasRaw`, `Session.HoldsRaw`: under a name there is a pool with a raw pool, or a unit that
  holds it;
- `Session.Opens`, `Session.HasOn`: the operations that give a work pool its raw pool, and a work
  pool that has it on a family;
- `Session.HeldSince`: the raw pool under a name was created by one operation, and what was done
  after it;
- `rawShares`: the number of shares in a raw pool.

The main statements are `Session.outstanding_of_run` and `Session.rawShares_eq`.
-/

namespace VulkanExec

open Program

/-! ## What the operations say -/

/-- Whether an operation that is done takes the share in a raw pool from the unit that it names: it
retires the unit, or puts something else in its place. -/
def Operation.endsUnit : Operation → Bool
  | retire _ => true
  | operation => operation.replaces operation.target

/-- The names of the live units that were made on the pool under a name, after one more
operation. -/
def unitsAfter (pool : String) (live : Finset String) : Operation × Outcome → Finset String
  | (operation, .done) =>
    if operation.unitPool? = some pool then insert operation.target live
    else if operation.endsUnit then live.erase operation.target
    else live
  | (_, .failed _) | (_, .absent _) => live

/-- The names of the units that were made on the pool under a name, and that were neither retired
nor dropped since. -/
def liveUnits (pool : String) (history : List (Operation × Outcome)) : Finset String :=
  history.foldl (unitsAfter pool) ∅

/-- The number of shares in a raw pool. -/
def rawShares (holders : List Holder) (raw : RawPool) : Nat :=
  holders.countP fun h => (h.rawPool?.map RawPool.stamp) == some raw.stamp

section LiveUnits

variable {pool name : String} {live : Finset String} {operation : Operation} {outcome : Outcome}

/-- An operation is about the unit that it names only. -/
theorem mem_unitsAfter_of_ne (hne : name ≠ operation.target) :
    name ∈ unitsAfter pool live (operation, outcome) ↔ name ∈ live := by
  cases outcome with
  | done =>
    dsimp only [unitsAfter]
    split
    · simp [hne]
    · split
      · simp [hne]
      · rfl
  | failed | absent => rfl

theorem mem_unitsAfter_of_unitPool? (h : operation.unitPool? = some pool) :
    operation.target ∈ unitsAfter pool live (operation, .done) := by
  simp [unitsAfter, h]

theorem notMem_unitsAfter_of_endsUnit (h : operation.unitPool? ≠ some pool)
    (hends : operation.endsUnit) : operation.target ∉ unitsAfter pool live (operation, .done) := by
  simp [unitsAfter, h, hends]

theorem unitsAfter_of_not_endsUnit (h : operation.unitPool? ≠ some pool)
    (hends : operation.endsUnit = false) :
    unitsAfter pool live (operation, outcome) = live := by
  cases outcome <;> simp [unitsAfter, h, hends]

end LiveUnits

namespace Session

variable {s s' : Session} {operation : Operation} {operations : List Operation}
  {outcomes : List Outcome} {past events : List Event} {pool name : String} {p q : WorkPool}
  {u v : WorkUnit} {raw : RawPool} {r : Outcome × Session} {live : Finset String}
  {history : List (Operation × Outcome)}

/-- Under a name there is a work pool with a raw pool behind it. -/
def HasRaw (s : Session) (raw : RawPool) (name : String) : Prop :=
  ∃ p, s.get? name = some (.pool p) ∧ p.raw = some raw

/-- Under a name there is a unit that holds a raw pool. -/
def HoldsRaw (s : Session) (raw : RawPool) (name : String) : Prop :=
  ∃ u, s.get? name = some (.unit u) ∧ u.pool = some raw

/-- An operation binds the work pool under a name to a family, or makes one on it. -/
inductive Opens (s : Session) (name : String) (family : UInt32) : Operation → Prop where
  | bindPool : Opens s name family (.bindPool name family)
  | openPool {context : String} {c : Context} (hc : s.context? context = some c)
      (hfamily : c.family = family) : Opens s name family (.openPool context name)

/-- Under a name there is a work pool with a raw pool, and it tells a family. -/
def HasOn (s : Session) (raw : RawPool) (family : UInt32) (name : String) : Prop :=
  ∃ p, s.get? name = some (.pool p) ∧ p.raw = some raw ∧ p.family = family

/-! ## One operation -/

/-- A raw pool is behind one work pool only. -/
theorem pool_unique (hs : Counted s.nextStamp s.all) {other : String}
    (hp : s.get? name = some (.pool p)) (hraw : p.raw = some raw)
    (hq : s.get? other = some (.pool q)) (hraw' : q.raw = some raw) : other = name := by
  by_contra hne
  have honce := (counted_of_get? hs hp).once
  rw [List.filterMap_cons, Holder.ownPool?, hraw] at honce
  have hget : (s.erase name).get? other = some (.pool q) := by rw [get?_erase, if_neg hne, hq]
  exact (List.nodup_cons.1 honce).1 (List.mem_filterMap.2 ⟨_, mem_all_of_get? hget, hraw'⟩)

/-- A raw pool that is behind a work pool after a step was there before, on the same family, or the
step has created it there. -/
theorem Step.bound_cases (hstep : Step s operation events r)
    (hq : r.2.get? name = some (.pool q)) (hraw : q.raw = some raw) :
    s.HasOn raw q.family name ∨
      raw.stamp = s.nextStamp ∧ s.Opens name q.family operation ∧
        .answered (.createPool raw.device.handle q.family resettableBuffers) (.ok raw.handle) ∈
          events := by
  by_cases hname : name = operation.target
  · subst hname
    cases hstep with
    | absent | failed => exact .inl ⟨q, by simpa using hq, hraw, rfl⟩
    | made making =>
      cases making with
      | @openPool _ _ c p _ hc binding =>
        obtain rfl : p = q := by simpa [Operation.target] using hq
        cases WorkPool.runs_bindTo binding with
        | bound hbound => exact absurd rfl hbound
        | created =>
          obtain rfl := Option.some.inj hraw
          exact .inr ⟨rfl, .openPool hc rfl, List.mem_append_left _ (by simp)⟩
      | newPool =>
        obtain rfl : _ = q := by simpa [Operation.target] using hq
        cases hraw
      | _ => simp [Operation.target] at hq
    | @bound _ _ p q' _ _ hp binding =>
      rw [update_snd] at hq
      obtain rfl : q' = q := by simpa [Operation.target] using hq
      cases WorkPool.runs_bindTo binding with
      | bound => exact .inl ⟨p, hp, hraw, rfl⟩
      | refused => cases hraw
      | created =>
        obtain rfl := Option.some.inj hraw
        exact .inr ⟨rfl, .bindPool, by simp⟩
    | released =>
      obtain rfl : _ = q := by simpa [Operation.target] using hq
      cases hraw
    | worked | retired | closed | dropped => simp [update_snd, Operation.target] at hq
  · exact .inl ⟨q, hstep.get?_of_ne hname ▸ hq, hraw, rfl⟩

/-- A pool that has a raw pool after a step had it before, or it was created in the step. -/
theorem Step.pool_cases (hstep : Step s operation events r)
    (hq : r.2.get? name = some (.pool q)) (hraw : q.raw = some raw) :
    s.HasRaw raw name ∨
      raw.stamp = s.nextStamp ∧ ∃ family,
        .answered (.createPool raw.device.handle family resettableBuffers) (.ok raw.handle) ∈
          events := by
  rcases hstep.bound_cases hq hraw with ⟨p, hp, hsame, -⟩ | ⟨hstamp, -, hcreated⟩
  · exact .inl ⟨p, hp, hsame⟩
  · exact .inr ⟨hstamp, _, hcreated⟩

/-- A raw pool that a unit holds after a step was held by somebody before it. -/
theorem Step.mem_rawPools_of_unit (hstep : Step s operation events r)
    (hv : r.2.get? name = some (.unit v)) (hraw : v.pool = some raw) : raw ∈ rawPools s.all := by
  rcases hstep.unit_cases hv with hu | ⟨u, hu, hturns | rfl⟩ |
    ⟨pool, p, queue, _, _, -, hp, hturns, -⟩
  · exact mem_rawPools.2 ⟨_, mem_all_of_get? hu, hraw⟩
  · exact mem_rawPools.2 ⟨_, mem_all_of_get? hu, hturns.continues.pool.symm.trans hraw⟩
  · cases hraw
  · exact mem_rawPools.2 ⟨_, mem_all_of_get? hp, hturns.continues.pool.symm.trans hraw⟩

/-- What is made holds the raw pool behind a work pool if it is a unit on that pool. -/
theorem Making.holdsRaw_iff {h : Holder} (hmaking : Making s operation events h)
    (hs : Counted s.nextStamp s.all) (hp : s.get? pool = some (.pool p)) (hraw : p.raw = some raw) :
    operation.unitPool? = some pool ↔ ∃ u, h = .unit u ∧ u.pool = some raw := by
  have honPool {other : String} {q : WorkPool} {u : WorkUnit} (hq : s.pool? other = some q)
      (hu : u.pool = q.raw) :
      some other = some pool ↔ ∃ v, Holder.unit u = .unit v ∧ v.pool = some raw := by
    constructor
    · rintro ⟨⟩
      obtain rfl : p = q := by simpa [hp] using get?_of_pool? hq
      exact ⟨u, rfl, hu.trans hraw⟩
    · rintro ⟨_, ⟨⟩, hv⟩
      exact congrArg some (pool_unique hs hp hraw (get?_of_pool? hq) (hu.symm.trans hv))
  cases hmaking with
  | openUnit hq _ allocating =>
    exact honPool hq (WorkUnit.turns_allocate allocating).continues.pool
  | newUnit hq => exact honPool hq rfl
  | _ => simp [Operation.unitPool?]

/-- Whether the holder that a step is about is a unit on the raw pool of a work pool afterwards is
told by the operation and its outcome. -/
theorem Step.target_holdsRaw_iff (hstep : Step s operation events r)
    (hs : Counted s.nextStamp s.all) (hp : s.get? pool = some (.pool p)) (hraw : p.raw = some raw)
    (hlive : operation.target ∈ live ↔ s.HoldsRaw raw operation.target) :
    operation.target ∈ unitsAfter pool live (operation, r.1) ↔
      r.2.HoldsRaw raw operation.target := by
  cases hstep with
  | absent => exact hlive
  | failed => simpa [unitsAfter, HoldsRaw] using hlive
  | @made operation _ _ h making =>
    have hmade : ((s.spent operation).set operation.target h).HoldsRaw raw operation.target ↔
        ∃ u, h = .unit u ∧ u.pool = some raw := by
      simp [HoldsRaw]
    rw [hmade, ← making.holdsRaw_iff hs hp hraw]
    by_cases hpool : operation.unitPool? = some pool
    · exact iff_of_true (mem_unitsAfter_of_unitPool? hpool) hpool
    · refine iff_of_false (notMem_unitsAfter_of_endsUnit hpool ?_) hpool
      cases making <;> simp [Operation.endsUnit, Operation.replaces, Operation.target]
  | @worked operation _ u v _ result hwork hu working =>
    have hturns := Operation.turns_of_work? hwork working
    have hkept : s.HoldsRaw raw operation.target ↔ v.pool = some raw := by
      simp [HoldsRaw, hu, hturns.continues.pool]
    have hmoved : (s.update operation.target (.unit v) result).2.HoldsRaw raw operation.target ↔
        v.pool = some raw := by
      simp [HoldsRaw, update_snd]
    rw [hmoved, ← hkept, ← hlive, unitsAfter_of_not_endsUnit]
    · cases operation <;> simp [Operation.work?, Operation.unitPool?] at hwork ⊢
    · cases operation <;> simp [Operation.work?, Operation.endsUnit, Operation.replaces] at hwork ⊢
  | retired =>
    refine iff_of_false (notMem_unitsAfter_of_endsUnit (by simp [Operation.unitPool?]) rfl) ?_
    simp [HoldsRaw, Operation.target, WorkUnit.retired]
  | bound hq | released hq =>
    rw [unitsAfter_of_not_endsUnit, hlive]
    · simp [HoldsRaw, update_snd, Operation.target, hq]
    · simp [Operation.unitPool?]
    · rfl
  | closed | dropped =>
    refine iff_of_false (notMem_unitsAfter_of_endsUnit (by simp [Operation.unitPool?]) ?_) ?_
    · simp [Operation.endsUnit, Operation.replaces, Operation.target]
    · simp [HoldsRaw, Operation.target]

theorem Step.holdsRaw_iff (hstep : Step s operation events r) (hs : Counted s.nextStamp s.all)
    (hp : s.get? pool = some (.pool p)) (hraw : p.raw = some raw)
    (hlive : ∀ name, name ∈ live ↔ s.HoldsRaw raw name) :
    name ∈ unitsAfter pool live (operation, r.1) ↔ r.2.HoldsRaw raw name := by
  by_cases hname : name = operation.target
  · subst hname
    exact hstep.target_holdsRaw_iff hs hp hraw (hlive _)
  · rw [mem_unitsAfter_of_ne hname, hlive, HoldsRaw, HoldsRaw, hstep.get?_of_ne hname]

/-! ## Many operations -/

/-- One of some operations created the raw pool that is behind the work pool under a name, and it
was there after each of the later ones. `history` tells what these were and what came of them. -/
inductive HeldSince (pool : String) (raw : RawPool) : List (Operation × Outcome) →
    List Operation → List Outcome → List Event → Session → Prop where
  | created {earlier : List Operation} {outcomes : List Outcome} {past events : List Event}
    {before : Session} {operation : Operation} {r : Outcome × Session} {family : UInt32}
    (reaching : (empty.run earlier).Runs past (outcomes, before)) (hnew : raw ∉ rawPools before.all)
    (creating : (before.perform operation).Runs events r)
    (hcreated : .answered (.createPool raw.device.handle family resettableBuffers)
      (.ok raw.handle) ∈ events)
    (hthere : r.2.HasRaw raw pool) :
    HeldSince pool raw [] (earlier ++ [operation]) (outcomes ++ [r.1]) (past ++ events) r.2
  | later {history : List (Operation × Outcome)} {operations : List Operation}
    {outcomes : List Outcome} {past events : List Event} {s : Session} {operation : Operation}
    {r : Outcome × Session} (since : HeldSince pool raw history operations outcomes past s)
    (performing : (s.perform operation).Runs events r) (hthere : r.2.HasRaw raw pool) :
    HeldSince pool raw (history ++ [(operation, r.1)]) (operations ++ [operation])
      (outcomes ++ [r.1]) (past ++ events) r.2

/-- The raw pool behind a work pool was created in one operation. The units that hold it are those
that were made on the work pool after that, and that were neither retired nor dropped. -/
theorem held_since_of_run (hrun : (empty.run operations).Runs events (outcomes, s))
    (hp : s.get? pool = some (.pool p)) (hraw : p.raw = some raw) :
    ∃ history, HeldSince pool raw history operations outcomes events s ∧
      ∀ name, name ∈ liveUnits pool history ↔ s.HoldsRaw raw name := by
  refine run_induction_outcomes (I := fun operations outcomes past s =>
    ∀ p, s.get? pool = some (.pool p) → p.raw = some raw →
      ∃ history, HeldSince pool raw history operations outcomes past s ∧
        ∀ name, name ∈ liveUnits pool history ↔ s.HoldsRaw raw name) hrun nofun ?_ p hp hraw
  intro done operation past before s first r _ _ hpast hfirst ih q hq hraw'
  have hstep := runs_perform hfirst
  have hs := counted_of_run hpast
  rcases hstep.pool_cases hq hraw' with ⟨p, hp, hraw⟩ | ⟨hstamp, family, hcreated⟩
  · obtain ⟨history, hsince, hlive⟩ := ih p hp hraw
    refine ⟨_, .later hsince hfirst ⟨q, hq, hraw'⟩, fun name => ?_⟩
    rw [liveUnits, List.foldl_concat]
    exact hstep.holdsRaw_iff hs hp hraw hlive
  · have hnew : raw ∉ rawPools s.all := hs.poolStamps.notMem hstamp
    refine ⟨[], .created hpast hnew hfirst hcreated ⟨q, hq, hraw'⟩, fun name => ?_⟩
    refine iff_of_false (Finset.notMem_empty name) ?_
    rintro ⟨u, hu, hheld⟩
    exact hnew (hstep.mem_rawPools_of_unit hu hheld)

/-! ## Counts -/

/-- The units that are counted for a work pool are those that hold its raw pool. -/
theorem outstanding_eq_ncard (hs : Counted s.nextStamp s.all)
    (hp : s.get? pool = some (.pool p)) (hraw : p.raw = some raw) :
    s.outstanding p = {name | s.HoldsRaw raw name}.ncard := by
  have hsame : {name | ∃ h, s.get? name = some h ∧ h.isUnitOn raw} =
      {name | s.HoldsRaw raw name} := by
    ext name
    constructor
    · rintro ⟨h, hget, hunit⟩
      by_cases hname : name = pool
      · subst hname
        obtain rfl : h = .pool p := by simpa [hp] using hget.symm
        cases hunit
      · have hother : (s.erase pool).get? name = some h := by rw [get?_erase, if_neg hname, hget]
        have hholds := ((counted_of_get? hs hp).isUnitOn_iff hraw (mem_all_of_get? hother)).1 hunit
        cases h with
        | unit u => exact ⟨u, hget, hholds⟩
        | context | share | pool | inst | bareDevice => cases hunit
    · rintro ⟨u, hu, hholds⟩
      exact ⟨.unit u, hu, by simp [Holder.isUnitOn, hholds]⟩
  rw [outstanding, hraw, ← hsame]
  exact s.holders.countP_values _

/-- As many units are counted for a work pool as were made on it since its raw pool was created,
and were neither retired nor dropped. -/
theorem outstanding_of_run (hrun : (empty.run operations).Runs events (outcomes, s))
    (hp : s.get? pool = some (.pool p)) (hraw : p.raw = some raw) :
    ∃ history, HeldSince pool raw history operations outcomes events s ∧
      s.outstanding p = (liveUnits pool history).card := by
  obtain ⟨history, hsince, hlive⟩ := held_since_of_run hrun hp hraw
  refine ⟨history, hsince, ?_⟩
  rw [outstanding_eq_ncard (counted_of_run hrun) hp hraw, ← Set.ncard_coe_finset]
  congr 1
  ext name
  exact (hlive name).symm

/-- The shares in a raw pool are those of its units and the one of its work pool. -/
theorem rawShares_eq (hs : Counted s.nextStamp s.all) (hp : s.get? pool = some (.pool p))
    (hraw : p.raw = some raw) : rawShares s.all raw = s.outstanding p + 1 := by
  have hcounted := counted_of_get? hs hp
  have hothers : rawShares (s.erase pool).all raw = unitsOn (s.erase pool).all raw := by
    refine List.countP_congr fun x hx => ?_
    rw [hcounted.isUnitOn_iff hraw hx, beq_iff_eq, Option.map_eq_some_iff]
    constructor
    · rintro ⟨other, hother, hstamp⟩
      have hmem := mem_rawPools.2 ⟨x, List.mem_cons_of_mem (.pool p) hx, hother⟩
      have hmem' : raw ∈ rawPools (.pool p :: (s.erase pool).all) :=
        mem_rawPools.2 ⟨_, List.mem_cons_self, hraw⟩
      exact hcounted.poolStamps.inj _ hmem _ hmem' hstamp ▸ hother
    · intro hx
      exact ⟨raw, hx, rfl⟩
  rw [outstanding_eq hp hraw, rawShares, (all_perm hp).countP_eq, unitsOn,
    List.countP_cons_of_pos (by simp [Holder.rawPool?, hraw]),
    List.countP_cons_of_neg (by simp [Holder.isUnitOn])]
  exact congrArg (· + 1) hothers

end Session

end VulkanExec
