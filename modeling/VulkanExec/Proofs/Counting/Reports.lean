import VulkanExec.Proofs.Counting.Pools
import VulkanExec.Proofs.Counting.Units

/-!
# Exact counts

What a work pool tells about its units, when a raw pool is destroyed, and what a context tells about
the other holders of its device when it is dropped, are all counts of shares. After any operations,
with any answers of the driver, they are exact.

## Main definitions

- `otherHolders`: the number of holders of a device that are no contexts, and of its raw pools;
- `report`: what is logged when a context is dropped;
- `Session.CountsExact`: what it means that the counts of a session are exact.

The main statement is `Session.holders_counted_exactly`.
-/

namespace VulkanExec

open Program

namespace Holder

/-- Whether a holder is a work pool of a device. -/
def isPoolOf (d : Device) : Holder → Bool
  | pool p => p.device = d
  | _ => false

/-- Whether a holder is a unit of a device, be it retired or not. -/
def isUnitOf (d : Device) : Holder → Bool
  | unit u => u.device = d
  | _ => false

/-- Whether a holder is a share of a device apart from those of contexts, pools and units. -/
def isShareOf (d : Device) : Holder → Bool
  | share d' => d' = d
  | _ => false

end Holder

/-- The number of work pools, of raw pools that somebody holds, of units and of bare shares of a
device. -/
def otherHolders (hs : List Holder) (d : Device) : Nat :=
  hs.countP (·.isPoolOf d) + ((rawPools hs).filter (·.device = d)).card +
    hs.countP (·.isUnitOf d) + hs.countP (·.isShareOf d)

/-- What is logged about the others when a context is dropped: nothing without any. -/
def report (others : Nat) : List Event :=
  if others = 0 then []
  else [.noted (.log ⟨.debug, "execution context dropped; " ++ toString others ++
    " other holder(s) keep the device alive"⟩)]

section Shares

variable {n : Nat} {hs : List Holder} {c : Context} {d : Device} {events : List Event}

/-- A list without duplicates has as many elements as the set of its elements. -/
theorem length_eraseDups (l : List Nat) : l.eraseDups.length = l.toFinset.card := by
  induction hl : l.length using Nat.strong_induction_on generalizing l with
  | _ m ih =>
    cases l with
    | nil => rfl
    | cons a l =>
      have hshort : (l.filter fun b => !b == a).length < m := by
        rw [← hl, List.length_cons]
        exact Nat.lt_succ_of_le (List.length_filter_le ..)
      have hset : (a :: l).toFinset = insert a (l.filter fun b => !b == a).toFinset := by
        ext b
        by_cases hb : b = a <;> simp [hb]
      rw [List.eraseDups_cons, List.length_cons, ih _ hshort _ rfl, hset,
        Finset.card_insert_of_notMem (by simp)]

/-- The raw pools on a device are told apart by their stamps. -/
theorem length_livePools (hcounted : Counted n hs)
    (hsame : ∀ d' ∈ devices hs, d'.stamp = d.stamp → d' = d) :
    (livePools hs d).length = ((rawPools hs).filter (·.device = d)).card := by
  have himage : (((hs.filterMap Holder.rawPool?).filter (·.device.stamp == d.stamp)).map
      RawPool.stamp).toFinset = ((rawPools hs).filter (·.device = d)).image RawPool.stamp := by
    ext stamp
    simp only [List.mem_toFinset, List.mem_map, List.mem_filter, List.mem_filterMap, beq_iff_eq,
      Finset.mem_image, Finset.mem_filter, mem_rawPools]
    constructor
    · rintro ⟨raw, ⟨⟨x, hx, hraw⟩, hstamp⟩, rfl⟩
      have hdevice := mem_devices.2 ⟨x, hx, hcounted.pool x hx raw hraw⟩
      exact ⟨raw, ⟨⟨x, hx, hraw⟩, hsame _ hdevice hstamp⟩, rfl⟩
    · rintro ⟨raw, ⟨⟨x, hx, hraw⟩, rfl⟩, rfl⟩
      exact ⟨raw, ⟨⟨x, hx, hraw⟩, rfl⟩, rfl⟩
  rw [livePools, length_eraseDups, himage, Finset.card_image_of_injOn]
  intro raw hraw raw' hraw' hstamp
  exact hcounted.poolStamps.inj raw (Finset.mem_filter.1 hraw).1 raw' (Finset.mem_filter.1 hraw').1
    hstamp

/-- Without other contexts of a device its holders are pools, units and bare shares. -/
theorem countP_device (hs : List Holder)
    (hcontext : ∀ c, .context c ∈ hs → c.device.stamp ≠ d.stamp)
    (hsame : ∀ d' ∈ devices hs, d'.stamp = d.stamp → d' = d) :
    hs.countP (fun x => (x.device?.map Device.stamp) == some d.stamp) =
      hs.countP (·.isPoolOf d) + hs.countP (·.isUnitOf d) + hs.countP (·.isShareOf d) := by
  induction hs with
  | nil => rfl
  | cons x hs ih =>
    have htail := ih (fun c hc => hcontext c (List.mem_cons_of_mem x hc)) fun d' hd' =>
      hsame d' (by
        rw [devices_cons]
        exact Finset.mem_union_right _ hd')
    have hhead (d' : Device) (hx : x.device? = some d') : d'.stamp = d.stamp ↔ d' = d := by
      refine ⟨hsame d' (mem_devices.2 ⟨x, List.mem_cons_self, hx⟩), ?_⟩
      rintro rfl
      rfl
    cases x with
    | context c =>
      have hne := hcontext c List.mem_cons_self
      simpa [Holder.device?, Holder.isPoolOf, Holder.isUnitOf, Holder.isShareOf, hne] using htail
    | share d' | pool p | unit u =>
      have hiff := hhead _ rfl
      grind [Holder.device?, Holder.isPoolOf, Holder.isUnitOf, Holder.isShareOf]
    | inst | bareDevice =>
      simpa [Holder.device?, Holder.isPoolOf, Holder.isUnitOf, Holder.isShareOf] using htail

/-- The shares in the device of a context are its own one and those of the other holders. -/
theorem holdersOf_eq (hcounted : Counted n (.context c :: hs)) :
    holdersOf hs c.device = otherHolders hs c.device := by
  have hsame : ∀ d ∈ devices hs, d.stamp = c.device.stamp → d = c.device := by
    intro d hd hstamp
    refine hcounted.deviceStamps.inj d ?_ c.device ?_ hstamp
    · rw [devices_cons]
      exact Finset.mem_union_right _ hd
    · exact mem_devices.2 ⟨_, List.mem_cons_self, rfl⟩
  have hcontext : ∀ c', .context c' ∈ hs → c'.device.stamp ≠ c.device.stamp := by
    intro c' hc' hstamp
    have hdevice := hsame _ (mem_devices.2 ⟨_, hc', rfl⟩) hstamp
    refine (List.nodup_cons.1 hcounted.single).1 (List.mem_filterMap.2 ⟨_, hc', ?_⟩)
    exact congrArg some hdevice
  rw [holdersOf, countP_device hs hcontext hsame, length_livePools hcounted.tail hsame,
    otherHolders]
  omega

theorem holdersOf_context (hcounted : Counted n (.context c :: hs)) :
    holdersOf (.context c :: hs) c.device = otherHolders hs c.device + 1 := by
  have hpools : livePools (.context c :: hs) c.device = livePools hs c.device := rfl
  rw [← holdersOf_eq hcounted, holdersOf, holdersOf, hpools,
    List.countP_cons_of_pos (by simp [Holder.device?])]
  omega

/-- A context that is dropped tells how many others there are, and then its device is released. -/
theorem runs_drop_context (hcounted : Counted n (.context c :: hs))
    (h : ((Holder.context c).drop hs).Runs events ()) :
    ∃ released, events = report (otherHolders hs c.device) ++ released ∧
      (releaseDevice hs c.device).Runs released () := by
  rw [Holder.drop_context] at h
  obtain ⟨told, released, _, rfl, htell, hrelease⟩ := runs_bind_iff.1 h
  refine ⟨released, ?_, hrelease⟩
  unfold Holder.tellOthers at htell
  dsimp only at htell
  rw [holdersOf_eq hcounted] at htell
  unfold report
  split at htell
  · next hothers =>
    obtain ⟨_, rfl, hend⟩ := runs_note_iff.1 htell
    obtain ⟨rfl, -⟩ := runs_done_iff.1 hend
    rw [if_neg (Nat.pos_iff_ne_zero.1 hothers)]
  · next hnone =>
    obtain ⟨rfl, -⟩ := runs_pure_iff.1 htell
    rw [if_pos (Nat.eq_zero_of_not_pos hnone)]

end Shares

namespace Session

variable {s : Session} {operation : Operation} {operations : List Operation}
  {outcomes : List Outcome} {events : List Event} {c : Context} {r : Outcome × Session}

/-- A context is dropped after what takes its place is made. It tells how many others there are, and
then its device is released. -/
theorem Step.reported (hstep : Step s operation events r) (hs : Counted s.nextStamp s.all)
    (hdone : r.1 = .done) (hreplaces : operation.replaces operation.target)
    (hc : s.get? operation.target = some (.context c)) :
    (∃ n, Counted n (.context c :: r.2.all)) ∧
    ∃ asked released, events = asked ++ (report (otherHolders r.2.all c.device) ++ released) ∧
      (asked = [] ∨ ∃ h, Making s operation asked h) ∧
      (releaseDevice r.2.all c.device).Runs released () := by
  cases hstep with
  | absent | failed => cases hdone
  | @made _ first _ h making replacing =>
    rw [all_set, all_erase_spent]
    cases replacing with
    | vacant hget => simp [hc] at hget
    | former hget dropping =>
      obtain rfl : Holder.context c = _ := by simpa [hc] using hget
      have hcounted := (making.counted hs).perm (((all_perm hc).cons h).trans (.swap _ h _))
      obtain ⟨released, rfl, hreleased⟩ := runs_drop_context hcounted dropping
      exact ⟨⟨_, hcounted⟩, first, released, rfl, .inr ⟨h, making⟩, hreleased⟩
  | worked _ hu => simp [hc] at hu
  | retired | bound | released => simp [Operation.replaces] at hreplaces
  | closed hget dropping | dropped hget dropping =>
    have hsame := Option.some.inj (hget.symm.trans hc)
    cases hsame
    have hcounted := counted_of_get? hs hget
    obtain ⟨released, rfl, hreleased⟩ := runs_drop_context hcounted dropping
    exact ⟨⟨_, hcounted⟩, [], released, rfl, .inl rfl, hreleased⟩

/-- The counts of a session are exact after some operations. -/
structure CountsExact (s : Session) (operations : List Operation) (outcomes : List Outcome)
    (events : List Event) : Prop where
  /-- A work pool without a raw pool has no units. -/
  unbound : ∀ name p, s.get? name = some (.pool p) → p.raw = none → s.outstanding p = 0
  /-- A work pool has as many units as were made on it since its raw pool was created, and were
  neither retired nor dropped. -/
  outstanding : ∀ name p raw, s.get? name = some (.pool p) → p.raw = some raw →
    ∃ history, HeldSince name raw history operations outcomes events s ∧
      s.outstanding p = (liveUnits name history).card
  /-- They are what is left of the shares in the raw pool without that of the work pool. -/
  shares : ∀ name p raw, s.get? name = some (.pool p) → p.raw = some raw →
    rawShares s.all raw = s.outstanding p + 1
  /-- The raw pools that were created are those that were destroyed and those that are held. -/
  balance : (poolsMade events : Multiset (DeviceHandle × PoolHandle)) =
    poolsDestroyed events + poolKeys (rawPools s.all)
  /-- In an operation, the raw pools that are destroyed are those that are held before it and are
  not any more after it; those that are created are held after it and were not before. -/
  exchanged : ∀ operation first r, (s.perform operation).Runs first r →
    Exchanged (rawPools s.all) (rawPools r.2.all) first
  /-- A context that is dropped tells how many others have a share in its device: pools, raw pools,
  units and bare shares. They are what is left of all the shares without that of the context. -/
  reported : ∀ operation first r c, (s.perform operation).Runs first r → r.1 = .done →
    operation.replaces operation.target → s.get? operation.target = some (.context c) →
      holdersOf (.context c :: r.2.all) c.device = otherHolders r.2.all c.device + 1 ∧
      ∃ asked released, first = asked ++ (report (otherHolders r.2.all c.device) ++ released) ∧
        (asked = [] ∨ ∃ h, Making s operation asked h) ∧
        (releaseDevice r.2.all c.device).Runs released ()

/-- After any operations, and whatever the driver answers, the counts of a session are exact. -/
theorem holders_counted_exactly (hrun : (empty.run operations).Runs events (outcomes, s)) :
    s.CountsExact operations outcomes events where
  unbound name p _ hraw := by rw [outstanding, hraw]
  outstanding name p raw hp hraw := outstanding_of_run hrun hp hraw
  shares name p raw hp hraw := rawShares_eq (counted_of_run hrun) hp hraw
  balance := pools_made_of_run hrun
  exchanged operation first r hruns := (runs_perform hruns).exchanged (counted_of_run hrun)
  reported operation first r c hruns hdone hreplaces hc := by
    obtain ⟨⟨_, hcounted⟩, hreport⟩ :=
      (runs_perform hruns).reported (counted_of_run hrun) hdone hreplaces hc
    exact ⟨holdersOf_context hcounted, hreport⟩

/-! ### A pool that is bound again -/

/-- A pool has an allocated unit and one without a buffer. It is bound to another family, and a
third unit is made on it and shut down. -/
def countedOperations : List Operation :=
  [.establish { Config.default with validation := false } 0 "c", .openPool "c" "p",
    .openUnit "c" "p" "u", .newUnit "p" ⟨7⟩ "v", .bindPool "p" 7, .openUnit "c" "p" "w",
    .newUnit "p" ⟨7⟩ "x", .retire "x", .shareDevice "c" "d"]

/-- The context is dropped then. -/
def countedClosing (s : Session) : (Outcome × Session) × List Event × Nat :=
  (s.perform (.closeContext "c")).runWith (.numbering fun _ => false) 88

theorem eight_others_are_told : ∃ p raw history released,
    (empty.played countedOperations 1).1.2.get? "p" = some (.pool p) ∧ p.raw = some raw ∧
    HeldSince "p" raw history countedOperations (empty.played countedOperations 1).1.1
      (empty.played countedOperations 1).2.1 (empty.played countedOperations 1).1.2 ∧
    (liveUnits "p" history).card = 1 ∧
    (countedClosing (empty.played countedOperations 1).1.2).2.1 = report 8 ++ released := by
  have hpool : ((empty.played countedOperations 1).1.2.pool? "p").any fun p =>
      p.raw.isSome && (empty.played countedOperations 1).1.2.outstanding p == 1 := by
    decide +kernel
  have hcontext : ((empty.played countedOperations 1).1.2.context? "c").any fun c =>
      otherHolders (countedClosing (empty.played countedOperations 1).1.2).1.2.all c.device ==
        8 := by
    decide +kernel
  have hdone : (countedClosing (empty.played countedOperations 1).1.2).1.1 = .done := by
    decide +kernel
  have hrun := runs_played empty countedOperations 1
  generalize empty.played countedOperations 1 = run at *
  have hclosing : (run.1.2.perform (.closeContext "c")).Runs (countedClosing run.1.2).2.1
      (countedClosing run.1.2).1 := runs_runWith ..
  generalize countedClosing run.1.2 = closing at *
  have hexact := holders_counted_exactly hrun
  obtain ⟨p, hp, hunits⟩ := Option.any_eq_true _ _ |>.1 hpool
  obtain ⟨c, hc, hothers⟩ := Option.any_eq_true _ _ |>.1 hcontext
  obtain ⟨hsome, hone⟩ := Bool.and_eq_true_iff.1 hunits
  obtain ⟨raw, hraw⟩ := Option.isSome_iff_exists.1 hsome
  obtain ⟨history, hsince, hcard⟩ := hexact.outstanding "p" p raw (get?_of_pool? hp) hraw
  obtain ⟨-, asked, released, hevents, hasked, -⟩ :=
    hexact.reported _ _ _ c hclosing hdone (by simp [Operation.replaces, Operation.target])
      (get?_of_context? hc)
  rcases hasked with rfl | ⟨_, hmaking⟩
  · refine ⟨p, raw, history, released, get?_of_pool? hp, hraw, hsince, ?_, ?_⟩
    · rw [← hcard, beq_iff_eq.1 hone]
    · rw [hevents, beq_iff_eq.1 hothers, List.nil_append]
  · cases hmaking

end Session

end VulkanExec
