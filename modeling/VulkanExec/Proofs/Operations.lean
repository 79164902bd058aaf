import VulkanExec.Proofs.Release

/-!
# Invariants under operations

An operation of a session works on the holders that it names, which are put in front of the others.
An invariant of all holders that is kept by what can be done with the first one is kept by every
operation, and so by any operations in any order.

## Main definitions

- `WorkPool.Binding`: how a pool is bound to a family;
- `Session.Invariant`: what is kept by all that can be done with the first holder;
- `Session.Added`: what holds after a creation, which has failed or added a holder;
- `Session.Holds`: the invariant of the holders of a session.

The main statement is `Session.Invariant.run`.
-/

namespace VulkanExec

/-- The handles that an operation adopts satisfy a condition. -/
def Operation.Brings (hosted : HostHandles → Prop) : Operation → Prop
  | .adopt handles _ _ => hosted handles
  | _ => True

theorem Operation.brings_all (operation : Operation) : operation.Brings fun _ => True := by
  cases operation <;> trivial

/-! ## Binding a pool -/

namespace WorkPool

variable {p q : WorkPool} {events : List Event}

/-- How a pool is bound to a family: it is already, or it lets go of its raw pool, and then a new
one is refused or created. -/
inductive Binding (p : WorkPool) (family : UInt32) (units stamp : Nat) :
    List Event → Except Error Unit × WorkPool → Prop where
  | bound (hraw : p.raw ≠ none) (hfamily : p.family = family) :
    Binding p family units stamp [] (.ok (), p)
  | refused {events : List Event} {code : ResultCode}
    (releasing : (p.release units).Runs events { p with raw := none }) :
    Binding p family units stamp
      (events ++ [.answered (.createPool p.device.handle family resettableBuffers) (.error code)])
      (.error (.poolCreationFailed code), { p with raw := none })
  | created {events : List Event} {handle : PoolHandle} {record : LogRecord}
    (releasing : (p.release units).Runs events { p with raw := none }) :
    Binding p family units stamp
      (events ++ [.answered (.createPool p.device.handle family resettableBuffers) (.ok handle),
        .noted (.log record)])
      (.ok (), { p with raw := some ⟨stamp, p.device, handle⟩, family })

theorem runs_bindTo {family : UInt32} {units stamp : Nat} {r : Except Error Unit × WorkPool}
    (h : (p.bindTo family units stamp).Runs events r) : Binding p family units stamp events r := by
  unfold bindTo at h
  split at h
  · next hbound =>
    obtain ⟨rfl, rfl⟩ := Program.runs_pure_iff.1 h
    obtain ⟨hraw, hfamily⟩ := Bool.and_eq_true_iff.1 hbound
    exact .bound (Option.isSome_iff_ne_none.1 hraw) (of_decide_eq_true hfamily)
  · obtain ⟨first, _, _, rfl, hrelease, hcreate⟩ := Program.runs_bind_iff.1 h
    obtain rfl := runs_release hrelease
    obtain ⟨code | handle, _, rfl, hrest⟩ := Program.runs_ask_iff.1 hcreate
    · obtain ⟨rfl, rfl⟩ := Program.runs_pure_iff.1 hrest
      exact .refused hrelease
    · obtain ⟨_, rfl, hend⟩ := Program.runs_log_iff.1 hrest
      obtain ⟨rfl, rfl⟩ := Program.runs_pure_iff.1 hend
      exact .created hrelease

/-- A pool that could not be bound has no raw pool. -/
theorem eq_of_bindTo_error {family : UInt32} {units stamp : Nat} {e : Error}
    (h : (p.bindTo family units stamp).Runs events (.error e, q)) : q = { p with raw := none } := by
  cases runs_bindTo h with
  | refused => rfl

end WorkPool

namespace Session

variable {σ α : Type} {s : Session} {name : String} {h : Holder}

/-! ## What is under a name -/

@[simp] theorem all_set (s : Session) (name : String) (h : Holder) :
    (s.set name h).all = h :: (s.erase name).all := rfl

theorem erase_of_get?_eq_none (hget : s.get? name = none) : s.erase name = s := by
  rw [erase, NameTable.erase_eq_self hget]

theorem update_snd (s : Session) (name : String) (h : Holder) (result : Except Error Unit) :
    (s.update name h result).2 = s.set name h := by
  cases result <;> rfl

theorem get?_of_context? {c : Context} (hc : s.context? name = some c) :
    s.get? name = some (.context c) := by
  unfold context? at hc
  split at hc <;> simp_all

theorem get?_of_pool? {p : WorkPool} (hp : s.pool? name = some p) :
    s.get? name = some (.pool p) := by
  unfold pool? at hp
  split at hp <;> simp_all

theorem get?_of_unit? {u : WorkUnit} (hu : s.unit? name = some u) :
    s.get? name = some (.unit u) := by
  unfold unit? at hu
  split at hu <;> simp_all

theorem mem_all_of_get? (hget : s.get? name = some h) : h ∈ s.all :=
  (all_perm hget).mem_iff.2 List.mem_cons_self

theorem holder_of_device? {d : Device} (hd : s.device? name = some d) :
    ∃ h ∈ s.all, h.device? = some d := by
  unfold device? at hd
  split at hd
  · next hget => exact ⟨_, mem_all_of_get? hget, hd⟩
  · next hget => exact ⟨_, mem_all_of_get? hget, hd⟩
  · next hget => exact ⟨_, mem_all_of_get? hget, hd⟩
  · cases hd

/-- The units that share the raw pool of a work pool are counted among all holders. -/
theorem outstanding_eq {p : WorkPool} (hget : s.get? name = some (.pool p)) {raw : RawPool}
    (hraw : p.raw = some raw) : s.outstanding p = unitsOn (.pool p :: (s.erase name).all) raw := by
  simp only [outstanding, hraw, unitsOn]
  exact (all_perm hget).countP_eq _

/-! ## Invariants -/

/-- What holds after a creation, which has failed or added a holder to the others. -/
def Added (I : List Holder → σ → Prop) (holder : α → Holder) (hs : List Holder) :
    Except Error α → σ → Prop
  | .error _, t => I hs t
  | .ok a, t => I (holder a :: hs) t

/-- An invariant of the next stamp and of all holders, in any order, that is kept by what can be
done with the first holder. -/
structure Invariant (m : Monitor σ) (hosted : HostHandles → Prop)
    (I : Nat → List Holder → σ → Prop) : Prop where
  perm {n : Nat} {hs hs' : List Holder} {t : σ} (hI : I n hs t) (hperm : hs.Perm hs') : I n hs' t
  drop {n : Nat} {h : Holder} {hs : List Holder} {t : σ} (hI : I n (h :: hs) t) :
    m.Meets (h.drop hs) t fun _ t' => I n hs t'
  turns {n : Nat} {hs : List Holder} : WorkUnit.KeptByTurns m fun u t => I n (.unit u :: hs) t
  retire {n : Nat} {u : WorkUnit} {hs : List Holder} {t : σ} (hI : I n (.unit u :: hs) t) :
    m.Meets (retireUnit hs u) t fun v t' => I n (.unit v :: hs) t'
  release {n : Nat} {p : WorkPool} {hs : List Holder} {t : σ} {units : Nat}
    (hI : I n (.pool p :: hs) t)
    (hunits : ∀ raw, p.raw = some raw → units = unitsOn (.pool p :: hs) raw) :
    m.Meets (p.release units) t fun q t' => I n (.pool q :: hs) t'
  bindTo {n : Nat} {p : WorkPool} {hs : List Holder} {t : σ} {units : Nat} {family : UInt32}
    (hI : I n (.pool p :: hs) t)
    (hunits : ∀ raw, p.raw = some raw → units = unitsOn (.pool p :: hs) raw) :
    m.Meets (p.bindTo family units n) t fun r t' => I (n + 1) (.pool r.2 :: hs) t'
  /-- A device that somebody has a share in may be shared once more. -/
  share {n : Nat} {x : Holder} {d : Device} {hs : List Holder} {t : σ} (hI : I n hs t)
    (hx : x ∈ hs) (hd : x.device? = some d) : I n (.share d :: hs) t
  /-- A pool may come and go as long as nothing was created for it. -/
  newPool {n : Nat} {x : Holder} {d : Device} {hs : List Holder} {t : σ} (hx : x ∈ hs)
    (hd : x.device? = some d) : I n (.pool (.ofDevice d) :: hs) t ↔ I n hs t
  /-- A unit may come and go as long as nothing was allocated for it. -/
  newUnit {n : Nat} {p : WorkPool} {queue : QueueHandle} {hs : List Holder} {t : σ}
    (hp : .pool p ∈ hs) : I n (.unit (.ofPool p queue) :: hs) t ↔ I n hs t
  establish {n : Nat} {hs : List Holder} {t : σ} {config : Config} {sink : SinkId}
    (hI : I n hs t) :
    m.Meets (Context.establish config sink n) t (Added (I (n + 1)) .context hs)
  adopt {n : Nat} {hs : List Holder} {t : σ} {handles : HostHandles} {config : Config}
    (hI : I n hs t) (hhosted : hosted handles) :
    m.Meets (Context.adopt handles config n) t (Added (I (n + 1)) .context hs)

/-- An invariant of the holders of a session. -/
def Holds (I : Nat → List Holder → σ → Prop) (s : Session) (t : σ) : Prop := I s.nextStamp s.all t

namespace Invariant

variable {m : Monitor σ} {hosted : HostHandles → Prop} {I : Nat → List Holder → σ → Prop} {t : σ}
  (inv : Invariant m hosted I)
include inv

/-! ### Keeping and dropping -/

/-- The holder that was under a name is dropped after the new one is put there. -/
theorem store (hI : I s.nextStamp (h :: s.all) t) :
    m.Meets (s.store name h) t (Holds I) := by
  unfold Session.store
  cases hget : s.get? name with
  | some former =>
    have hperm : (h :: s.all).Perm (former :: (s.set name h).all) :=
      ((all_perm hget).cons h).trans (.swap former h _)
    exact (inv.drop (inv.perm hI hperm)).bind fun _ t ht => Monitor.meets_done ht
  | none =>
    have hsame : (s.set name h).all = h :: s.all := by
      rw [all_set, erase_of_get?_eq_none hget]
    refine Monitor.meets_done ?_
    rw [Holds, hsame]
    exact hI

theorem dropName (hs : s.Holds I t) :
    m.Meets (s.dropName name) t fun r t' => r.2.Holds I t' := by
  unfold Session.dropName
  split
  · exact Monitor.meets_done hs
  next h hget =>
    exact (inv.drop (inv.perm hs (all_perm hget))).bind fun _ t ht => Monitor.meets_done ht

theorem keep {holder : α → Holder} {made : Except Error α}
    (hmade : Added (I s.nextStamp) holder s.all made t) :
    m.Meets (s.keep name holder made) t fun r t' => r.2.Holds I t' := by
  cases made with
  | error e => exact Monitor.meets_done hmade
  | ok a => exact (inv.store hmade).bind fun s' t ht => Monitor.meets_done ht

/-! ### Operations -/

/-- An operation that consists of turns keeps the invariant. -/
theorem onUnit (hs : s.Holds I t) {operation : WorkUnit → Program WorkUnit.Outcome}
    (hturns : ∀ u events result v, (operation u).Runs events (result, v) → u.Turns events v) :
    m.Meets (s.onUnit name operation) t fun r t' => r.2.Holds I t' := by
  unfold Session.onUnit
  cases hu : s.unit? name with
  | none => exact Monitor.meets_done hs
  | some u =>
    have hI : I s.nextStamp (.unit u :: (s.erase name).all) t :=
      inv.perm hs (all_perm (get?_of_unit? hu))
    have hwork : m.Meets (operation u) t fun r t' =>
        I s.nextStamp (.unit r.2 :: (s.erase name).all) t' := by
      rintro events ⟨result, v⟩ hruns hexpects
      exact inv.turns.turns (hturns u events result v hruns) hI hexpects
    apply hwork.bind
    intro r t' ht
    apply Monitor.meets_done
    rw [update_snd]
    exact ht

theorem retired (hs : s.Holds I t) :
    m.Meets (s.retire name) t fun r t' => r.2.Holds I t' := by
  unfold Session.retire
  cases hu : s.unit? name with
  | none => exact Monitor.meets_done hs
  | some u =>
    have hI : I s.nextStamp (.unit u :: (s.erase name).all) t :=
      inv.perm hs (all_perm (get?_of_unit? hu))
    apply (inv.retire hI).bind
    intro v t' ht
    apply Monitor.meets_done
    rw [update_snd]
    exact ht

theorem releasePool (hs : s.Holds I t) :
    m.Meets (s.releasePool name) t fun r t' => r.2.Holds I t' := by
  unfold Session.releasePool
  cases hp : s.pool? name with
  | none => exact Monitor.meets_done hs
  | some p =>
    have hget := get?_of_pool? hp
    have hI : I s.nextStamp (.pool p :: (s.erase name).all) t := inv.perm hs (all_perm hget)
    apply (inv.release hI fun raw hraw => outstanding_eq hget hraw).bind
    intro q t' ht
    refine Monitor.meets_done ?_
    rw [update_snd]
    exact ht

theorem bindPool (hs : s.Holds I t) {family : UInt32} :
    m.Meets (s.bindPool name family) t fun r t' => r.2.Holds I t' := by
  unfold Session.bindPool
  cases hp : s.pool? name with
  | none => exact Monitor.meets_done hs
  | some p =>
    have hget := get?_of_pool? hp
    have hI : I s.nextStamp (.pool p :: (s.erase name).all) t := inv.perm hs (all_perm hget)
    apply (inv.bindTo hI fun raw hraw => outstanding_eq hget hraw).bind
    intro r t' ht
    refine Monitor.meets_done ?_
    rw [update_snd]
    exact ht

theorem openPool (hs : s.Holds I t) {context : String} :
    m.Meets (s.openPool context name) t fun r t' => r.2.Holds I t' := by
  unfold Session.openPool
  cases hc : s.context? context with
  | none => exact Monitor.meets_done hs
  | some c =>
    have hm : .context c ∈ s.all := mem_all_of_get? (get?_of_context? hc)
    have hI : I s.nextStamp (.pool (.ofDevice c.device) :: s.all) t := (inv.newPool hm rfl).2 hs
    have hfailed : ∀ events r,
        ((WorkPool.ofDevice c.device).bindTo c.family 0 s.nextStamp).Runs events r →
          ∀ e, r.1 = .error e → r.2 = WorkPool.ofDevice c.device := by
      rintro events ⟨result, q⟩ hruns e rfl
      exact WorkPool.eq_of_bindTo_error hruns
    apply ((inv.bindTo hI (by simp [WorkPool.ofDevice])).with_result hfailed).bind
    rintro ⟨result, q⟩ t' ⟨hq, ht⟩
    apply inv.keep (s := s.stamped.2)
    cases result with
    | error e =>
      obtain rfl : q = WorkPool.ofDevice c.device := hq e rfl
      exact (inv.newPool hm rfl).1 ht
    | ok => exact ht

theorem openUnit (hs : s.Holds I t) {context pool : String} :
    m.Meets (s.openUnit context pool name) t fun r t' => r.2.Holds I t' := by
  unfold Session.openUnit
  split
  · exact Monitor.meets_done hs
  · exact Monitor.meets_done hs
  next p c hp hc =>
    have hm : .pool p ∈ s.all := mem_all_of_get? (get?_of_pool? hp)
    have hwork : m.Meets (WorkUnit.ofPool p c.queue).allocate t fun r t' =>
        I s.nextStamp (.unit r.2 :: s.all) t' := by
      rintro events ⟨result, v⟩ hruns hexpects
      exact inv.turns.turns (WorkUnit.turns_allocate hruns) ((inv.newUnit hm).2 hs) hexpects
    have hfailed : ∀ events r, (WorkUnit.ofPool p c.queue).allocate.Runs events r →
        ∀ e, r.1 = .error e → r.2 = WorkUnit.ofPool p c.queue := by
      rintro events ⟨result, v⟩ hruns e rfl
      exact WorkUnit.eq_of_allocate_error hruns
    apply (hwork.with_result hfailed).bind
    rintro ⟨result, v⟩ t' ⟨hv, ht⟩
    apply inv.keep
    cases result with
    | error e =>
      obtain rfl : v = WorkUnit.ofPool p c.queue := hv e rfl
      exact (inv.newUnit hm).1 ht
    | ok => exact ht

theorem shareDevice (hs : s.Holds I t) {source : String} :
    m.Meets (s.perform (.shareDevice source name)) t fun r t' => r.2.Holds I t' := by
  cases hd : s.device? source with
  | none =>
    simp only [Session.perform, hd]
    exact Monitor.meets_done hs
  | some d =>
    obtain ⟨x, hx, hxd⟩ := holder_of_device? hd
    simp only [Session.perform, hd]
    exact inv.keep (inv.share hs hx hxd)

theorem makePool (hs : s.Holds I t) {source : String} :
    m.Meets (s.perform (.newPool source name)) t fun r t' => r.2.Holds I t' := by
  cases hd : s.device? source with
  | none =>
    simp only [Session.perform, hd]
    exact Monitor.meets_done hs
  | some d =>
    obtain ⟨x, hx, hxd⟩ := holder_of_device? hd
    simp only [Session.perform, hd]
    exact inv.keep ((inv.newPool hx hxd).2 hs)

theorem makeUnit (hs : s.Holds I t) {pool : String} {queue : QueueHandle} :
    m.Meets (s.perform (.newUnit pool queue name)) t fun r t' => r.2.Holds I t' := by
  cases hp : s.pool? pool with
  | none =>
    simp only [Session.perform, hp]
    exact Monitor.meets_done hs
  | some p =>
    simp only [Session.perform, hp]
    exact inv.keep ((inv.newUnit (mem_all_of_get? (get?_of_pool? hp))).2 hs)

theorem closeContext (hs : s.Holds I t) :
    m.Meets (s.perform (.closeContext name)) t fun r t' => r.2.Holds I t' := by
  cases hc : s.context? name with
  | none =>
    simp only [Session.perform, hc]
    exact Monitor.meets_done hs
  | some c =>
    simp only [Session.perform, hc]
    exact inv.dropName hs

/-- Every operation keeps the invariant. -/
theorem perform (hs : s.Holds I t) {operation : Operation} (hbrings : operation.Brings hosted) :
    m.Meets (s.perform operation) t fun r t' => r.2.Holds I t' := by
  cases operation with
  | establish config sink name =>
    exact (inv.establish hs).bind fun r t ht => inv.keep (s := s.stamped.2) ht
  | adopt handles config name =>
    exact (inv.adopt hs hbrings).bind fun r t ht => inv.keep (s := s.stamped.2) ht
  | shareDevice source name => exact inv.shareDevice hs
  | openPool context name => exact inv.openPool hs
  | newPool source name => exact inv.makePool hs
  | bindPool name family => exact inv.bindPool hs
  | releasePool name => exact inv.releasePool hs
  | openUnit context pool name => exact inv.openUnit hs
  | newUnit pool queue name => exact inv.makeUnit hs
  | allocate name => exact inv.onUnit hs fun _ _ _ _ => WorkUnit.turns_allocate
  | record name => exact inv.onUnit hs fun _ _ _ _ => WorkUnit.turns_record
  | finish name => exact inv.onUnit hs fun _ _ _ _ => WorkUnit.turns_finish
  | submit name milliseconds => exact inv.onUnit hs fun _ _ _ _ => WorkUnit.turns_submit
  | await name milliseconds => exact inv.onUnit hs fun _ _ _ _ => WorkUnit.turns_await
  | retire name => exact inv.retired hs
  | closeContext name => exact inv.closeContext hs
  | drop name => exact inv.dropName hs

/-- Any operations keep the invariant. -/
theorem run (hs : s.Holds I t) {operations : List Operation}
    (hbrings : ∀ operation ∈ operations, operation.Brings hosted) :
    m.Meets (s.run operations) t fun r t' => r.2.Holds I t' := by
  induction operations generalizing s t with
  | nil => exact Monitor.meets_done hs
  | cons operation operations ih =>
    apply (inv.perform hs (hbrings _ List.mem_cons_self)).bind
    intro r t ht
    apply (ih ht fun x hx => hbrings x (List.mem_cons_of_mem _ hx)).bind
    intro r' t' ht'
    exact Monitor.meets_done ht'

end Invariant

end Session

end VulkanExec
