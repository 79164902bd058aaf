import VulkanExec.Proofs.Agreement.Establishment
import VulkanExec.Proofs.Numbering
import VulkanExec.Proofs.Steps

/-!
# Sessions without validation

Two callers do the same, but for what their configurations say about validation, which is off. They
talk to drivers that are alike. Then they see the same outcomes, put the same commands and end with
the same holders, but for the tables of their contexts, which are alike.

## Main definitions

- `Holder.Alike`, `Session.Alike`: the same holders, but for the tables of contexts;
- `Operation.Alike`: the same operation, but for what a configuration says about validation.

The main statements are `Session.agree_perform` for one operation, `Session.agree_run` for any
number of them, and `Context.validation_off_is_independent`.
-/

namespace VulkanExec

open Program

/-! ## Work on units -/

namespace WorkUnit

variable {u v : WorkUnit} {events : List Event}

theorem Turn.steady (h : Turn u events v) : ∀ c ∈ Event.commands events, c.Steady := by
  cases h <;>
    simp [Event.commands, Command.Steady, Command.asksLayers, Command.asksMessenger]

theorem Turns.steady (h : Turns u events v) : ∀ c ∈ Event.commands events, c.Steady := by
  induction h with
  | nil => simp [Event.commands]
  | cons head _ ih =>
    intro c hc
    rw [Event.commands, List.filterMap_append, List.mem_append] at hc
    rcases hc with hc | hc
    · exact head.steady c hc
    · exact ih c hc

end WorkUnit

theorem Operation.only_steady {operation : Operation} {work : WorkUnit → Program WorkUnit.Outcome}
    (hwork : operation.work? = some work) (u : WorkUnit) : Only Command.Steady (work u) :=
  only_of_runs fun _ _ hruns => (Operation.turns_of_work? hwork hruns).steady

/-! ## Holders -/

namespace Holder

/-- The same holder, or contexts that are alike. -/
inductive Alike : Holder → Holder → Prop where
  | same (h : Holder) : Alike h h
  | context {c d : Context} (h : c.Alike d) : Alike (.context c) (.context d)

variable {x y : Holder} {hs hs' : List Holder}

theorem Alike.device? (h : x.Alike y) : y.device? = x.device? := by
  cases h with
  | same => rfl
  | context h => exact congrArg some h.device

theorem Alike.rawPool? (h : x.Alike y) : y.rawPool? = x.rawPool? := by
  cases h <;> rfl

theorem Alike.isUnitOn (h : x.Alike y) (raw : RawPool) : y.isUnitOn raw = x.isUnitOn raw := by
  cases h <;> rfl

/-- What holders that are alike have in common is common to all of them. -/
theorem map_eq_of_alike {α : Type} {f : Holder → α} (h : List.Forall₂ Alike hs hs')
    (hf : ∀ x y, x.Alike y → f y = f x) : hs'.map f = hs.map f := by
  induction h with
  | nil => rfl
  | cons hxy _ ih => rw [List.map_cons, List.map_cons, hf _ _ hxy, ih]

section Shares

variable (h : List.Forall₂ Alike hs hs')
include h

theorem unitsOn_eq (raw : RawPool) : unitsOn hs' raw = unitsOn hs raw := by
  have hunits := map_eq_of_alike h fun x y hxy => hxy.isUnitOn raw
  simpa [unitsOn, List.countP_map, Function.comp_def] using congrArg (List.countP id) hunits

theorem poolHeld_eq (raw : RawPool) : poolHeld hs' raw = poolHeld hs raw := by
  have hpools := map_eq_of_alike h fun x y hxy =>
    congrArg (fun pool => (pool.map RawPool.stamp) == some raw.stamp) hxy.rawPool?
  simpa [poolHeld, List.any_map, Function.comp_def] using congrArg (List.any · id) hpools

theorem deviceHeld_eq (d : Device) : deviceHeld hs' d = deviceHeld hs d := by
  have hdevices := map_eq_of_alike h fun x y hxy =>
    congrArg (fun device => (device.map Device.stamp) == some d.stamp) hxy.device?
  simpa [deviceHeld, List.any_map, Function.comp_def] using congrArg (List.any · id) hdevices

theorem holdersOf_eq (d : Device) : holdersOf hs' d = holdersOf hs d := by
  have hdevices := map_eq_of_alike h fun x y hxy =>
    congrArg (fun device => (device.map Device.stamp) == some d.stamp) hxy.device?
  have hcount := congrArg (List.countP id) hdevices
  have hpools := map_eq_of_alike h fun x y hxy => hxy.rawPool?
  have hraw := congrArg (List.filterMap id) hpools
  simp only [List.countP_map, List.filterMap_map, Function.comp_def, id] at hcount hraw
  unfold holdersOf livePools
  rw [hcount, hraw]

theorem letGo_eq (pool : Option RawPool) : letGo hs' pool = letGo hs pool := by
  cases pool with
  | none => rfl
  | some raw => rw [letGo, letGo, releasePool, releasePool, poolHeld_eq h]

theorem retireUnit_congr (u : WorkUnit) : retireUnit hs' u = retireUnit hs u := by
  rw [retireUnit_eq, retireUnit_eq, letGo_eq h]

/-- Holders that are alike are dropped in the same way. -/
theorem drop_eq (hxy : x.Alike y) : y.drop hs' = x.drop hs := by
  have hdevice (d : Device) : releaseDevice hs' d = releaseDevice hs d := by
    rw [releaseDevice, releaseDevice, deviceHeld_eq h]
  cases hxy with
  | context hcd =>
    rw [drop_context, drop_context, tellOthers, tellOthers, hcd.device, holdersOf_eq h, hdevice]
  | same =>
    cases x with
    | context c =>
      rw [drop_context, drop_context, tellOthers, tellOthers, holdersOf_eq h, hdevice]
    | share d => exact hdevice d
    | pool p => rw [drop_pool, drop_pool, letGo_eq h, hdevice]
    | unit u => rw [drop_unit, drop_unit, retireUnit_congr h, hdevice]
    | inst | bareDevice => rfl

end Shares

end Holder

/-! ## Sessions -/

namespace Session

/-- The same names in the same order, with holders that are alike. -/
structure Alike (s t : Session) : Prop where
  nextStamp : t.nextStamp = s.nextStamp
  entries : List.Forall₂ (fun x y => x.1 = y.1 ∧ x.2.Alike y.2) s.holders.entries t.holders.entries

variable {s t : Session} {name : String} {x y : Holder}

/-- Under a name there is nothing in both sessions, or there are holders that are alike. -/
theorem Alike.get? (h : s.Alike t) (name : String) :
    Option.Rel Holder.Alike (s.get? name) (t.get? name) := by
  obtain ⟨-, hentries⟩ := h
  unfold Session.get? NameTable.get?
  generalize s.holders.entries = entries at *
  generalize t.holders.entries = others at *
  induction hentries with
  | nil => exact .none
  | @cons e f rest others hef _ ih =>
    obtain ⟨key, x⟩ := e
    obtain ⟨_, y⟩ := f
    obtain ⟨rfl, hxy⟩ := hef
    simp only [List.lookup_cons]
    by_cases hname : name == key
    · simp only [hname]
      exact .some hxy
    · simp only [hname]
      exact ih

theorem Alike.all (h : s.Alike t) : List.Forall₂ Holder.Alike s.all t.all := by
  obtain ⟨-, hentries⟩ := h
  unfold Session.all NameTable.values
  generalize s.holders.entries = entries at *
  generalize t.holders.entries = others at *
  induction hentries with
  | nil => exact .nil
  | cons hef _ ih => exact .cons hef.2 ih

theorem Alike.erase (h : s.Alike t) (name : String) : (s.erase name).Alike (t.erase name) := by
  obtain ⟨hstamp, hentries⟩ := h
  refine ⟨hstamp, ?_⟩
  simp only [Session.erase, NameTable.erase]
  generalize s.holders.entries = entries at *
  generalize t.holders.entries = others at *
  induction hentries with
  | nil => exact .nil
  | @cons e f rest others hef _ ih =>
    obtain ⟨key, x⟩ := e
    obtain ⟨_, y⟩ := f
    obtain ⟨rfl, hxy⟩ := hef
    by_cases hname : key = name
    · simpa [hname] using ih
    · simpa [hname] using ⟨hxy, ih⟩

theorem Alike.set (h : s.Alike t) (hxy : x.Alike y) (name : String) :
    (s.set name x).Alike (t.set name y) :=
  ⟨h.nextStamp, .cons ⟨rfl, hxy⟩ (h.erase name).entries⟩

/-- The same stamp is given out. -/
theorem Alike.stamped (h : s.Alike t) : ∃ stamp s' t',
    s.stamped = (stamp, s') ∧ t.stamped = (stamp, t') ∧ s'.Alike t' := by
  refine ⟨s.nextStamp, s.stamped.2, t.stamped.2, rfl, ?_, ?_⟩
  · exact Prod.ext h.nextStamp rfl
  · exact ⟨congrArg (· + 1) h.nextStamp, h.entries⟩

theorem Alike.outstanding (h : s.Alike t) (p : WorkPool) : t.outstanding p = s.outstanding p := by
  unfold Session.outstanding
  split
  · rfl
  · exact Holder.unitsOn_eq h.all _

/-! ### What is under a name -/

/-- Under a name there is the same in both sessions, or there are contexts that are alike. -/
theorem Alike.get?_cases (h : s.Alike t) (name : String) :
    t.get? name = s.get? name ∨
      ∃ c d, s.get? name = some (.context c) ∧ t.get? name = some (.context d) ∧ c.Alike d := by
  have hrel := h.get? name
  generalize s.get? name = x at *
  generalize t.get? name = y at *
  cases hrel with
  | none => exact .inl rfl
  | some hxy =>
    cases hxy with
    | same => exact .inl rfl
    | context hcd => exact .inr ⟨_, _, rfl, rfl, hcd⟩

theorem Alike.pool? (h : s.Alike t) (name : String) : t.pool? name = s.pool? name := by
  unfold Session.pool?
  rcases h.get?_cases name with hsame | ⟨c, d, hc, hd, -⟩
  · rw [hsame]
  · rw [hc, hd]

theorem Alike.unit? (h : s.Alike t) (name : String) : t.unit? name = s.unit? name := by
  unfold Session.unit?
  rcases h.get?_cases name with hsame | ⟨c, d, hc, hd, -⟩
  · rw [hsame]
  · rw [hc, hd]

theorem Alike.device? (h : s.Alike t) (name : String) : t.device? name = s.device? name := by
  unfold Session.device?
  rcases h.get?_cases name with hsame | ⟨c, d, hc, hd, hcd⟩
  · rw [hsame]
  · rw [hc, hd]
    exact congrArg some hcd.device

theorem Alike.context? (h : s.Alike t) (name : String) :
    Option.Rel Context.Alike (s.context? name) (t.context? name) := by
  unfold Session.context?
  rcases h.get?_cases name with hsame | ⟨c, d, hc, hd, hcd⟩
  · rw [hsame]
    split
    · exact .some (.refl _)
    · exact .none
  · rw [hc, hd]
    exact .some hcd

/-! ### Keeping and dropping -/

/-- The same outcome, and sessions that are alike. -/
def SameOutcome (r q : Outcome × Session) : Prop := r.1 = q.1 ∧ r.2.Alike q.2

theorem agree_drop (h : s.Alike t) (hxy : x.Alike y) :
    Agree Eq (x.drop s.all) (y.drop t.all) := by
  rw [Holder.drop_eq h.all hxy]
  exact .refl (only_drop (fun _ hc => steady_of_isTeardown hc) x)

theorem agree_store (h : s.Alike t) (hxy : x.Alike y) :
    Agree Alike (s.store name x) (t.store name y) := by
  have hafter : (s.set name x).Alike (t.set name y) := h.set hxy name
  have hrel := h.get? name
  unfold store
  generalize s.get? name = former at *
  generalize t.get? name = former' at *
  cases hrel with
  | none => exact .done hafter
  | some hformer => exact (agree_drop hafter hformer).bind fun _ _ _ => .done hafter

theorem agree_keep (h : s.Alike t) {α : Type} {holder : α → Holder} {Q : α → α → Prop}
    {made made' : Except Error α} (hmade : SameResult Q made made')
    (hholder : ∀ a b, Q a b → (holder a).Alike (holder b)) :
    Agree SameOutcome (s.keep name holder made) (t.keep name holder made') := by
  cases hmade with
  | error e => exact .done ⟨rfl, h⟩
  | ok hab => exact (agree_store h (hholder _ _ hab)).bind fun _ _ hst => .done ⟨rfl, hst⟩

/-- The same is kept in sessions that are alike. -/
theorem agree_keep_same (h : s.Alike t) {α : Type} (holder : α → Holder) (made : Except Error α) :
    Agree SameOutcome (s.keep name holder made) (t.keep name holder made) := by
  have hmade : SameResult Eq made made := by
    cases made with
    | error e => exact .error e
    | ok a => exact .ok rfl
  exact agree_keep h hmade fun a b hab => hab ▸ .same _

theorem agree_dropName (h : s.Alike t) :
    Agree SameOutcome (s.dropName name) (t.dropName name) := by
  have hrel := h.get? name
  unfold dropName
  generalize s.get? name = x at *
  generalize t.get? name = y at *
  cases hrel with
  | none => exact .done ⟨rfl, h⟩
  | some hxy =>
    exact (agree_drop (h.erase name) hxy).bind fun _ _ _ => .done ⟨rfl, h.erase name⟩

theorem sameOutcome_update (h : s.Alike t) (x : Holder) (result : Except Error Unit) :
    SameOutcome (s.update name x result) (t.update name x result) := by
  cases result <;> exact ⟨rfl, h.set (.same x) name⟩

/-! ### Operations -/

theorem agree_onUnit (h : s.Alike t) {work : WorkUnit → Program WorkUnit.Outcome}
    (hwork : ∀ u, Only Command.Steady (work u)) :
    Agree SameOutcome (s.onUnit name work) (t.onUnit name work) := by
  unfold onUnit
  rw [h.unit? name]
  split
  · exact .done ⟨rfl, h⟩
  · next u _ =>
    exact Agree.sameBind (hwork u) fun r => .done (sameOutcome_update h (.unit r.2) r.1)

theorem only_steady_bindTo {p : WorkPool} {family : UInt32} {units stamp : Nat} :
    Only Command.Steady (p.bindTo family units stamp) :=
  only_bindTo (fun _ _ => ⟨rfl, rfl⟩) fun _ => ⟨rfl, rfl⟩

theorem agree_openPool (h : s.Alike t) {context : String} :
    Agree SameOutcome (s.openPool context name) (t.openPool context name) := by
  have hrel := h.context? context
  unfold openPool
  generalize s.context? context = c at *
  generalize t.context? context = d at *
  cases hrel with
  | none => exact .done ⟨rfl, h⟩
  | @some c d hcd =>
    obtain ⟨stamp, s', t', hs, ht, h'⟩ := h.stamped
    simp only [hs, ht, hcd.device, hcd.family]
    exact Agree.sameBind only_steady_bindTo fun r => agree_keep_same h' .pool _

theorem agree_bindPool (h : s.Alike t) {family : UInt32} :
    Agree SameOutcome (s.bindPool name family) (t.bindPool name family) := by
  unfold bindPool
  rw [h.pool? name]
  split
  · exact .done ⟨rfl, h⟩
  · obtain ⟨stamp, s', t', hs, ht, h'⟩ := h.stamped
    simp only [hs, ht, h'.outstanding]
    exact Agree.sameBind only_steady_bindTo fun r => .done (sameOutcome_update h' (.pool r.2) r.1)

theorem agree_releasePool (h : s.Alike t) :
    Agree SameOutcome (s.releasePool name) (t.releasePool name) := by
  unfold releasePool
  rw [h.pool? name]
  split
  · exact .done ⟨rfl, h⟩
  · next p _ =>
    rw [h.outstanding p]
    exact Agree.sameBind (only_release fun _ _ => ⟨rfl, rfl⟩) fun q =>
      .done (sameOutcome_update h (.pool q) (.ok ()))

theorem agree_openUnit (h : s.Alike t) {context pool : String} :
    Agree SameOutcome (s.openUnit context pool name) (t.openUnit context pool name) := by
  have hrel := h.context? context
  unfold openUnit
  rw [h.pool? pool]
  generalize s.context? context = c at *
  generalize t.context? context = d at *
  cases s.pool? pool with
  | none => exact .done ⟨rfl, h⟩
  | some p =>
    cases hrel with
    | none => exact .done ⟨rfl, h⟩
    | @some c d hcd =>
      have hallocate : (Operation.allocate name).work? = some WorkUnit.allocate := rfl
      simp only [hcd.queue]
      exact Agree.sameBind (Operation.only_steady hallocate _) fun r => agree_keep_same h .unit _

theorem agree_retire (h : s.Alike t) : Agree SameOutcome (s.retire name) (t.retire name) := by
  unfold retire
  rw [h.unit? name]
  split
  · exact .done ⟨rfl, h⟩
  · next u _ =>
    rw [Holder.retireUnit_congr (h.erase name).all]
    have hsteady : Only Command.Steady (retireUnit (s.erase name).all u) :=
      only_retireUnit (fun _ hc _ => steady_of_isTeardown hc) fun _ _ _ hc _ =>
        steady_of_isTeardown hc
    exact Agree.sameBind hsteady fun v => .done (sameOutcome_update h (.unit v) (.ok ()))

theorem agree_establish (h : s.Alike t) {config other : Config} (hc : config.SameBut other)
    (hoff : config.validation = false) (sink sink' : SinkId) :
    Agree SameOutcome (s.perform (.establish config sink name))
      (t.perform (.establish other sink' name)) := by
  obtain ⟨stamp, s', t', hs, ht, h'⟩ := h.stamped
  simp only [perform, hs, ht]
  exact (Context.agree_establish hc hoff sink sink' stamp).bind fun _ _ hmade =>
    agree_keep h' hmade fun _ _ => .context

theorem agree_adopt (h : s.Alike t) {config other : Config} (hc : config.SameBut other)
    (host : HostHandles) :
    Agree SameOutcome (s.perform (.adopt host config name))
      (t.perform (.adopt host other name)) := by
  obtain ⟨stamp, s', t', hs, ht, h'⟩ := h.stamped
  simp only [perform, hs, ht]
  exact (Context.agree_adopt hc host stamp).bind fun _ _ hmade =>
    agree_keep h' hmade fun _ _ => .context

theorem agree_share (h : s.Alike t) {source : String} :
    Agree SameOutcome (s.perform (.shareDevice source name))
      (t.perform (.shareDevice source name)) := by
  simp only [perform, h.device? source]
  split
  · exact .done ⟨rfl, h⟩
  · exact agree_keep_same h .share _

theorem agree_newPool (h : s.Alike t) {source : String} :
    Agree SameOutcome (s.perform (.newPool source name)) (t.perform (.newPool source name)) := by
  simp only [perform, h.device? source]
  split
  · exact .done ⟨rfl, h⟩
  · exact agree_keep_same h .pool _

theorem agree_newUnit (h : s.Alike t) {pool : String} {queue : QueueHandle} :
    Agree SameOutcome (s.perform (.newUnit pool queue name))
      (t.perform (.newUnit pool queue name)) := by
  simp only [perform, h.pool? pool]
  split
  · exact .done ⟨rfl, h⟩
  · exact agree_keep_same h .unit _

theorem agree_closeContext (h : s.Alike t) :
    Agree SameOutcome (s.perform (.closeContext name)) (t.perform (.closeContext name)) := by
  have hrel := h.context? name
  simp only [perform]
  generalize s.context? name = c at *
  generalize t.context? name = d at *
  cases hrel with
  | none => exact .done ⟨rfl, h⟩
  | some => exact agree_dropName h

end Session

/-- The same operation, but for what a configuration says about validation. An establishment is
without validation; an adoption never has any. -/
inductive Operation.Alike : Operation → Operation → Prop where
  | establish {config other : Config} (hc : config.SameBut other)
    (hoff : config.validation = false) (sink sink' : SinkId) (name : String) :
    Operation.Alike (.establish config sink name) (.establish other sink' name)
  | adopt {config other : Config} (hc : config.SameBut other) (host : HostHandles)
    (name : String) : Operation.Alike (.adopt host config name) (.adopt host other name)
  | same {operation : Operation} (h : ∀ config sink name, operation ≠ .establish config sink name) :
    Operation.Alike operation operation

namespace Session

variable {s t : Session} {operation other : Operation} {operations others : List Operation}

/-- In sessions that are alike, operations that are alike do the same. -/
theorem agree_perform (h : s.Alike t) (hop : operation.Alike other) :
    Agree SameOutcome (s.perform operation) (t.perform other) := by
  cases hop with
  | establish hc hoff sink sink' name => exact agree_establish h hc hoff sink sink'
  | adopt hc host name => exact agree_adopt h hc host
  | same hother =>
    have hwork {work : WorkUnit → Program WorkUnit.Outcome} (hwork : operation.work? = some work)
        (name : String) : Agree SameOutcome (s.onUnit name work) (t.onUnit name work) :=
      agree_onUnit h (Operation.only_steady hwork)
    cases operation with
    | establish config sink name => exact absurd rfl (hother config sink name)
    | adopt host config name => exact agree_adopt h (.refl config) host
    | shareDevice source name => exact agree_share h
    | openPool context name => exact agree_openPool h
    | newPool source name => exact agree_newPool h
    | bindPool name family => exact agree_bindPool h
    | releasePool name => exact agree_releasePool h
    | openUnit context pool name => exact agree_openUnit h
    | newUnit pool queue name => exact agree_newUnit h
    | allocate name => exact hwork rfl name
    | record name => exact hwork rfl name
    | finish name => exact hwork rfl name
    | submit name milliseconds => exact hwork rfl name
    | await name milliseconds => exact hwork rfl name
    | retire name => exact agree_retire h
    | closeContext name => exact agree_closeContext h
    | drop name => exact agree_dropName h

/-- The same outcomes, and sessions that are alike. -/
def SameOutcomes (r q : List Outcome × Session) : Prop := r.1 = q.1 ∧ r.2.Alike q.2

theorem agree_run (h : s.Alike t) (hops : List.Forall₂ Operation.Alike operations others) :
    Agree SameOutcomes (s.run operations) (t.run others) := by
  induction hops generalizing s t with
  | nil => exact .done ⟨rfl, h⟩
  | cons hop _ ih =>
    apply (agree_perform h hop).bind
    rintro ⟨outcome, s'⟩ ⟨_, t'⟩ ⟨rfl, h'⟩
    apply (ih h').bind
    rintro ⟨outcomes, s''⟩ ⟨_, t''⟩ ⟨rfl, h''⟩
    exact .done ⟨rfl, h''⟩

theorem alike_ofContext {c d : Context} (h : c.Alike d) (name : String) :
    (ofContext name c).Alike (ofContext name d) := by
  refine ⟨?_, .cons ⟨rfl, .context h⟩ .nil⟩
  simp only [ofContext, h.device]

end Session

/-- Without validation nothing depends on it. Two establishments with configurations that differ at
most in the layers and the diagnostic extension, with any two sinks, against drivers that differ at
most in what they say about layers and about the functions of the messenger, put the same commands
and end with the same error, or with contexts that differ at most in what their tables hold for
those functions. Whatever is done afterwards with the two contexts then has the same outcomes, puts
the same commands and leaves the same behind. -/
theorem Context.validation_off_is_independent {σ₁ σ₂ : Type} {R : σ₁ → σ₂ → Prop}
    {d₁ : Driver σ₁} {d₂ : Driver σ₂} (hdrivers : d₁.Alike d₂ R) {s₁ : σ₁} {s₂ : σ₂}
    (hstates : R s₁ s₂) {config other : Config} (hconfigs : config.SameBut other)
    (hoff : config.validation = false) (sink sink' : SinkId) (stamp : Nat) :
    SameRun (SameResult Context.Alike) R ((establish config sink stamp).runWith d₁ s₁)
        ((establish other sink' stamp).runWith d₂ s₂) ∧
      ∀ c₁ c₂ events₁ events₂ t₁ t₂,
        (establish config sink stamp).runWith d₁ s₁ = (.ok c₁, events₁, t₁) →
        (establish other sink' stamp).runWith d₂ s₂ = (.ok c₂, events₂, t₂) →
        ∀ name operations others, List.Forall₂ Operation.Alike operations others →
          SameRun Session.SameOutcomes R
            (((Session.ofContext name c₁).run operations).runWith d₁ t₁)
            (((Session.ofContext name c₂).run others).runWith d₂ t₂) := by
  have hmade := (agree_establish hconfigs hoff sink sink' stamp).runWith hdrivers hstates
  refine ⟨hmade, ?_⟩
  intro c₁ c₂ events₁ events₂ t₁ t₂ hfirst hsecond name operations others hops
  rw [hfirst, hsecond] at hmade
  obtain ⟨hresult, -, hstates'⟩ := hmade
  cases hresult with
  | ok halike =>
    exact (Session.agree_run (Session.alike_ofContext halike name) hops).runWith hdrivers hstates'

/-! ### A driver without messengers -/

/-- A driver that cannot list layers and has no function of the messenger. -/
def lackingDriver : Driver Nat :=
  (Driver.numbering fun _ => false).override fun
    | .resolve _ name => if name ∈ EntryPoint.messengerNames then some none else none
    | .layers => some (.error .initializationFailed)
    | _ => none

theorem alike_lackingDriver : (Driver.numbering fun _ => false).Alike lackingDriver Eq := by
  rintro c n _ rfl hlayers
  refine ⟨?_, rfl⟩
  cases c with
  | layers => simp [Command.asksLayers] at hlayers
  | resolve inst name =>
    by_cases hname : name ∈ EntryPoint.messengerNames
    · exact .inr (decide_eq_true hname)
    · left
      simp [lackingDriver, Driver.override, hname]
  | _ => exact .inl rfl

/-- Validation is off. -/
def quietConfig : Config := { Config.default with validation := false }

/-- Validation is off, and it would ask for a layer and an extension that do not exist. -/
def absentConfig : Config :=
  { quietConfig with layers := ["VK_LAYER_absent"], diagnosticExtension := "VK_EXT_absent" }

/-- An establishment on a driver that can do everything. -/
def quietRun : Except Error Context × List Event × Nat :=
  (Context.establish quietConfig 0 0).runWith (.numbering fun _ => false) 1

/-- An establishment on a driver that lacks the messenger. -/
def lackingRun : Except Error Context × List Event × Nat :=
  (Context.establish absentConfig 1 0).runWith lackingDriver 1

/-- A unit is made on a pool and dropped. -/
def unitOperations : List Operation := [.openPool "c" "p", .openUnit "c" "p" "u", .drop "u"]

/-- Both establishments end with a context, one of them without the functions of the messenger. A
unit is then made and dropped with the same commands. -/
theorem same_unit_without_messenger : ∃ c d, quietRun.1 = .ok c ∧ lackingRun.1 = .ok d ∧
    c.Alike d ∧ c.entries.contains EntryPoint.createMessenger = true ∧
    d.entries.contains EntryPoint.createMessenger = false ∧
    Event.commands quietRun.2.1 = Event.commands lackingRun.2.1 ∧
    SameRun Session.SameOutcomes Eq
      (((Session.ofContext "c" c).run unitOperations).runWith (.numbering fun _ => false)
        quietRun.2.2)
      (((Session.ofContext "c" d).run unitOperations).runWith lackingDriver lackingRun.2.2) := by
  have hfound : quietRun.1.toOption.any (·.entries.contains EntryPoint.createMessenger) := by
    decide +kernel
  have hmissing : lackingRun.1.toOption.all (!·.entries.contains EntryPoint.createMessenger) := by
    decide +kernel
  have hconfigs : quietConfig.SameBut absentConfig := rfl
  have hind : SameRun (SameResult Context.Alike) Eq quietRun lackingRun ∧
      ∀ c d events events' n m, quietRun = (.ok c, events, n) → lackingRun = (.ok d, events', m) →
        ∀ name operations others, List.Forall₂ Operation.Alike operations others →
          SameRun Session.SameOutcomes Eq
            (((Session.ofContext name c).run operations).runWith (.numbering fun _ => false) n)
            (((Session.ofContext name d).run others).runWith lackingDriver m) :=
    Context.validation_off_is_independent alike_lackingDriver rfl hconfigs rfl 0 1 0
  generalize quietRun = x at *
  generalize lackingRun = y at *
  obtain ⟨⟨hresult, hcommands, -⟩, hlater⟩ := hind
  obtain ⟨made, events, n⟩ := x
  obtain ⟨made', events', m⟩ := y
  cases hresult with
  | error => simp [Except.toOption] at hfound
  | @ok c d hcd =>
    have hunit : List.Forall₂ Operation.Alike unitOperations unitOperations :=
      .cons (.same nofun) (.cons (.same nofun) (.cons (.same nofun) .nil))
    refine ⟨c, d, rfl, rfl, hcd, hfound, ?_, hcommands, hlater c d _ _ _ _ rfl rfl "c" _ _ hunit⟩
    simpa [Except.toOption] using hmissing

end VulkanExec
