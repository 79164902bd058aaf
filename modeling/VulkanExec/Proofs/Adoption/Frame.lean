import VulkanExec.Proofs.Adoption.Decision
import VulkanExec.Proofs.WorkUnit.Flight
import VulkanExec.Proofs.WorkUnit.Representation

/-!
# What an adoption leaves alone

The instance and the device of an adopted context are the caller's. Nothing that is done with the
context, or with what is made from it, creates or destroys such an object, in whatever order its
holders go. The device is waited for when a unit with a submission in flight shuts down, and never
else.

## Main definitions

- `Command.Spares`: a command that leaves the caller's objects alone;
- `Holder.Adopted`: a holder with a share in a device of the caller;
- `Session.ShutsDown`: an operation shuts down a unit with a submission in flight.

The main statements are `Session.Step.spares`, about one operation of any session, and
`Session.adoption_spares_host`.
-/

namespace VulkanExec

open Program

/-- Whether an operation establishes a context. -/
def Operation.establishes : Operation → Bool
  | .establish .. => true
  | _ => false

/-- Whether a command creates or destroys an instance, a messenger or a device. -/
def Command.touchesHost : Command → Bool
  | createInstance _ | destroyInstance _ | createMessenger .. | destroyMessenger ..
  | createDevice .. | destroyDevice _ => true
  | _ => false

/-- A command neither creates nor destroys an instance, a messenger or a device, and waits for
none but some devices. -/
def Command.Spares (waits : DeviceHandle → Prop) (c : Command) : Prop :=
  c.touchesHost = false ∧ ∀ d, c = .waitIdle d → waits d

/-- What is noted spares everything. -/
def Event.Spares (waits : DeviceHandle → Prop) : Event → Prop
  | answered c _ => c.Spares waits
  | noted _ => True

/-- The device of a holder is the caller's, if there is one. -/
def Holder.Adopted : Holder → Prop
  | context c => c.device.owner = none
  | share d => d.owner = none
  | pool p => p.device.owner = none
  | unit u => u.device.owner = none
  | inst _ => False
  | bareDevice _ => True

section Spares

variable {α : Type} {waits : DeviceHandle → Prop} {events : List Event} {p : WorkPool}
  {u v : WorkUnit} {h : Holder} {d : Device} {remaining : List Holder}

theorem Command.spares_waitIdle {d : DeviceHandle} (h : waits d) : (waitIdle d).Spares waits :=
  ⟨rfl, fun _ he => Command.waitIdle.inj he ▸ h⟩

theorem spares_of_only {program : Program α} {a : α} (h : program.Only (Command.Spares waits))
    (hruns : program.Runs events a) : ∀ e ∈ events, e.Spares waits := by
  intro e he
  cases e with
  | answered c answer => exact h.of_mem hruns he
  | noted n => trivial

/-! ## Pools -/

namespace WorkPool

theorem only_release_spares {units : Nat} : Only (Command.Spares waits) (p.release units) := by
  unfold release RawPool.destroy
  split
  · trivial
  · split
    · exact ⟨⟨rfl, nofun⟩, fun _ => trivial⟩
    · trivial

theorem only_create_spares {family : UInt32} {stamp : Nat} :
    Only (Command.Spares waits) (p.create family stamp) := by
  refine ⟨⟨rfl, nofun⟩, fun answer => ?_⟩
  cases answer <;> trivial

theorem only_bindTo_spares {family : UInt32} {units stamp : Nat} :
    Only (Command.Spares waits) (p.bindTo family units stamp) := by
  unfold bindTo
  split
  · trivial
  · exact only_release_spares.bind fun _ => only_create_spares

/-- A pool stays on its device. -/
theorem device_of_bindTo {family : UInt32} {units stamp : Nat} {result : Except Error Unit}
    {q : WorkPool} (h : (p.bindTo family units stamp).Runs events (result, q)) :
    q.device = p.device := by
  cases runs_bindTo h <;> rfl

end WorkPool

/-! ## Units -/

theorem WorkUnit.Turn.spares (h : u.Turn events v) : ∀ e ∈ events, e.Spares waits := by
  cases h <;> simp [Event.Spares, Command.Spares, Command.touchesHost]

theorem WorkUnit.Turns.spares (h : u.Turns events v) : ∀ e ∈ events, e.Spares waits := by
  induction h with
  | nil u => simp
  | cons head _ ih => exact List.forall_mem_append.2 ⟨head.spares, ih⟩

theorem only_letGo_spares {raw : Option RawPool} :
    Only (Command.Spares waits) (letGo remaining raw) :=
  only_letGo_of_destroyPool fun _ _ => ⟨rfl, nofun⟩

/-- A retirement waits for the device if a submission is in flight. -/
theorem only_retireUnit_spares (hidle : u.inFlight → waits u.device.handle) :
    Only (Command.Spares waits) (retireUnit remaining u) := by
  have hsettle : Only (Command.Spares waits) u.settle :=
    only_settle_of_waitIdle fun hflight => Command.spares_waitIdle (hidle hflight)
  have hfence : Only (Command.Spares waits) u.dropFence :=
    only_dropFence_of_destroyFence ⟨rfl, nofun⟩
  have hbuffer : Only (Command.Spares waits) u.dropBuffer :=
    only_dropBuffer_of_freeBuffer fun _ _ => ⟨rfl, nofun⟩
  rw [retireUnit_eq]
  refine hsettle.bind fun _ => hfence.bind fun _ => hbuffer.bind fun _ => ?_
  exact only_letGo_spares.bind fun _ => trivial

/-! ## Holders -/

/-- The last holder of the caller's device does nothing to it. -/
theorem only_releaseDevice_adopted {P : Command → Prop} (h : d.owner = none) :
    Only P (releaseDevice remaining d) := by
  unfold releaseDevice Device.close
  rw [h]
  split <;> trivial

theorem Holder.Adopted.only_drop (hadopted : h.Adopted)
    (hidle : ∀ u, h = .unit u → u.inFlight → waits u.device.handle) :
    Only (Command.Spares waits) (h.drop remaining) := by
  cases h with
  | context c =>
    rw [Holder.drop_context]
    exact only_tellOthers.bind fun _ => only_releaseDevice_adopted hadopted
  | share d => exact only_releaseDevice_adopted hadopted
  | pool p =>
    rw [Holder.drop_pool]
    exact only_letGo_spares.bind fun _ => only_releaseDevice_adopted hadopted
  | unit u =>
    rw [Holder.drop_unit]
    apply (only_retireUnit_spares (hidle u rfl)).bind
    intro _
    exact only_releaseDevice_adopted hadopted
  | inst i => exact hadopted.elim
  | bareDevice d => trivial

theorem Holder.Adopted.owner (hadopted : h.Adopted) (hd : h.device? = some d) :
    d.owner = none := by
  cases h <;> cases hd <;> exact hadopted

theorem Context.only_adopt_spares {host : HostHandles} {config : Config} {stamp : Nat} :
    Only (Command.Spares waits) (adopt host config stamp) :=
  only_adopt (fun _ => ⟨rfl, nofun⟩) (fun _ => ⟨rfl, nofun⟩) ⟨rfl, nofun⟩ ⟨rfl, nofun⟩
    ⟨rfl, nofun⟩ ⟨rfl, nofun⟩

end Spares

namespace Session

variable {s : Session} {operation : Operation} {operations : List Operation} {name : String}
  {outcomes : List Outcome} {events : List Event} {waits : DeviceHandle → Prop}
  {made : Holder} {r : Outcome × Session}

/-! ## One operation -/

/-- An operation shuts down a unit with a submission in flight on a device: it retires the unit, or
it drops it. -/
def ShutsDown (s : Session) (operation : Operation) (d : DeviceHandle) : Prop :=
  ∃ u, s.get? operation.target = some (.unit u) ∧ u.inFlight ∧ u.device.handle = d ∧
    (operation = .retire operation.target ∨ operation.replaces operation.target)

theorem Making.replaces (h : Making s operation events made) :
    operation.replaces operation.target := by
  cases h <;> simp [Operation.replaces, Operation.target]

/-- What is made without an establishment spares everything. -/
theorem Making.spares (h : Making s operation events made) (hop : operation.establishes = false) :
    ∀ e ∈ events, e.Spares waits := by
  cases h with
  | establish => cases hop
  | adopt adopting => exact spares_of_only Context.only_adopt_spares adopting
  | openPool _ binding => exact spares_of_only WorkPool.only_bindTo_spares binding
  | openUnit _ _ allocating => exact (WorkUnit.turns_allocate allocating).spares
  | shareDevice | newPool | newUnit => simp

theorem Failing.spares {e : Error} (h : Failing s operation events e)
    (hop : operation.establishes = false) : ∀ e ∈ events, e.Spares waits := by
  cases h with
  | establish => cases hop
  | adopt adopting => exact spares_of_only Context.only_adopt_spares adopting
  | openPool _ binding => exact spares_of_only WorkPool.only_bindTo_spares binding
  | openUnit _ _ allocating => exact (WorkUnit.turns_allocate allocating).spares

/-- An operation other than an establishment spares the caller's objects if the holder that it
names is adopted. It waits for no device unless it shuts down a unit with a submission in flight
there. -/
theorem Step.spares (h : Step s operation events r) (hop : operation.establishes = false)
    (hadopted : ∀ h, s.get? operation.target = some h → h.Adopted) :
    ∀ e ∈ events, e.Spares (s.ShutsDown operation) := by
  have hdrop {former : Holder} {remaining : List Holder} {dropping : List Event}
      (hget : s.get? operation.target = some former)
      (hreplaces : operation.replaces operation.target)
      (hruns : (former.drop remaining).Runs dropping ()) :
      ∀ e ∈ dropping, e.Spares (s.ShutsDown operation) := by
    refine spares_of_only ((hadopted former hget).only_drop ?_) hruns
    rintro u rfl hflight
    exact ⟨u, hget, hflight, rfl, .inr hreplaces⟩
  cases h with
  | absent => simp
  | failed failing => exact failing.spares hop
  | made making replacing =>
    intro e he
    rcases List.mem_append.1 he with he | he
    · exact making.spares hop e he
    · cases replacing with
      | vacant => cases he
      | former hget dropping => exact hdrop hget making.replaces dropping e he
  | worked hwork _ working => exact (Operation.turns_of_work? hwork working).spares
  | retired hu retiring =>
    refine spares_of_only (only_retireUnit_spares fun hflight => ?_) retiring
    exact ⟨_, hu, hflight, rfl, .inl rfl⟩
  | bound _ binding => exact spares_of_only WorkPool.only_bindTo_spares binding
  | released _ releasing => exact spares_of_only WorkPool.only_release_spares releasing
  | closed hc dropping =>
    exact hdrop hc (by simp [Operation.replaces, Operation.target]) dropping
  | dropped hget dropping =>
    exact hdrop hget (by simp [Operation.replaces, Operation.target]) dropping

/-! ## Any operations -/

theorem get?_of_device? {d : Device} (hd : s.device? name = some d) :
    ∃ h, s.get? name = some h ∧ h.device? = some d := by
  unfold device? at hd
  split at hd
  · next hget => exact ⟨_, hget, hd⟩
  · next hget => exact ⟨_, hget, hd⟩
  · next hget => exact ⟨_, hget, hd⟩
  · cases hd

/-- All holders are adopted. -/
def AllAdopted (s : Session) : Prop := ∀ name h, s.get? name = some h → h.Adopted

/-- What is made without an establishment from adopted holders is adopted. -/
theorem Making.adopted (h : Making s operation events made) (hop : operation.establishes = false)
    (hs : s.AllAdopted) : made.Adopted := by
  cases h with
  | establish => cases hop
  | adopt adopting =>
    rw [Holder.Adopted, Context.device_of_adopt adopting]
  | shareDevice hd =>
    obtain ⟨x, hget, hx⟩ := get?_of_device? hd
    exact (hs _ x hget).owner hx
  | openPool hc binding =>
    rw [Holder.Adopted, WorkPool.device_of_bindTo binding]
    exact hs _ _ (get?_of_context? hc)
  | newPool hd =>
    obtain ⟨x, hget, hx⟩ := get?_of_device? hd
    exact (hs _ x hget).owner hx
  | openUnit hp _ allocating =>
    rw [Holder.Adopted, (WorkUnit.turns_allocate allocating).continues.device]
    exact hs _ _ (get?_of_pool? hp)
  | newUnit hp =>
    have hpool : (Holder.pool _).Adopted := hs _ _ (get?_of_pool? hp)
    exact hpool

/-- Without establishments all holders stay adopted. -/
theorem Step.adopted (h : Step s operation events r) (hop : operation.establishes = false)
    (hs : s.AllAdopted) : r.2.AllAdopted := by
  intro name x hx
  by_cases hname : name = operation.target
  · subst hname
    cases h with
    | absent | failed => exact hs _ x (by simpa using hx)
    | made making _ =>
      obtain rfl : _ = x := by simpa using hx
      exact making.adopted hop hs
    | worked hwork hu working =>
      rw [update_snd] at hx
      obtain rfl : _ = x := by simpa using hx
      rw [Holder.Adopted, (Operation.turns_of_work? hwork working).continues.device]
      exact hs _ _ hu
    | retired hu _ =>
      obtain rfl : _ = x := by simpa [Operation.target] using hx
      have hunit : (Holder.unit _).Adopted := hs _ _ hu
      exact hunit
    | bound hp binding =>
      rw [update_snd] at hx
      obtain rfl : _ = x := by simpa [Operation.target] using hx
      rw [Holder.Adopted, WorkPool.device_of_bindTo binding]
      exact hs _ _ hp
    | released hp _ =>
      obtain rfl : _ = x := by simpa [Operation.target] using hx
      have hpool : (Holder.pool _).Adopted := hs _ _ hp
      exact hpool
    | closed | dropped => simp [Operation.target] at hx
  · exact hs name x (h.get?_of_ne hname ▸ hx)

/-- After any operations but establishments all holders are adopted, and nothing was created or
destroyed that belongs to the caller. -/
theorem adopted_of_run (hrun : (empty.run operations).Runs events (outcomes, s))
    (hnone : ∀ operation ∈ operations, operation.establishes = false) :
    s.AllAdopted ∧ ∀ e ∈ events, e.Spares fun _ => True := by
  refine run_induction (I := fun _ past s => s.AllAdopted ∧ ∀ e ∈ past, e.Spares fun _ => True)
    hrun ⟨nofun, nofun⟩ ?_
  rintro done operation past before s first r hmem - - hstep ⟨hs, hpast⟩
  have hop := hnone operation hmem
  refine ⟨hstep.adopted hop hs, List.forall_mem_append.2 ⟨hpast, ?_⟩⟩
  intro e he
  have hspares := hstep.spares hop (hs _) e he
  cases e with
  | answered c answer => exact ⟨hspares.1, fun _ _ => trivial⟩
  | noted n => trivial

/-- Adoption leaves the caller's objects alone. In a session in which nothing was established no
instance, messenger or device is created or destroyed, and a device is waited for by no operation
but one that shuts down a unit with a submission in flight there. In a session with both kinds of
contexts this goes for every operation on an adopted holder. An adoption succeeds if and only if all
its conditions hold; otherwise its error is that of the first that does not, and only names were
asked for. -/
theorem adoption_spares_host (hrun : (empty.run operations).Runs events (outcomes, s))
    (hnone : ∀ operation ∈ operations, operation.establishes = false) :
    (∀ c answer, .answered c answer ∈ events → c.touchesHost = false) ∧
    (∀ operation first r, operation.establishes = false → (s.perform operation).Runs first r →
      ∀ e ∈ first, e.Spares (s.ShutsDown operation)) ∧
    (∀ (s : Session) operation first r, operation.establishes = false →
      (∀ h, s.get? operation.target = some h → h.Adopted) → (s.perform operation).Runs first r →
      ∀ e ∈ first, e.Spares (s.ShutsDown operation)) ∧
    ∀ host config stamp first r, (Context.adopt host config stamp).Runs first r →
      ((∃ c, r = .ok c) ↔ ∀ condition ∈ AdoptionCondition.all,
        condition.check host config (.of first) = .holds) ∧
      ∀ e, (r = .error e ↔ ∃ before condition after,
          AdoptionCondition.all = before ++ condition :: after ∧
          (∀ earlier ∈ before, earlier.check host config (.of first) = .holds) ∧
          condition.check host config (.of first) = .fails e) ∧
        (r = .error e →
          ∀ c answer, .answered c answer ∈ first → ∃ i name, c = .resolve i name) := by
  obtain ⟨hadopted, hspares⟩ := adopted_of_run hrun hnone
  refine ⟨?_, ?_, ?_, ?_⟩
  · intro c answer hc
    exact (hspares _ hc).1
  · intro operation first r hop hperform
    exact (runs_perform hperform).spares hop (hadopted _)
  · intro s operation first r hop hadopted hperform
    exact (runs_perform hperform).spares hop hadopted
  · intro host config stamp first r hadopt
    obtain ⟨hok, herror⟩ := Check.decides (Context.adopt_checked hadopt)
    refine ⟨hok, fun e => ⟨herror e, ?_⟩⟩
    rintro rfl
    exact Context.only_resolved_of_error hadopt

/-! ### A submission that is never seen done -/

/-- What a caller brings: the device has the handle 3. -/
def sampleHost : HostHandles :=
  ⟨⟨1⟩, ⟨2⟩, .allOn, [], 0, ⟨3⟩, ⟨4⟩⟩

/-- A unit on an adopted context submits, and all holders are dropped, the unit last. -/
def adoptedOperations : List Operation :=
  [.adopt sampleHost { Config.default with validation := false } "c", .openPool "c" "p",
    .openUnit "c" "p" "u", .record "u", .finish "u", .submit "u" 10, .drop "c", .drop "p",
    .drop "u"]

/-- The run of these operations against a driver that never lets a wait for a fence succeed. -/
def adoptedRun : (List Outcome × Session) × List Event × Nat :=
  (empty.run adoptedOperations).runWith (.numbering WorkUnit.refusesWaits) 5

/-- The adopted device was waited for when the unit was dropped, and is not destroyed. -/
theorem adopted_device_waited :
    adoptedRun.2.1.any (·.isDrain ⟨3⟩) ∧
      ∀ c answer, .answered c answer ∈ adoptedRun.2.1 → c.touchesHost = false := by
  have hwaited : adoptedRun.2.1.any (·.isDrain ⟨3⟩) := by decide +kernel
  have hrun : (empty.run adoptedOperations).Runs adoptedRun.2.1 adoptedRun.1 := by
    unfold adoptedRun
    exact Program.runs_runWith ..
  generalize adoptedRun = run at *
  obtain ⟨hspared, -⟩ := adoption_spares_host hrun (by decide)
  exact ⟨hwaited, hspared⟩

end Session

end VulkanExec
