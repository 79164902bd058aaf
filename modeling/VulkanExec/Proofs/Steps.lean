import Mathlib.Data.List.Induction
import VulkanExec.Proofs.Operations

/-!
# Steps of a session

One operation of a session, described once by what can happen in it. Something that it needs is not
there; or it makes a holder, and drops the one that was under the name; or it works on the holder
that it names, or drops it. Every other name keeps its holder.

## Main definitions

- `Operation.target`: the name of the holder that an operation makes, works on or drops;
- `Operation.work?`: what an operation does with a unit;
- `Operation.replaces`: the operations that put something else in the place of a holder;
- `Session.Making`, `Session.Failing`: how a holder is made, and how that fails;
- `Session.Step`: one operation, with its events, its outcome and the session after it.

The main statements: `Session.runs_perform` says that every run of an operation is a step,
`Session.Step.get?_of_ne` that a step leaves all other names alone, and `Session.run_induction`
that what steps keep is kept by any operations.
-/

namespace VulkanExec

open Program

namespace Operation

/-- The name of the holder that an operation makes, works on or drops. -/
def target : Operation → String
  | establish _ _ as | adopt _ _ as | shareDevice _ as | openPool _ as | newPool _ as
  | openUnit _ _ as | newUnit _ _ as => as
  | bindPool name _ | releasePool name | allocate name | record name | finish name
  | submit name _ | await name _ | retire name | closeContext name | drop name => name

/-- Whether an operation gives out a stamp. -/
def stamps : Operation → Bool
  | establish .. | adopt .. | openPool .. | bindPool .. => true
  | _ => false

/-- What an operation does with the unit that it names. -/
def work? : Operation → Option (WorkUnit → Program WorkUnit.Outcome)
  | allocate _ => some WorkUnit.allocate
  | record _ => some WorkUnit.record
  | finish _ => some WorkUnit.finish
  | submit _ milliseconds => some (·.submit milliseconds)
  | await _ milliseconds => some (·.await milliseconds)
  | _ => none

/-- Whether an operation that is done puts another holder, or none, in the place of the one under a
name. -/
def replaces (name : String) : Operation → Bool
  | establish _ _ as | adopt _ _ as | shareDevice _ as | openPool _ as | newPool _ as
  | openUnit _ _ as | newUnit _ _ as => as = name
  | closeContext other | drop other => other = name
  | _ => false

variable {operation : Operation} {work : WorkUnit → Program WorkUnit.Outcome} {u v : WorkUnit}
  {events : List Event} {result : Except Error Unit}

theorem turns_of_work? (h : operation.work? = some work)
    (hruns : (work u).Runs events (result, v)) : u.Turns events v := by
  cases operation <;> cases h
  case allocate => exact WorkUnit.turns_allocate hruns
  case record => exact WorkUnit.turns_record hruns
  case finish => exact WorkUnit.turns_finish hruns
  case submit => exact WorkUnit.turns_submit hruns
  case await => exact WorkUnit.turns_await hruns

end Operation

namespace Session

variable {s s' : Session} {name other : String} {h former : Holder} {events : List Event}
  {operation : Operation} {r : Outcome × Session}

/-- The session in which the stamp of an operation is used up. -/
def spent (s : Session) (operation : Operation) : Session :=
  if operation.stamps then s.stamped.2 else s

@[simp] theorem get?_spent : (s.spent operation).get? name = s.get? name := by
  unfold spent
  split <;> rfl

@[simp] theorem all_spent : (s.spent operation).all = s.all := by
  unfold spent
  split <;> rfl

@[simp] theorem all_erase_spent :
    ((s.spent operation).erase name).all = (s.erase name).all := by
  unfold spent
  split <;> rfl

/-! ## One operation -/

/-- How an operation makes a holder. -/
inductive Making (s : Session) : Operation → List Event → Holder → Prop where
  | establish {config : Config} {sink : SinkId} {name : String} {events : List Event}
    {c : Context} (establishing : (Context.establish config sink s.nextStamp).Runs events (.ok c)) :
    Making s (.establish config sink name) events (.context c)
  | adopt {host : HostHandles} {config : Config} {name : String} {events : List Event}
    {c : Context} (adopting : (Context.adopt host config s.nextStamp).Runs events (.ok c)) :
    Making s (.adopt host config name) events (.context c)
  | shareDevice {source name : String} {d : Device} (hd : s.device? source = some d) :
    Making s (.shareDevice source name) [] (.share d)
  | openPool {context name : String} {c : Context} {p : WorkPool} {events : List Event}
    (hc : s.context? context = some c)
    (binding : ((WorkPool.ofDevice c.device).bindTo c.family 0 s.nextStamp).Runs events
      (.ok (), p)) :
    Making s (.openPool context name) events (.pool p)
  | newPool {source name : String} {d : Device} (hd : s.device? source = some d) :
    Making s (.newPool source name) [] (.pool (.ofDevice d))
  | openUnit {context pool name : String} {c : Context} {p : WorkPool} {u : WorkUnit}
    {events : List Event} (hp : s.pool? pool = some p) (hc : s.context? context = some c)
    (allocating : (WorkUnit.ofPool p c.queue).allocate.Runs events (.ok (), u)) :
    Making s (.openUnit context pool name) events (.unit u)
  | newUnit {pool name : String} {queue : QueueHandle} {p : WorkPool}
    (hp : s.pool? pool = some p) :
    Making s (.newUnit pool queue name) [] (.unit (.ofPool p queue))

/-- How an operation fails to make a holder. -/
inductive Failing (s : Session) : Operation → List Event → Error → Prop where
  | establish {config : Config} {sink : SinkId} {name : String} {events : List Event}
    {e : Error}
    (establishing : (Context.establish config sink s.nextStamp).Runs events (.error e)) :
    Failing s (.establish config sink name) events e
  | adopt {host : HostHandles} {config : Config} {name : String} {events : List Event}
    {e : Error} (adopting : (Context.adopt host config s.nextStamp).Runs events (.error e)) :
    Failing s (.adopt host config name) events e
  | openPool {context name : String} {c : Context} {p : WorkPool} {events : List Event}
    {e : Error} (hc : s.context? context = some c)
    (binding : ((WorkPool.ofDevice c.device).bindTo c.family 0 s.nextStamp).Runs events
      (.error e, p)) :
    Failing s (.openPool context name) events e
  | openUnit {context pool name : String} {c : Context} {p : WorkPool} {u : WorkUnit}
    {events : List Event} {e : Error} (hp : s.pool? pool = some p)
    (hc : s.context? context = some c)
    (allocating : (WorkUnit.ofPool p c.queue).allocate.Runs events (.error e, u)) :
    Failing s (.openUnit context pool name) events e

/-- What happens to the holder that was under the name of a new one. -/
inductive Replacing (s : Session) (name : String) (h : Holder) : List Event → Prop where
  | vacant (hget : s.get? name = none) : Replacing s name h []
  | former {former : Holder} {events : List Event} (hget : s.get? name = some former)
    (dropping : (former.drop (h :: (s.erase name).all)).Runs events ()) :
    Replacing s name h events

/-- One operation, with its events, its outcome and the session after it. -/
inductive Step (s : Session) : Operation → List Event → Outcome × Session → Prop where
  | absent {operation : Operation} (sort : HolderSort) : Step s operation [] (.absent sort, s)
  | failed {operation : Operation} {events : List Event} {e : Error}
    (failing : Failing s operation events e) :
    Step s operation events (.failed e, s.spent operation)
  | made {operation : Operation} {first second : List Event} {h : Holder}
    (making : Making s operation first h) (replacing : Replacing s operation.target h second) :
    Step s operation (first ++ second) (.done, (s.spent operation).set operation.target h)
  | worked {operation : Operation} {work : WorkUnit → Program WorkUnit.Outcome} {u v : WorkUnit}
    {events : List Event} {result : Except Error Unit} (hwork : operation.work? = some work)
    (hu : s.get? operation.target = some (.unit u))
    (working : (work u).Runs events (result, v)) :
    Step s operation events (s.update operation.target (.unit v) result)
  | retired {name : String} {u : WorkUnit} {events : List Event}
    (hu : s.get? name = some (.unit u))
    (retiring : (retireUnit (s.erase name).all u).Runs events u.retired) :
    Step s (.retire name) events (.done, s.set name (.unit u.retired))
  | bound {name : String} {family : UInt32} {p q : WorkPool} {events : List Event}
    {result : Except Error Unit} (hp : s.get? name = some (.pool p))
    (binding : (p.bindTo family (s.outstanding p) s.nextStamp).Runs events (result, q)) :
    Step s (.bindPool name family) events
      ((s.spent (.bindPool name family)).update name (.pool q) result)
  | released {name : String} {p : WorkPool} {events : List Event}
    (hp : s.get? name = some (.pool p))
    (releasing : (p.release (s.outstanding p)).Runs events { p with raw := none }) :
    Step s (.releasePool name) events (.done, s.set name (.pool { p with raw := none }))
  | closed {name : String} {c : Context} {events : List Event}
    (hc : s.get? name = some (.context c))
    (dropping : ((Holder.context c).drop (s.erase name).all).Runs events ()) :
    Step s (.closeContext name) events (.done, s.erase name)
  | dropped {name : String} {h : Holder} {events : List Event} (hget : s.get? name = some h)
    (dropping : (h.drop (s.erase name).all).Runs events ()) :
    Step s (.drop name) events (.done, s.erase name)

/-! ### Every operation is a step -/

theorem runs_keep {α : Type} {holder : α → Holder} {made : Except Error α}
    (h : (s.keep name holder made).Runs events r) :
    (∃ e, made = .error e ∧ events = [] ∧ r = (.failed e, s)) ∨
      ∃ a, made = .ok a ∧ Replacing s name (holder a) events ∧
        r = (.done, s.set name (holder a)) := by
  cases made with
  | error e =>
    obtain ⟨rfl, rfl⟩ := runs_pure_iff.1 h
    exact .inl ⟨e, rfl, rfl, rfl⟩
  | ok a =>
    obtain ⟨first, _, after, rfl, hstore, hend⟩ := runs_bind_iff.1 h
    obtain ⟨rfl, rfl⟩ := runs_pure_iff.1 hend
    rw [List.append_nil]
    unfold store at hstore
    cases hget : s.get? name with
    | none =>
      rw [hget] at hstore
      obtain ⟨rfl, rfl⟩ := runs_pure_iff.1 hstore
      exact .inr ⟨a, rfl, .vacant hget, rfl⟩
    | some former =>
      rw [hget] at hstore
      obtain ⟨first, _, _, rfl, hdrop, hend⟩ := runs_bind_iff.1 hstore
      obtain ⟨rfl, rfl⟩ := runs_pure_iff.1 hend
      rw [List.append_nil]
      exact .inr ⟨a, rfl, .former hget hdrop, rfl⟩

theorem replacing_spent (h' : Replacing (s.spent operation) name h events) :
    Replacing s name h events := by
  cases h' with
  | vacant hget => exact .vacant (by simpa using hget)
  | former hget dropping => exact .former (by simpa using hget) (by simpa using dropping)

/-- A holder that is kept makes a step of its making. -/
theorem step_of_keep (operation : Operation) {α : Type} {holder : α → Holder}
    {made : Except Error α} {first second : List Event}
    (h : ((s.spent operation).keep operation.target holder made).Runs second r)
    (herror : ∀ e, made = .error e → Failing s operation first e)
    (hok : ∀ a, made = .ok a → Making s operation first (holder a)) :
    Step s operation (first ++ second) r := by
  rcases runs_keep h with ⟨e, rfl, rfl, rfl⟩ | ⟨a, rfl, hreplacing, rfl⟩
  · rw [List.append_nil]
    exact .failed (herror e rfl)
  · exact .made (hok a rfl) (replacing_spent hreplacing)

theorem step_of_onUnit {work : WorkUnit → Program WorkUnit.Outcome}
    (hwork : operation.work? = some work) (h : (s.onUnit operation.target work).Runs events r) :
    Step s operation events r := by
  unfold onUnit at h
  split at h
  · obtain ⟨rfl, rfl⟩ := runs_pure_iff.1 h
    exact .absent .unit
  · next u hu =>
    obtain ⟨first, _, ⟨result, v⟩, rfl, hrun, hend⟩ := runs_bind_iff.1 h
    obtain ⟨rfl, rfl⟩ := runs_pure_iff.1 hend
    rw [List.append_nil]
    exact .worked hwork (get?_of_unit? hu) hrun

theorem step_of_openPool {context : String} (h : (s.openPool context name).Runs events r) :
    Step s (.openPool context name) events r := by
  unfold openPool at h
  split at h
  · obtain ⟨rfl, rfl⟩ := runs_pure_iff.1 h
    exact .absent .context
  · next c hc =>
    obtain ⟨first, second, ⟨result, p⟩, rfl, hbind, hkeep⟩ := runs_bind_iff.1 h
    refine step_of_keep (.openPool context name) hkeep ?_ ?_
    · intro e he
      cases result <;> cases he
      exact .openPool hc hbind
    · intro q hq
      cases result <;> cases hq
      exact .openPool hc hbind

theorem step_of_openUnit {context pool : String}
    (h : (s.openUnit context pool name).Runs events r) :
    Step s (.openUnit context pool name) events r := by
  unfold openUnit at h
  split at h
  · obtain ⟨rfl, rfl⟩ := runs_pure_iff.1 h
    exact .absent .pool
  · obtain ⟨rfl, rfl⟩ := runs_pure_iff.1 h
    exact .absent .context
  · next p c hp hc =>
    obtain ⟨first, second, ⟨result, u⟩, rfl, hallocate, hkeep⟩ := runs_bind_iff.1 h
    refine step_of_keep (.openUnit context pool name) hkeep ?_ ?_
    · intro e he
      cases result <;> cases he
      exact .openUnit hp hc hallocate
    · intro v hv
      cases result <;> cases hv
      exact .openUnit hp hc hallocate

theorem step_of_retire (h : (s.retire name).Runs events r) : Step s (.retire name) events r := by
  unfold retire at h
  split at h
  · obtain ⟨rfl, rfl⟩ := runs_pure_iff.1 h
    exact .absent .unit
  · next u hu =>
    obtain ⟨first, _, v, rfl, hretire, hend⟩ := runs_bind_iff.1 h
    obtain ⟨rfl, rfl⟩ := runs_pure_iff.1 hend
    obtain rfl := runs_retireUnit hretire
    rw [List.append_nil]
    exact .retired (get?_of_unit? hu) hretire

theorem step_of_bindPool {family : UInt32} (h : (s.bindPool name family).Runs events r) :
    Step s (.bindPool name family) events r := by
  unfold bindPool at h
  split at h
  · obtain ⟨rfl, rfl⟩ := runs_pure_iff.1 h
    exact .absent .pool
  · next p hp =>
    obtain ⟨first, _, ⟨result, q⟩, rfl, hbind, hend⟩ := runs_bind_iff.1 h
    obtain ⟨rfl, rfl⟩ := runs_pure_iff.1 hend
    rw [List.append_nil]
    exact .bound (get?_of_pool? hp) hbind

theorem step_of_releasePool (h : (s.releasePool name).Runs events r) :
    Step s (.releasePool name) events r := by
  unfold releasePool at h
  split at h
  · obtain ⟨rfl, rfl⟩ := runs_pure_iff.1 h
    exact .absent .pool
  · next p hp =>
    obtain ⟨first, _, q, rfl, hrelease, hend⟩ := runs_bind_iff.1 h
    obtain ⟨rfl, rfl⟩ := runs_pure_iff.1 hend
    obtain rfl := WorkPool.runs_release hrelease
    rw [List.append_nil]
    exact .released (get?_of_pool? hp) hrelease

/-- A drop finds nothing, or it drops the holder under the name. -/
theorem runs_dropName (h : (s.dropName name).Runs events r) :
    (s.get? name = none ∧ events = [] ∧ r = (.absent .any, s)) ∨
      ∃ x, s.get? name = some x ∧ (x.drop (s.erase name).all).Runs events () ∧
        r = (.done, s.erase name) := by
  unfold dropName at h
  split at h
  · next hget =>
    obtain ⟨rfl, rfl⟩ := runs_pure_iff.1 h
    exact .inl ⟨hget, rfl, rfl⟩
  · next x hget =>
    obtain ⟨first, _, _, rfl, hdrop, hend⟩ := runs_bind_iff.1 h
    obtain ⟨rfl, rfl⟩ := runs_pure_iff.1 hend
    rw [List.append_nil]
    exact .inr ⟨x, hget, hdrop, rfl⟩

/-- Every run of an operation is a step. -/
theorem runs_perform (h : (s.perform operation).Runs events r) : Step s operation events r := by
  cases operation with
  | establish config sink name =>
    obtain ⟨first, second, made, rfl, hmade, hkeep⟩ := runs_bind_iff.1 h
    refine step_of_keep (.establish config sink name) hkeep ?_ ?_
    · rintro e rfl
      exact .establish hmade
    · rintro c rfl
      exact .establish hmade
  | adopt host config name =>
    obtain ⟨first, second, made, rfl, hmade, hkeep⟩ := runs_bind_iff.1 h
    refine step_of_keep (.adopt host config name) hkeep ?_ ?_
    · rintro e rfl
      exact .adopt hmade
    · rintro c rfl
      exact .adopt hmade
  | shareDevice source name =>
    dsimp only [perform] at h
    split at h
    · obtain ⟨rfl, rfl⟩ := runs_pure_iff.1 h
      exact .absent .device
    · next d hd =>
      rw [← List.nil_append events]
      refine step_of_keep (.shareDevice source name) h nofun ?_
      rintro _ ⟨⟩
      exact .shareDevice hd
  | openPool context name => exact step_of_openPool h
  | newPool source name =>
    dsimp only [perform] at h
    split at h
    · obtain ⟨rfl, rfl⟩ := runs_pure_iff.1 h
      exact .absent .device
    · next d hd =>
      rw [← List.nil_append events]
      refine step_of_keep (.newPool source name) h nofun ?_
      rintro _ ⟨⟩
      exact .newPool hd
  | bindPool name family => exact step_of_bindPool h
  | releasePool name => exact step_of_releasePool h
  | openUnit context pool name => exact step_of_openUnit h
  | newUnit pool queue name =>
    dsimp only [perform] at h
    split at h
    · obtain ⟨rfl, rfl⟩ := runs_pure_iff.1 h
      exact .absent .pool
    · next p hp =>
      rw [← List.nil_append events]
      refine step_of_keep (.newUnit pool queue name) h nofun ?_
      rintro _ ⟨⟩
      exact .newUnit hp
  | allocate name => exact step_of_onUnit rfl h
  | record name => exact step_of_onUnit rfl h
  | finish name => exact step_of_onUnit rfl h
  | submit name milliseconds => exact step_of_onUnit rfl h
  | await name milliseconds => exact step_of_onUnit rfl h
  | retire name => exact step_of_retire h
  | closeContext name =>
    dsimp only [perform] at h
    split at h
    · obtain ⟨rfl, rfl⟩ := runs_pure_iff.1 h
      exact .absent .context
    · next c hc =>
      have hget := get?_of_context? hc
      rcases runs_dropName h with ⟨hnone, -, -⟩ | ⟨x, hx, hdrop, rfl⟩
      · simp [hget] at hnone
      · obtain rfl : Holder.context c = x := by simpa [hget] using hx
        exact .closed hget hdrop
  | drop name =>
    rcases runs_dropName h with ⟨-, rfl, rfl⟩ | ⟨x, hx, hdrop, rfl⟩
    · exact .absent .any
    · exact .dropped hx hdrop

/-- A step leaves the holders under all other names alone. -/
theorem Step.get?_of_ne (h : Step s operation events r) (hne : other ≠ operation.target) :
    r.2.get? other = s.get? other := by
  cases h with
  | absent | failed => simp
  | worked | bound =>
    rw [update_snd]
    simp_all [Operation.target]
  | made | retired | released | closed | dropped => simp_all [Operation.target]

/-! ## Many operations -/

/-- A run of operations consists of a run of the first one and of those that remain. -/
theorem runs_perform_of_cons {operations : List Operation} {outcomes : List Outcome}
    (h : (s.run (operation :: operations)).Runs events (outcomes, s')) :
    ∃ first second r rest, events = first ++ second ∧ (s.perform operation).Runs first r ∧
      (r.2.run operations).Runs second (rest, s') ∧ outcomes = r.1 :: rest := by
  obtain ⟨first, _, r, rfl, hperform, hrest⟩ := runs_bind_iff.1 h
  obtain ⟨second, _, ⟨rest, t⟩, rfl, hrun, hend⟩ := runs_bind_iff.1 hrest
  obtain ⟨rfl, he⟩ := runs_pure_iff.1 hend
  cases he
  exact ⟨first, second, r, rest, by simp, hperform, hrun, rfl⟩

theorem runs_run_cons {operations : List Operation} {outcomes : List Outcome}
    (h : (s.run (operation :: operations)).Runs events (outcomes, s')) :
    ∃ first second r rest, events = first ++ second ∧ Step s operation first r ∧
      (r.2.run operations).Runs second (rest, s') ∧ outcomes = r.1 :: rest := by
  obtain ⟨first, second, r, rest, rfl, hperform, hrest, rfl⟩ := runs_perform_of_cons h
  exact ⟨first, second, r, rest, rfl, runs_perform hperform, hrest, rfl⟩

theorem run_append (s : Session) (operations later : List Operation) :
    s.run (operations ++ later) = do
      let (outcomes, s) ← s.run operations
      let (outcomes', s) ← s.run later
      return (outcomes ++ outcomes', s) := by
  induction operations generalizing s with
  | nil => exact (Program.bind_done _).symm
  | cons operation operations ih => simp [run, ih]

/-- Operations may be done in two parts, one after the other. -/
theorem runs_run_append_iff {operations later : List Operation} {outcomes : List Outcome} :
    (s.run (operations ++ later)).Runs events (outcomes, s') ↔
      ∃ first second t before after, events = first ++ second ∧ outcomes = before ++ after ∧
        (s.run operations).Runs first (before, t) ∧ (t.run later).Runs second (after, s') := by
  rw [run_append]
  constructor
  · intro h
    obtain ⟨first, _, ⟨before, t⟩, rfl, hfirst, hrest⟩ := runs_bind_iff.1 h
    obtain ⟨second, _, ⟨after, _⟩, rfl, hsecond, hend⟩ := runs_bind_iff.1 hrest
    obtain ⟨rfl, he⟩ := runs_pure_iff.1 hend
    cases he
    exact ⟨first, second, t, before, after, by simp, rfl, hfirst, hsecond⟩
  · rintro ⟨first, second, t, before, after, rfl, rfl, hfirst, hsecond⟩
    exact runs_bind_iff.2 ⟨first, second, _, rfl, hfirst,
      runs_bind_iff.2 ⟨second, [], _, (List.append_nil _).symm, hsecond, .done _⟩⟩

/-- What holds at first and is kept by every operation, along with the operations done, their
outcomes and their events, holds after a run. -/
theorem run_induction_outcomes {I : List Operation → List Outcome → List Event → Session → Prop}
    {start : Session} {operations : List Operation} {outcomes : List Outcome}
    (hrun : (start.run operations).Runs events (outcomes, s)) (hnil : I [] [] [] start)
    (hstep : ∀ {done operation past before s first r}, operation ∈ operations →
      past ++ first <+: events → (start.run done).Runs past (before, s) →
      (s.perform operation).Runs first r → I done before past s →
        I (done ++ [operation]) (before ++ [r.1]) (past ++ first) r.2) :
    I operations outcomes events s := by
  induction operations using List.reverseRecOn generalizing events outcomes s with
  | nil =>
    obtain ⟨rfl, he⟩ := runs_pure_iff.1 hrun
    cases he
    exact hnil
  | append_singleton done operation ih =>
    obtain ⟨past, _, t, before, _, rfl, rfl, hpast, hlast⟩ := runs_run_append_iff.1 hrun
    obtain ⟨first, _, r, _, rfl, hfirst, hend, rfl⟩ := runs_perform_of_cons hlast
    obtain ⟨rfl, he⟩ := runs_pure_iff.1 hend
    cases he
    rw [List.append_nil] at hstep ⊢
    refine hstep (by simp) (List.prefix_refl _) hpast hfirst (ih hpast ?_)
    intro _ _ _ _ _ _ _ hmem hsub
    exact hstep (by simp [hmem]) (hsub.trans (List.prefix_append ..))

/-- What holds at first and is kept by every step, along with the operations done and their events,
holds after a run. -/
theorem run_induction {I : List Operation → List Event → Session → Prop} {start : Session}
    {operations : List Operation} {outcomes : List Outcome}
    (hrun : (start.run operations).Runs events (outcomes, s)) (hnil : I [] [] start)
    (hstep : ∀ {done operation past before s first r}, operation ∈ operations →
      past ++ first <+: events → (start.run done).Runs past (before, s) →
      Step s operation first r → I done past s → I (done ++ [operation]) (past ++ first) r.2) :
    I operations events s := by
  refine run_induction_outcomes (I := fun done _ past s => I done past s) hrun hnil ?_
  intro _ _ _ _ _ _ _ hmem hsub hpast hfirst
  exact hstep hmem hsub hpast (runs_perform hfirst)

end Session

end VulkanExec
