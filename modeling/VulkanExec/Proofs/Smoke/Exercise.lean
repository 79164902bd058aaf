import VulkanExec.Smoke
import VulkanExec.Proofs.Steps
import VulkanExec.Proofs.WorkUnit.Round

/-!
# The exercise of a context

The smoke test makes a pool and a unit for a new context, and the unit goes through its rounds.
Which holders the session of the test has is known at every time, so that a run is described by what
the unit does.

## Main definitions

- `Session.Has`: the holders of a session with their names;
- `Smoke.staged`: the holders while the unit goes through its rounds;
- `Smoke.Exercise`: how a context is exercised, with the holders that there are at the end.

The main statement, `runs_exercise`, says that every run of an exercise is one of these.
-/

namespace VulkanExec

open Program

namespace Session

variable {s : Session} {entries : List (String × Holder)} {name : String}

/-- The holders of a session with their names, the latest first. -/
def Has (s : Session) (entries : List (String × Holder)) : Prop := s.holders.entries = entries

theorem Has.get? (hs : s.Has entries) : s.get? name = entries.lookup name := by
  rw [← hs]
  rfl

theorem Has.set {h : Holder} (hs : s.Has entries) :
    (s.set name h).Has ((name, h) :: entries.filter (·.1 != name)) := by
  rw [← hs]
  rfl

theorem Has.erase (hs : s.Has entries) : (s.erase name).Has (entries.filter (·.1 != name)) := by
  rw [← hs]
  rfl

theorem Has.all (hs : s.Has entries) : s.all = entries.map Prod.snd := by
  rw [← hs]
  rfl

end Session

namespace Smoke

open Session

variable {c : Context} {s t : Session} {p : WorkPool} {u v : WorkUnit} {events : List Event}
  {r : Except Error Unit} {milliseconds : UInt32}

/-- The holders while a unit goes through its rounds. -/
def staged (c : Context) (p : WorkPool) (u : WorkUnit) : List (String × Holder) :=
  [("unit", .unit u), ("pool", .pool p), ("context", .context c)]

/-! ## Rounds -/

/-- An operation is an action on the unit of the test. -/
def IsAction (operation : Operation) (action : WorkUnit.Action) : Prop :=
  action.needsBuffer ∧ ∀ s : Session, s.perform operation = s.onUnit "unit" (·.perform action)

/-- Operations go on after one that is done, and stop after one that fails. -/
theorem runs_inOrder_cons {operation : Operation} {operations : List Operation}
    (h : (inOrder s (operation :: operations)).Runs events (r, t)) :
    (∃ e, (s.perform operation).Runs events (.failed e, t) ∧ r = .error e) ∨
      ∃ first second outcome s', events = first ++ second ∧
        (s.perform operation).Runs first (outcome, s') ∧ (∀ e, outcome ≠ .failed e) ∧
        (inOrder s' operations).Runs second (r, t) := by
  obtain ⟨first, second, ⟨outcome, s'⟩, rfl, hfirst, hrest⟩ := runs_bind_iff.1 h
  cases outcome with
  | failed e =>
    obtain ⟨rfl, he⟩ := runs_pure_iff.1 hrest
    cases he
    exact .inl ⟨e, by simpa using hfirst, rfl⟩
  | done | absent => exact .inr ⟨first, second, _, s', rfl, hfirst, by simp, hrest⟩

theorem runs_action {operation : Operation} {action : WorkUnit.Action} {outcome : Outcome}
    (hs : s.Has (staged c p u)) (hop : IsAction operation action)
    (h : (s.perform operation).Runs events (outcome, t)) :
    ∃ result v, WorkUnit.Attempt u action events result v ∧ t.Has (staged c p v) ∧
      outcome = (match result with | .ok () => .done | .error e => .failed e) := by
  rw [hop.2] at h
  have hu : s.unit? "unit" = some u := by rw [unit?, hs.get?]; rfl
  rw [onUnit, hu] at h
  obtain ⟨first, _, ⟨result, v⟩, rfl, hrun, hend⟩ := runs_bind_iff.1 h
  obtain ⟨rfl, he⟩ := runs_pure_iff.1 hend
  have hattempt : WorkUnit.Attempt u action first result v := by
    rcases WorkUnit.attempt_of_perform hrun with hattempt | ⟨_, rfl, _⟩
    · exact hattempt
    · cases hop.1
  have hset : (s.set "unit" (.unit v)).Has (staged c p v) := hs.set
  rw [List.append_nil]
  cases result <;> cases he
  · exact ⟨_, v, hattempt, hset, rfl⟩
  · exact ⟨_, v, hattempt, hset, rfl⟩

theorem runs_inOrder {operations : List Operation} {actions : List WorkUnit.Action}
    (hs : s.Has (staged c p u)) (hops : List.Forall₂ IsAction operations actions)
    (h : (inOrder s operations).Runs events (r, t)) :
    ∃ v, t.Has (staged c p v) ∧ WorkUnit.InOrder u actions events r v := by
  induction hops generalizing s u events with
  | nil =>
    obtain ⟨rfl, he⟩ := runs_pure_iff.1 h
    cases he
    exact ⟨u, hs, .done u⟩
  | cons hop hops ih =>
    rcases runs_inOrder_cons h with
      ⟨e, hfailed, rfl⟩ | ⟨first, second, outcome, s', rfl, hfirst, hdone, hrest⟩
    · obtain ⟨_ | _, v, hattempt, hv, he⟩ := runs_action hs hop hfailed
      · cases he
        exact ⟨v, hv, .failed hattempt⟩
      · cases he
    · obtain ⟨e | _, v, hattempt, hv, rfl⟩ := runs_action hs hop hfirst
      · exact absurd rfl (hdone e)
      · obtain ⟨w, hw, hrest⟩ := ih hv hrest
        exact ⟨w, hw, .next hattempt hrest⟩

theorem isAction_round : List.Forall₂ IsAction (round milliseconds) (WorkUnit.round milliseconds) :=
  .cons ⟨rfl, fun _ => rfl⟩ (.cons ⟨rfl, fun _ => rfl⟩ (.cons ⟨rfl, fun _ => rfl⟩ .nil))

theorem runs_cycles {cycle n : Nat} (hs : s.Has (staged c p u))
    (h : (cycles milliseconds s cycle n).Runs events (r, t)) :
    ∃ v, t.Has (staged c p v) ∧ WorkUnit.Rounds milliseconds n u events r v := by
  induction n generalizing cycle s u events with
  | zero =>
    obtain ⟨rfl, he⟩ := runs_pure_iff.1 h
    cases he
    exact ⟨u, hs, .done u⟩
  | succ n ih =>
    obtain ⟨first, _, ⟨result, s'⟩, rfl, hfirst, hrest⟩ := runs_bind_iff.1 h
    obtain ⟨v, hv, hround⟩ := runs_inOrder hs isAction_round hfirst
    rcases result with e | ⟨⟩
    · obtain ⟨rfl, he⟩ := runs_pure_iff.1 hrest
      cases he
      exact ⟨v, hv, by simpa using .failed hround⟩
    · obtain ⟨rest, rfl, hlater⟩ := runs_log_iff.1 hrest
      obtain ⟨w, hw, hrounds⟩ := ih hv hlater
      exact ⟨w, hw, .next hround hrounds⟩

/-! ## The exercise -/

/-- The pool that is opened for a context. -/
def poolOf (c : Context) (stamp : Nat) (handle : PoolHandle) : WorkPool where
  device := c.device
  raw := some ⟨stamp, c.device, handle⟩
  family := c.family

/-- The driver refuses to create the pool. -/
def poolRefused (c : Context) (code : ResultCode) : Event :=
  .answered (.createPool c.device.handle c.family resettableBuffers) (.error code)

/-- The first events of an exercise, in which the pool is created. -/
def opening (c : Context) (handle : PoolHandle) (record : LogRecord) : List Event :=
  [.answered (.createPool c.device.handle c.family resettableBuffers) (.ok handle),
    .noted (.log record)]

/-- How a context is exercised: there is no pool, or no unit, or the unit goes through its rounds.
The holders that there are then are those of the last argument. -/
inductive Exercise (c : Context) :
    List Event → Except Error Unit → List (String × Holder) → Prop where
  | poolless {code : ResultCode} :
    Exercise c [poolRefused c code] (.error (.poolCreationFailed code)) [("context", .context c)]
  | unitless {stamp : Nat} {handle : PoolHandle} {record : LogRecord} {events : List Event}
    {e : Error} {u : WorkUnit}
    (allocating : WorkUnit.Attempt (.ofPool (poolOf c stamp handle) c.queue) .allocate events
      (.error e) u) :
    Exercise c (opening c handle record ++ events) (.error e)
      [("pool", .pool (poolOf c stamp handle)), ("context", .context c)]
  | exercised {stamp : Nat} {handle : PoolHandle} {record : LogRecord} {first second : List Event}
    {u v : WorkUnit} {r : Except Error Unit} (notes : List Note)
    (allocating : WorkUnit.Attempt (.ofPool (poolOf c stamp handle) c.queue) .allocate first
      (.ok ()) u)
    (rounding : WorkUnit.Rounds c.fenceTimeout rounds u second r v) :
    Exercise c (opening c handle record ++ (first ++ (second ++ notes.map .noted))) r
      (staged c (poolOf c stamp handle) v)

/-- What is kept under a new name drops nothing. -/
theorem runs_keep_new {α : Type} {name : String} {holder : α → Holder} {made : Except Error α}
    {outcome : Outcome} (hnew : s.get? name = none)
    (h : (s.keep name holder made).Runs events (outcome, t)) :
    events = [] ∧ ((∃ e, made = .error e ∧ outcome = .failed e ∧ t = s) ∨
      ∃ a, made = .ok a ∧ outcome = .done ∧ t = s.set name (holder a)) := by
  rcases runs_keep h with ⟨e, rfl, rfl, he⟩ | ⟨a, rfl, hreplacing, he⟩
  · cases he
    exact ⟨rfl, .inl ⟨e, rfl, rfl, rfl⟩⟩
  · cases he
    cases hreplacing with
    | vacant => exact ⟨rfl, .inr ⟨a, rfl, rfl, rfl⟩⟩
    | former hget => simp [hnew] at hget

theorem runs_openPool {outcome : Outcome} (hs : s.Has [("context", .context c)])
    (h : (s.perform (.openPool "context" "pool")).Runs events (outcome, t)) :
    (∃ code, events = [poolRefused c code] ∧
      outcome = .failed (.poolCreationFailed code) ∧ t.Has [("context", .context c)]) ∨
    ∃ stamp handle record, events = opening c handle record ∧ outcome = .done ∧
      t.Has [("pool", .pool (poolOf c stamp handle)), ("context", .context c)] := by
  have hc : s.context? "context" = some c := by rw [context?, hs.get?]; rfl
  rw [perform, openPool, hc] at h
  obtain ⟨first, second, ⟨result, p⟩, rfl, hbind, hkeep⟩ := runs_bind_iff.1 h
  have hnew : s.stamped.2.get? "pool" = none := hs.get?
  obtain ⟨rfl, hkept⟩ := runs_keep_new hnew hkeep
  rw [List.append_nil]
  cases WorkPool.runs_bindTo hbind with
  | bound hraw => exact absurd rfl hraw
  | @refused released code releasing =>
    obtain ⟨rfl, -⟩ := runs_pure_iff.1 releasing
    rcases hkept with ⟨e, he, rfl, rfl⟩ | ⟨_, he, _⟩ <;> cases he
    exact .inl ⟨code, rfl, rfl, hs⟩
  | @created released handle record releasing =>
    obtain ⟨rfl, -⟩ := runs_pure_iff.1 releasing
    rcases hkept with ⟨_, he, _⟩ | ⟨a, he, rfl, rfl⟩ <;> cases he
    exact .inr ⟨s.nextStamp, handle, record, rfl, rfl, Has.set (s := s.stamped.2) hs⟩

theorem runs_openUnit {outcome : Outcome}
    (hs : s.Has [("pool", .pool p), ("context", .context c)])
    (h : (s.perform (.openUnit "context" "pool" "unit")).Runs events (outcome, t)) :
    (∃ e u, WorkUnit.Attempt (.ofPool p c.queue) .allocate events (.error e) u ∧
      outcome = .failed e ∧ t.Has [("pool", .pool p), ("context", .context c)]) ∨
    ∃ u, WorkUnit.Attempt (.ofPool p c.queue) .allocate events (.ok ()) u ∧ outcome = .done ∧
      t.Has (staged c p u) := by
  have hc : s.context? "context" = some c := by rw [context?, hs.get?]; rfl
  have hp : s.pool? "pool" = some p := by rw [pool?, hs.get?]; rfl
  rw [perform, openUnit, hp, hc] at h
  obtain ⟨first, second, ⟨result, u⟩, rfl, hallocate, hkeep⟩ := runs_bind_iff.1 h
  have hnew : s.get? "unit" = none := hs.get?
  obtain ⟨rfl, hkept⟩ := runs_keep_new hnew hkeep
  rw [List.append_nil]
  have hattempt := WorkUnit.attempt_of_allocate hallocate
  rcases result with e | ⟨⟩
  · rcases hkept with ⟨_, he, rfl, rfl⟩ | ⟨_, he, _⟩ <;> cases he
    exact .inl ⟨e, u, hattempt, rfl, hs⟩
  · rcases hkept with ⟨_, he, _⟩ | ⟨_, he, rfl, rfl⟩ <;> cases he
    exact .inr ⟨u, hattempt, rfl, hs.set⟩

/-- Before the rounds there is an error, with which the exercise ends, or a unit. -/
theorem runs_opening (hs : s.Has [("context", .context c)])
    (h : (inOrder s [.openPool "context" "pool", .openUnit "context" "pool" "unit"]).Runs events
      (r, t)) :
    (∃ e entries, r = .error e ∧ t.Has entries ∧ Exercise c events r entries) ∨
    ∃ stamp handle record first u, r = .ok () ∧ events = opening c handle record ++ first ∧
      WorkUnit.Attempt (.ofPool (poolOf c stamp handle) c.queue) .allocate first (.ok ()) u ∧
      t.Has (staged c (poolOf c stamp handle) u) := by
  rcases runs_inOrder_cons h with
    ⟨e, hfailed, rfl⟩ | ⟨_, second, _, _, rfl, hpool, hdone, hsecond⟩
  · rcases runs_openPool hs hfailed with ⟨code, rfl, he, ht⟩ | ⟨_, _, _, _, he, _⟩ <;> cases he
    exact .inl ⟨_, _, rfl, ht, .poolless⟩
  rcases runs_openPool hs hpool with
    ⟨code, rfl, rfl, _⟩ | ⟨stamp, handle, record, rfl, rfl, hs⟩
  · exact absurd rfl (hdone _)
  rcases runs_inOrder_cons hsecond with
    ⟨e, hfailed, rfl⟩ | ⟨first, third, _, _, rfl, hunit, hdone, hthird⟩
  · rcases runs_openUnit hs hfailed with ⟨_, u, hattempt, he, ht⟩ | ⟨_, _, he, _⟩ <;> cases he
    exact .inl ⟨_, _, rfl, ht, .unitless hattempt⟩
  rcases runs_openUnit hs hunit with ⟨_, _, _, rfl, _⟩ | ⟨u, hattempt, rfl, hs⟩
  · exact absurd rfl (hdone _)
  obtain ⟨rfl, he⟩ := runs_pure_iff.1 hthird
  cases he
  exact .inr ⟨stamp, handle, record, first, u, rfl, by simp, hattempt, hs⟩

/-- Every run of an exercise is one of these. -/
theorem runs_exercise (hs : s.Has [("context", .context c)])
    (h : (exercise s c.fenceTimeout).Runs events (r, t)) :
    ∃ entries, t.Has entries ∧ Exercise c events r entries := by
  obtain ⟨first, rest, ⟨result, s'⟩, rfl, hopen, hrest⟩ := runs_bind_iff.1 h
  rcases runs_opening hs hopen with
    ⟨e, entries, rfl, ht, hexercise⟩ | ⟨stamp, handle, record, first, u, rfl, rfl, hattempt, hs⟩
  · obtain ⟨rfl, he⟩ := runs_pure_iff.1 hrest
    cases he
    exact ⟨entries, ht, by simpa using hexercise⟩
  · obtain ⟨second, last, ⟨result, s'⟩, rfl, hcycles, hend⟩ := runs_bind_iff.1 hrest
    obtain ⟨v, hv, hrounds⟩ := runs_cycles hs hcycles
    rcases result with e | ⟨⟩
    · obtain ⟨rfl, he⟩ := runs_pure_iff.1 hend
      cases he
      exact ⟨_, hv, by simpa using Exercise.exercised [] hattempt hrounds⟩
    · obtain ⟨_, rfl, hlast⟩ := runs_log_iff.1 hend
      obtain ⟨rfl, he⟩ := runs_pure_iff.1 hlast
      cases he
      exact ⟨_, hv, by simpa using Exercise.exercised [_] hattempt hrounds⟩

end Smoke

end VulkanExec
