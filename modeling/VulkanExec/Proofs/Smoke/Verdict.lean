import VulkanExec.Proofs.Establishment.Decision
import VulkanExec.Proofs.Smoke.Teardown

/-!
# The verdict of the smoke test

The smoke test succeeds when everything works, and when there is no suitable driver and none is
required. Whatever happens, it leaves nothing behind.

## Main definitions

- `Drained`: after a wait that failed, the device is waited for before anything is released;
- `Cleared`: all that was created is released again, in reverse order;
- `Smoke.Worked`, `Smoke.Tried`: what is said of an exercise before and after its drops;
- `Smoke.Available`, `Smoke.Dispensable`: there is a suitable driver, and there need not be one;
- `Smoke.Verdict`: what is said of a run of the test.

The main statement, `verdict_of_test`, is about every environment, every state of the library and
every driver.
-/

namespace VulkanExec

open Program

/-- After a wait for a fence that failed, the device is waited for before anything is released. -/
def Drained (events : List Event) : Prop :=
  ∀ before e after, events = before ++ e :: after → ∀ d, e.overdue? = some d →
    ∃ middle drain last, after = middle ++ drain :: last ∧ drain.isDrain d ∧ releases middle = []

/-- Whatever was created is released again: the releases come after all creations and undo them in
reverse order. Null handles do not count. -/
def Cleared (events : List Event) : Prop :=
  ∃ first last, events = first ++ last ∧ releases first = [] ∧ creations last = [] ∧
    nonNull (releases last) = (nonNull (creations first)).reverse

section Lists

variable {first second last events : List Event} {drain : Event} {d : DeviceHandle}

theorem drained_of_none (h : ∀ e ∈ events, e.overdue? = none) : Drained events := by
  intro before e after heq d hd
  simp [h e (by simp [heq])] at hd

/-- Where there is no wait that failed, nothing has to be drained. -/
theorem Drained.append_left (h : Drained second) (hfirst : ∀ e ∈ first, e.overdue? = none) :
    Drained (first ++ second) := by
  intro before e after heq d hd
  rcases append_eq_append_cons heq with ⟨rest, rfl, rfl⟩ | ⟨rest, rfl, hrest⟩
  · simp [hfirst e (by simp)] at hd
  · exact h rest e after hrest d hd

theorem Drained.append_right (h : Drained first) (hsecond : ∀ e ∈ second, e.overdue? = none) :
    Drained (first ++ second) := by
  intro before e after heq d hd
  rcases append_eq_append_cons heq with ⟨rest, rfl, rfl⟩ | ⟨rest, rfl, rfl⟩
  · obtain ⟨middle, drain, last, rfl, hdrain⟩ := h before e rest rfl d hd
    exact ⟨middle, drain, last ++ second, by simp, hdrain⟩
  · simp [hsecond e (by simp)] at hd

/-- A drain before the first release is enough. -/
theorem drained_of_drain (hfirst : ∀ e ∈ first, ∀ d', e.overdue? = some d' → d' = d)
    (hreleases : releases first = []) (hdrain : drain.isDrain d) :
    Drained (first ++ [drain]) := by
  intro before e after heq d' hd
  rcases append_eq_append_cons heq with ⟨rest, rfl, rfl⟩ | ⟨rest, -, hrest⟩
  · obtain rfl := hfirst e (by simp) d' hd
    refine ⟨rest, drain, [], rfl, hdrain, ?_⟩
    have hafter : releases (e :: rest) = [] := by
      rw [releases_append] at hreleases
      exact (List.append_eq_nil_iff.1 hreleases).2
    exact List.filterMap_eq_nil_iff.2 fun x hx => List.filterMap_eq_nil_iff.1 hafter x (.tail e hx)
  · obtain rfl : e = drain := by
      have he : e ∈ [drain] := by simp [hrest]
      simpa using he
    unfold Event.isDrain at hdrain
    split at hdrain
    · cases hd
    · cases hdrain

/-- A unit that is settled drains what it waited for in vain. -/
theorem drained_of_settle {v : WorkUnit} (hfirst : ∀ e ∈ first, ∀ d, e.overdue? = some d →
      d = v.device.handle ∧ v.inFlight) (hreleases : releases first = [])
    (hsettle : v.settle.Runs second ()) (hlast : ∀ e ∈ second ++ last, e.overdue? = none) :
    Drained (first ++ (second ++ last)) := by
  cases hflight : v.inFlight with
  | false =>
    refine drained_of_none (List.forall_mem_append.2 ⟨fun e he => ?_, hlast⟩)
    cases hnone : e.overdue? with
    | none => rfl
    | some d => exact absurd (hfirst e he d hnone).2 (by simp [hflight])
  | true =>
    obtain ⟨record, answer, rest, rfl⟩ := (WorkUnit.runs_settle hsettle).2 hflight
    have hdrained : Drained (first ++ [.noted (.log record)] ++
        [.answered (.waitIdle v.device.handle) answer]) := by
      refine drained_of_drain (d := v.device.handle) ?_ (by rw [releases_append, hreleases]; rfl)
        (by simp [Event.isDrain])
      intro e he d hd
      rcases List.mem_append.1 he with he | he
      · exact (hfirst e he d hd).1
      · obtain rfl := List.mem_singleton.1 he
        cases hd
    have hnone : ∀ e ∈ rest ++ last, e.overdue? = none := fun e he =>
      hlast e (by simp [List.mem_append.1 he])
    simpa using hdrained.append_right hnone

theorem Undone.cleared (h : Undone events) : Cleared events := by
  obtain ⟨first, last, rfl, hreleases, hcreations, hmirror⟩ := h
  exact ⟨first, last, rfl, hreleases, hcreations, by rw [hmirror, nonNull_reverse]⟩

end Lists

namespace Smoke

open Session

/-! ## The trial of a context -/

/-- What is said of the exercise of a context and the drops after it. -/
structure Tried (c : Context) (i : Instance) (events : List Event) (r : Except Error Unit) :
    Prop where
  stops : StopsAtFailure events r
  told : Answers.of events = {}
  drained : Drained events
  /-- The objects of the context are released after all others. -/
  cleared : ∃ first last, events = first ++ last ∧ releases first = [] ∧ creations last = [] ∧
    nonNull (releases last) = nonNull (c.objects i ++ creations first).reverse
  counts : r = .ok () → submissions events = rounds ∧ signals events = rounds

section Tried

variable {c : Context} {i : Instance} {s t : Session} {p : WorkPool}
  {first second events : List Event} {r : Except Error Unit} {code : ResultCode} {stamp : Nat}
  {handle : PoolHandle} {record : LogRecord}

/-- After a part in which things are made and used comes one in which they are only released. -/
theorem tried_of_tornDown (hstops : StopsAtFailure first r) (htold : Answers.of first = {})
    (htorn : TornDown second) (hdrained : Drained (first ++ second))
    (hcleared : ∃ before after, first = before ++ after ∧ releases before = [] ∧
      creations after = [] ∧
      nonNull (releases after ++ releases second) =
        nonNull (c.objects i ++ creations before).reverse)
    (hcounts : r = .ok () → submissions first = rounds ∧ signals first = rounds) :
    Tried c i (first ++ second) r := by
  refine ⟨hstops.append_right htorn.idle, ?_, hdrained, ?_, ?_⟩
  · rw [Answers.of_append, htold, htorn.told]
    rfl
  · obtain ⟨before, after, rfl, hbefore, hafter, hmirror⟩ := hcleared
    refine ⟨before, after ++ second, List.append_assoc .., hbefore, ?_, ?_⟩
    · rw [creations_append, hafter, htorn.creations]
      rfl
    · rw [releases_append, hmirror]
  · intro hr
    obtain ⟨hlater, hlater'⟩ := counts_of_exercises_eq_false htorn.idle
    rw [submissions_append, signals_append, hlater, hlater']
    exact hcounts hr

theorem creations_opening : creations (opening c handle record) = [handle.object] := rfl

theorem opening_calm :
    ∀ x ∈ opening c handle record, x.fails = false ∧ x.overdue? = none := by
  simp [opening, Event.fails, Event.overdue?, Command.refusal?]

/-- What is said of the part of an exercise in which a unit is made and goes through its rounds. -/
structure Worked (c : Context) (raw : RawPool) (events : List Event) (r : Except Error Unit)
    (v : WorkUnit) : Prop where
  pool : v.pool = some raw
  device : v.device = c.device
  stops : StopsAtFailure events r
  told : Answers.of events = {}
  releases : releases events = []
  creations : creations events = [raw.handle.object, v.buffer.object, v.fence.object]
  /-- After a wait that failed the submission is in flight. -/
  overdue : ∀ e ∈ events, ∀ d, e.overdue? = some d → d = v.device.handle ∧ v.inFlight
  counts : r = .ok () → submissions events = rounds ∧ signals events = rounds

theorem worked_of_rounds {u v : WorkUnit}
    (allocating : WorkUnit.Attempt (.ofPool (poolOf c stamp handle) c.queue) .allocate first
      (.ok ()) u)
    (rounding : WorkUnit.Rounds c.fenceTimeout rounds u second r v) :
    Worked c ⟨stamp, c.device, handle⟩ (opening c handle record ++ (first ++ second)) r v := by
  obtain ⟨hstops, ⟨_, hstretch⟩, hcounts⟩ := rounding.of_allocate allocating rfl
  obtain ⟨raw, buffer, fence, rfl, rfl⟩ := allocating.of_allocate_ok rfl
  have hunit := hstretch.unit
  refine ⟨?_, ?_, ?_, ?_, ?_, ?_, ?_, ?_⟩
  · rw [hunit]
    rfl
  · rw [hunit]
    rfl
  · exact hstops.append_left fun x hx => (opening_calm x hx).1
  · rw [Answers.of_append, Answers.of_append, hstretch.told]
    rfl
  · rw [releases_append, releases_append, hstretch.quiet.2]
    rfl
  · rw [creations_append, creations_append, hstretch.quiet.1, hunit]
    rfl
  · intro e he d hd
    rcases List.mem_append.1 he with he | he
    · simp [(opening_calm e he).2] at hd
    rcases List.mem_append.1 he with he | he
    · simp only [List.mem_cons, List.not_mem_nil, or_false] at he
      rcases he with rfl | rfl <;> cases hd
    · rw [hunit]
      exact hstretch.overdue e he d hd
  · intro hr
    obtain ⟨hsubmissions, hsignals⟩ := hcounts hr
    simp only [submissions_append, signals_append, hsubmissions, hsignals]
    exact ⟨rfl, rfl⟩

variable (howner : c.device.owner = some i)
include howner

theorem tried_poolless (hs : s.Has [("context", .context c)])
    (hdrop : (s.dropNames ["unit", "pool", "context"]).Runs events t) :
    Tried c i (poolRefused c code :: events) (.error (.poolCreationFailed code)) := by
  have htorn := tornDown_of_only only_dropNames hdrop
  have hreleases := releases_context hs howner
    (runs_dropNames_absent hs.get? (runs_dropNames_absent hs.get? hdrop))
  have hstops : StopsAtFailure [poolRefused c code]
      (.error (.poolCreationFailed code) : Except Error Unit) :=
    ⟨by simp [poolRefused, Event.fails, Command.isExercise, Command.refusal?], by simp⟩
  have hdrained : Drained ([poolRefused c code] ++ events) :=
    drained_of_none (by simpa [poolRefused, Event.overdue?] using htorn.overdue)
  refine tried_of_tornDown hstops rfl htorn hdrained ⟨[_], [], rfl, rfl, rfl, ?_⟩ (by simp)
  have hnone : creations [poolRefused c code] = [] := rfl
  rw [hreleases, hnone, List.append_nil]
  rfl

theorem tried_unitless {e : Error} {u : WorkUnit}
    (allocating : WorkUnit.Attempt (.ofPool (poolOf c stamp handle) c.queue) .allocate first
      (.error e) u)
    (hs : s.Has [("pool", .pool (poolOf c stamp handle)), ("context", .context c)])
    (hdrop : (s.dropNames ["unit", "pool", "context"]).Runs events t) :
    Tried c i (opening c handle record ++ first ++ events) (.error e) := by
  have htorn := tornDown_of_only only_dropNames hdrop
  have hreleases := releases_pool hs rfl rfl howner (runs_dropNames_absent hs.get? hdrop)
  obtain ⟨hstops, ⟨before, after, rfl, hbefore, hafter, hmirror⟩, hasked, hnone⟩ :=
    allocating.of_allocate_error rfl
  refine tried_of_tornDown (hstops.append_left fun x hx => (opening_calm x hx).1) ?_ htorn ?_
    ⟨opening c handle record ++ before, after, (List.append_assoc ..).symm, ?_, hafter, ?_⟩
    (by simp)
  · rw [Answers.of_append, hasked]
    rfl
  · refine drained_of_none (List.forall_mem_append.2 ⟨?_, htorn.overdue⟩)
    exact List.forall_mem_append.2 ⟨fun x hx => (opening_calm x hx).2, hnone⟩
  · rw [releases_append, hbefore]
    rfl
  · rw [hmirror, hreleases, creations_append]
    simp [creations_opening]

theorem tried_exercised {v : WorkUnit} {raw : RawPool} {notes : List Note}
    (hworked : Worked c raw first r v) (hs : s.Has (staged c p v)) (hraw : p.raw = some raw)
    (hdevice : p.device = c.device)
    (hdrop : (s.dropNames ["unit", "pool", "context"]).Runs events t) :
    Tried c i (first ++ (notes.map .noted ++ events)) r := by
  have htorn := (tornDown_notes notes).append (tornDown_of_only only_dropNames hdrop)
  obtain ⟨settling, rest, rfl, hsettle, hreleases⟩ :=
    releases_unit hs hraw hdevice howner hworked.pool hworked.device hdrop
  have hnotes := releases_notes notes
  refine tried_of_tornDown hworked.stops hworked.told htorn ?_
    ⟨first, [], (List.append_nil _).symm, hworked.releases, rfl, ?_⟩ hworked.counts
  · -- The notes do not count as waits, so that the unit is settled right after its rounds.
    have hoverdue : ∀ e ∈ first ++ notes.map .noted, ∀ d, e.overdue? = some d →
        d = v.device.handle ∧ v.inFlight := by
      intro e he d hd
      rcases List.mem_append.1 he with he | he
      · exact hworked.overdue e he d hd
      · simp [(tornDown_notes notes).overdue e he] at hd
    have hreleased : releases (first ++ notes.map .noted) = [] := by
      rw [releases_append, hworked.releases, hnotes]
      rfl
    have hnone : ∀ e ∈ settling ++ rest, e.overdue? = none := fun e he =>
      htorn.overdue e (List.mem_append_right _ he)
    simpa using drained_of_settle hoverdue hreleased hsettle hnone
  · have hsettling := (WorkUnit.runs_settle hsettle).1
    have hnil : releases [] = [] := rfl
    rw [hnil, List.nil_append, releases_append, releases_append, hnotes, hsettling, List.nil_append,
      List.nil_append, hreleases, hworked.creations, List.reverse_append]
    rfl

end Tried

/-- However far an exercise comes, the drops after it make up for it. -/
theorem tried {c : Context} {i : Instance} {s t : Session} {first second : List Event}
    {r : Except Error Unit} {entries : List (String × Holder)} (howner : c.device.owner = some i)
    (hexercise : Exercise c first r entries) (hs : s.Has entries)
    (hdrop : (s.dropNames ["unit", "pool", "context"]).Runs second t) :
    Tried c i (first ++ second) r := by
  cases hexercise with
  | poolless => exact tried_poolless howner hs hdrop
  | unitless allocating => exact tried_unitless howner allocating hs hdrop
  | exercised notes allocating rounding =>
    simpa using tried_exercised howner (worked_of_rounds allocating rounding) hs rfl rfl hdrop

/-! ## The test -/

/-- A context is to be had: the library is there, and by the driver's answers every condition of an
establishment holds. -/
def Available (config : Config) (library : Except String Unit) (events : List Event) : Prop :=
  library = .ok () ∧
    ∀ condition ∈ config.conditions, condition.check config 0 (.of events) = .holds

/-- There need not be a driver: the variable is not set, or it is exactly a zero digit. -/
def Dispensable (env : Environment) : Prop :=
  env.lookup "VKCORE_REQUIRED" = none ∨
    env.lookup "VKCORE_REQUIRED" = some (Text.Utf8.bytes "0")

/-- What is said of a run of the smoke test that a build does. -/
structure Verdict (profile : BuildProfile) (env : Environment) (library : Except String Unit)
    (events : List Event) (r : Except String Unit) : Prop where
  /-- The test succeeds when the configuration is valid and there is no driver and need not be one,
  or there is a driver and nothing fails. -/
  ok_iff : r = .ok () ↔ ∃ config, Config.ofEnvironment env.text? profile = .ok config ∧
    (¬ Available config library events ∧ Dispensable env ∨
      Available config library events ∧ ∀ e ∈ events, e.fails = false)
  /-- An invalid configuration is an error, whether or not there need be a driver, and nothing is
  asked of one. -/
  invalid : ∀ e, Config.ofEnvironment env.text? profile = .error e →
    r = .error e.message ∧ Event.commands events = []
  /-- A test that succeeds with a driver has made a submission in each round and seen it done. -/
  counts : ∀ config, Config.ofEnvironment env.text? profile = .ok config →
    Available config library events → r = .ok () →
      submissions events = rounds ∧ signals events = rounds
  /-- After a failure nothing is recorded, reset or submitted. -/
  stops : events.Pairwise fun e later => e.fails → later.isWork = false
  drained : Drained events
  cleared : Cleared events

section Test

variable {profile : BuildProfile} {env : Environment} {library : Except String Unit}
  {events : List Event} {r : Except String Unit} {config : Config}

theorem isRequired_eq_false_iff : isRequired env = false ↔ Dispensable env := by
  unfold isRequired Dispensable
  cases env.lookup "VKCORE_REQUIRED" with
  | none => simp
  | some value => simp

theorem runs_skip {what status : String} {e : Error} (h : (skip env what status e).Runs events r) :
    (r = .ok () ↔ Dispensable env) ∧ ∃ notes : List Note, events = notes.map .noted := by
  rw [← isRequired_eq_false_iff]
  unfold skip at h
  split at h
  · next hrequired =>
    obtain ⟨rfl, rfl⟩ := runs_pure_iff.1 h
    exact ⟨by simp [hrequired], [], rfl⟩
  · next hrequired =>
    obtain ⟨_, rfl, hend⟩ := runs_log_iff.1 h
    obtain ⟨rfl, rfl⟩ := runs_pure_iff.1 hend
    exact ⟨by simpa using hrequired, [_], rfl⟩

/-- An establishment is no part of the exercise. -/
theorem idle_of_establish {sink : SinkId} {stamp : Nat} {made : Except Error Context}
    (h : (Context.establish config sink stamp).Runs events made) :
    ∀ e ∈ events, e.exercises = false := by
  have hclose (i : Instance) : i.close.Only fun c => c.isExercise = false :=
    only_instance_close rfl fun _ _ => rfl
  have honly : (Context.establish config sink stamp).Only fun c => c.isExercise = false :=
    only_establish (fun _ => rfl)
      (fun _ => only_instance_establish rfl (fun _ => rfl) (fun _ => rfl) (fun _ _ => rfl)
        (fun _ => rfl) hclose)
      (fun _ => only_negotiate (only_choose rfl (fun _ => rfl) (fun _ => rfl) fun _ => rfl)
        (fun _ _ => rfl) (fun _ _ => rfl) fun _ => rfl)
      (fun _ _ => rfl) (fun _ _ => rfl) hclose
  intro e he
  cases e with
  | noted n => rfl
  | answered c answer => exact honly.of_mem h he

/-- The verdict on a test that does not come to its exercise. -/
theorem verdict_of_skipped (hconfig : Config.ofEnvironment env.text? profile = .ok config)
    (hnone : ¬ Available config library events) (hr : r = .ok () ↔ Dispensable env)
    (hidle : ∀ e ∈ events, e.exercises = false) (hcleared : Cleared events) :
    Verdict profile env library events r where
  ok_iff := by simp [hconfig, hnone, hr]
  invalid := by simp [hconfig]
  counts := by
    intro config' hconfig' havailable
    obtain rfl := Except.ok.inj (hconfig.symm.trans hconfig')
    exact absurd havailable hnone
  stops := List.pairwise_of_forall_mem_list fun _ _ e he _ =>
    (Event.of_exercises_eq_false (hidle e he)).1.2
  drained := drained_of_none fun e he => (Event.of_exercises_eq_false (hidle e he)).2.1
  cleared := hcleared

/-- The verdict on a test that exercises a context. -/
theorem verdict_of_tried {first second : List Event} {c : Context} {i : Instance}
    {result : Except Error Unit} {notes : List Note}
    (hconfig : Config.ofEnvironment env.text? profile = .ok config)
    (hholds : ∀ condition ∈ config.conditions, condition.check config 0 (.of first) = .holds)
    (hidle : ∀ e ∈ first, e.exercises = false)
    (hreleases : releases first = []) (hcreations : creations first = c.objects i)
    (htried : Tried c i second result) (hr : r = .ok () ↔ result = .ok ()) :
    Verdict profile env (.ok ()) (first ++ (second ++ notes.map .noted)) r := by
  have htorn := tornDown_notes notes
  have hstops : StopsAtFailure (first ++ (second ++ notes.map .noted)) result :=
    (htried.stops.append_right htorn.idle).append_left fun e he =>
      (Event.of_exercises_eq_false (hidle e he)).1.1
  have havailable : Available config (.ok ()) (first ++ (second ++ notes.map .noted)) := by
    refine ⟨rfl, ?_⟩
    rwa [Answers.of_append, Answers.of_append, htried.told, htorn.told, Answers.empty_append,
      Answers.append_empty]
  refine ⟨?_, by simp [hconfig], ?_, hstops.pairwise, ?_, ?_⟩
  · rw [hr, hstops.ok_iff]
    simp [hconfig, havailable]
  · intro _ _ _ hok
    obtain ⟨hbefore, hbefore'⟩ := counts_of_exercises_eq_false hidle
    obtain ⟨hlater, hlater'⟩ := counts_of_exercises_eq_false htorn.idle
    obtain ⟨hsubmissions, hsignals⟩ := htried.counts (hr.1 hok)
    simp only [submissions_append, signals_append]
    omega
  · exact (htried.drained.append_right htorn.overdue).append_left fun e he =>
      (Event.of_exercises_eq_false (hidle e he)).2.1
  · obtain ⟨before, after, rfl, hbefore, hafter, hmirror⟩ := htried.cleared
    refine ⟨first ++ before, after ++ notes.map .noted, by simp, ?_, ?_, ?_⟩
    · rw [releases_append, hreleases, hbefore]
      rfl
    · rw [creations_append, hafter, htorn.creations]
      rfl
    · rw [releases_append, releases_notes, List.append_nil, hmirror, creations_append, hcreations,
        nonNull_reverse]

/-- The run of a test with a context. -/
theorem runs_onContext {c : Context} {s : Session} {i : Instance}
    (hs : s.Has [("context", .context c)]) (howner : c.device.owner = some i)
    (h : (onContext c s).Runs events r) :
    ∃ (record : LogRecord) (second : List Event) (result : Except Error Unit) (notes : List Note),
      events = .noted (.log record) :: (second ++ notes.map .noted) ∧ Tried c i second result ∧
        (r = .ok () ↔ result = .ok ()) := by
  obtain ⟨rest, rfl, hrest⟩ := runs_log_iff.1 h
  obtain ⟨first, _, ⟨result, s'⟩, rfl, hexercise, hlater⟩ := runs_bind_iff.1 hrest
  obtain ⟨second, last, _, rfl, hdrop, hend⟩ := runs_bind_iff.1 hlater
  obtain ⟨entries, hs', hexercise⟩ := runs_exercise hs hexercise
  have htried := tried howner hexercise hs' hdrop
  rcases result with e | ⟨⟩
  · obtain ⟨rfl, rfl⟩ := runs_pure_iff.1 hend
    exact ⟨_, first ++ second, .error e, [], by rw [List.append_assoc]; rfl, htried, by simp⟩
  · obtain ⟨_, rfl, hlast⟩ := runs_log_iff.1 hend
    obtain ⟨rfl, rfl⟩ := runs_pure_iff.1 hlast
    exact ⟨_, first ++ second, .ok (), [_], by rw [List.append_assoc]; rfl, htried, by simp⟩

theorem cleared_notes (notes : List Note) : Cleared (notes.map .noted) :=
  (undone_of_quiet (tornDown_notes notes).creations (releases_notes notes)).cleared

/-- The verdict on a test without a context. -/
theorem verdict_of_unestablished {first : List Event} {e : Error} {n : Note} {notes : List Note}
    (hconfig : Config.ofEnvironment env.text? profile = .ok config)
    (h : (Context.establish config 0 0).Runs first (.error e)) (hr : r = .ok () ↔ Dispensable env) :
    Verdict profile env (.ok ()) (.noted n :: (first ++ notes.map .noted)) r := by
  have htorn := tornDown_notes notes
  refine verdict_of_skipped hconfig ?_ hr ?_ ?_
  · rintro ⟨-, hholds⟩
    rw [Answers.of_cons, Answers.of_append, htorn.told, Event.tells_noted, Answers.empty_append,
      Answers.append_empty] at hholds
    obtain ⟨c, hc⟩ := (Context.establish_decided h).1.2 hholds
    cases hc
  · have hidle := idle_of_establish h
    exact List.forall_mem_cons.2 ⟨rfl, List.forall_mem_append.2 ⟨hidle, htorn.idle⟩⟩
  · have hundone := ((Context.establish_all_or_nothing h).1 e rfl).1
    have hall : Undone ([.noted n] ++ (first ++ notes.map .noted)) :=
      hundone.enclose rfl htorn.creations (releases_notes notes)
    exact hall.cleared

/-- The verdict on a test with a context. -/
theorem verdict_of_established {first second : List Event} {c : Context} {n : Note}
    (hconfig : Config.ofEnvironment env.text? profile = .ok config)
    (h : (Context.establish config 0 0).Runs first (.ok c))
    (htest : (onContext c (.ofContext "context" c)).Runs second r) :
    Verdict profile env (.ok ()) (.noted n :: (first ++ second)) r := by
  obtain ⟨hreleases, i, howner, hcreations, -⟩ := (Context.establish_all_or_nothing h).2 c rfl
  have hs : (Session.ofContext "context" c).Has [("context", .context c)] := rfl
  obtain ⟨record, tested, result, notes, rfl, htried, hr⟩ := runs_onContext hs howner htest
  have hholds := (Context.establish_decided h).1.1 ⟨c, rfl⟩
  have hidle := idle_of_establish h
  suffices hverdict : Verdict profile env (.ok ())
      ([.noted n] ++ (first ++ [.noted (.log record)]) ++ (tested ++ notes.map .noted)) r by
    simpa using hverdict
  refine verdict_of_tried hconfig ?_ ?_ ?_ ?_ htried hr
  · simpa using hholds
  · exact List.forall_mem_append.2 ⟨(tornDown_notes [n]).idle,
      List.forall_mem_append.2 ⟨hidle, (tornDown_notes [.log record]).idle⟩⟩
  · rw [releases_append, releases_append, hreleases]
    rfl
  · rw [creations_append, creations_append, hcreations, creations_noted, creations_noted,
      List.nil_append, List.append_nil]
    rfl

/-- For every build, every environment, every state of the library and every driver. -/
theorem verdict_of_test (h : (test env library profile).Runs events r) :
    Verdict profile env library events r := by
  obtain ⟨rest, rfl, hrest⟩ := runs_log_iff.1 h
  cases hconfig : Config.ofEnvironment env.text? profile with
  | error e =>
    rw [hconfig] at hrest
    obtain ⟨rfl, rfl⟩ := runs_pure_iff.1 hrest
    refine ⟨by simp [hconfig], ?_, by simp [hconfig], by simp, ?_, cleared_notes [_]⟩
    · rintro e' he
      cases hconfig.symm.trans he
      exact ⟨rfl, rfl⟩
    · exact drained_of_none (by simp [Event.overdue?])
  | ok config =>
    rw [hconfig] at hrest
    cases library with
    | error reason =>
      obtain ⟨hr, notes, rfl⟩ := runs_skip hrest
      exact verdict_of_skipped hconfig (by simp [Available]) hr (tornDown_notes (_ :: notes)).idle
        (cleared_notes (_ :: notes))
    | ok _ =>
      rcases runs_except_bind hrest with
        ⟨first, _, e, rfl, hestablish, hend⟩ | ⟨first, _, c, rfl, hestablish, hend⟩
      · obtain ⟨hr, notes, rfl⟩ := runs_skip hend
        exact verdict_of_unestablished hconfig hestablish hr
      · exact verdict_of_established hconfig hestablish hend

end Test

/-! ### A driver that is required and is too slow -/

/-- An environment in which there has to be a driver. -/
def demanding : Environment := [("VKCORE_REQUIRED", Text.Utf8.bytes "1")]

/-- A driver that needs too long for the third wait, and counts commands and waits. -/
def tiringDriver : Driver (Nat × Nat) where
  answer c s :=
    match c with
    | .waitFence .. => (if s.2 = 2 then .error .timeout else .ok (), s.1 + 1, s.2 + 1)
    | c => ((c.withLayers).getD (c.comply (.ofNat s.1)), s.1 + 1, s.2)

/-- The run of the test with this driver. -/
def tiredRun : Except String Unit × List Event × (Nat × Nat) :=
  (test demanding (.ok ())).runWith tiringDriver (1, 0)

theorem verdict_of_tired_run :
    Verdict .debug demanding (.ok ()) tiredRun.2.1 tiredRun.1 ∧
      tiredRun.1 = .error "vkWaitForFences timed out after 1000 ms" ∧
      submissions tiredRun.2.1 = 3 ∧ signals tiredRun.2.1 = 2 ∧
      (releases tiredRun.2.1).map Object.kind =
        [.fence, .buffer, .pool, .device, .messenger, .inst] := by
  have hrun : (test demanding (.ok ())).Runs tiredRun.2.1 tiredRun.1 := by
    unfold tiredRun
    exact Program.runs_runWith ..
  refine ⟨verdict_of_test hrun, ?_, ?_, ?_, ?_⟩ <;> decide +kernel

end Smoke

end VulkanExec
