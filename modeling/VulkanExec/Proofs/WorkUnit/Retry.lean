import VulkanExec.Proofs.WorkUnit.Failure

/-!
# Waiting again

A wait that takes too long leaves a submission in flight, and the caller may wait again. However
often the time is over, and whatever is tried in between, the unit ends as after a single wait that
succeeds, and the driver sees one submission, with more waits.

## Main definitions

- `WorkUnit.Action.disturbs`, `WorkUnit.Action.rebuff`: what is no use while a submission is in
  flight, and its result then;
- `WorkUnit.retrying`, `WorkUnit.outcomes`: a submission with waits after it, and the results;
- `WorkUnit.Transparent`: what is said of a submission that is waited for again and again.

The main statement is `timeouts_are_transparent`.
-/

namespace VulkanExec.WorkUnit

/-- Whether an action begins a recording, ends it or submits it. -/
def Action.disturbs : Action → Bool
  | .record | .finish | .submit _ => true
  | .allocate | .await _ | .retire _ => false

/-- The result of an action that would disturb a submission in flight. -/
def Action.rebuff : Action → Except Error Unit
  | .record => .error (.cannotBegin .executable)
  | .finish => .error (.cannotEnd .executable)
  | _ => .error .submissionPending

/-- Other actions and then a wait, time after time. -/
def waitingAgain (retries : List (List Action × UInt32)) : List Action :=
  retries.flatMap fun (between, milliseconds) => between ++ [.await milliseconds]

/-- A submission that is waited for again and again, with other actions before each wait. -/
def retrying (milliseconds : UInt32) (retries : List (List Action × UInt32)) : List Action :=
  .submit milliseconds :: waitingAgain retries

/-- The results when every wait but the last is too long. -/
def outcomes (milliseconds : UInt32) : List (List Action × UInt32) → List (Except Error Unit)
  | [] => [.ok ()]
  | (between, next) :: retries =>
    .error (.submissionTimeout milliseconds) :: (between.map Action.rebuff ++ outcomes next retries)

/-- The answers to waits of which every one but the last is too long. -/
def patience (retries : Nat) : List (Reply Unit) :=
  .replicate retries (.error .timeout) ++ [.ok ()]

/-- Every command that was refused is a wait for a fence. -/
def OnlyWaitsRefused (events : List Event) : Prop :=
  ∀ refusal ∈ refusals events, refusal.1 matches .waitFence ..

/-- The unit whose submission was seen done. -/
def settled (u : WorkUnit) : WorkUnit := { u with state := .initial, inFlight := false }

section Retry

variable {u v w : WorkUnit} {first rest events : List Event} {r : Except Error Unit}
  {results : List (Except Error Unit)} {milliseconds : UInt32}
  {retries : List (List Action × UInt32)}

/-! ## Runs of many actions -/

theorem runs_run_cons {action : Action} {actions : List Action}
    (h : (u.run (action :: actions)).Runs events (results, v)) :
    ∃ first rest r others w, events = first ++ rest ∧ results = r :: others ∧
      (u.perform action).Runs first (r, w) ∧ (w.run actions).Runs rest (others, v) := by
  obtain ⟨first, _, ⟨r, w⟩, rfl, hfirst, hrest⟩ := Program.runs_bind_iff.1 h
  obtain ⟨rest, _, ⟨others, _⟩, rfl, hothers, hend⟩ := Program.runs_bind_iff.1 hrest
  obtain ⟨rfl, he⟩ := Program.runs_pure_iff.1 hend
  cases he
  exact ⟨first, rest, r, others, w, by simp, rfl, hfirst, hothers⟩

/-- Actions that would disturb a submission in flight fail and change nothing. -/
theorem eq_of_disturbs {action : Action} (halloc : u.isAllocated) (hstate : u.state = .executable)
    (hflight : u.inFlight) (hdisturbs : action.disturbs)
    (h : (u.perform action).Runs events (r, v)) :
    events = [] ∧ r = action.rebuff ∧ v = u := by
  rcases attempt_of_perform h with hattempt | ⟨_, rfl, _⟩
  · cases hattempt with
    | beginRefused | pending => exact ⟨rfl, rfl, rfl⟩
    | endRefused => exact ⟨rfl, by rw [hstate]; rfl, rfl⟩
    | unallocated _ hnone => simp [halloc] at hnone
    | _ => grind [Action.disturbs]
  · cases hdisturbs

theorem runs_between {between actions : List Action} (halloc : u.isAllocated)
    (hstate : u.state = .executable) (hflight : u.inFlight)
    (hdisturbs : ∀ action ∈ between, action.disturbs)
    (h : (u.run (between ++ actions)).Runs events (results, v)) :
    ∃ others, results = between.map Action.rebuff ++ others ∧
      (u.run actions).Runs events (others, v) := by
  induction between generalizing events results with
  | nil => exact ⟨results, rfl, h⟩
  | cons action between ih =>
    obtain ⟨_, rest, _, others, _, rfl, rfl, hfirst, hrest⟩ := runs_run_cons h
    obtain ⟨rfl, rfl, rfl⟩ := eq_of_disturbs halloc hstate hflight (hdisturbs action (by simp))
      hfirst
    obtain ⟨others, rfl, hothers⟩ := ih (fun a ha => hdisturbs a (by simp [ha])) hrest
    exact ⟨others, rfl, hothers⟩

/-! ## Waits -/

/-- The only command of a wait that is too long is that wait. -/
theorem Waited.of_timeout (h : Waited u milliseconds events r v)
    (hwaits : waits events = [.error .timeout]) :
    r = .error (.submissionTimeout milliseconds) ∧ v = u ∧
      Event.commands events = [.waitFence u.device.handle u.fence (nanoseconds milliseconds)] := by
  cases h with
  | timedOut => exact ⟨rfl, rfl, rfl⟩
  | waitFailed hcode => simp_all [waits]
  | resetFailed | settled => simp [waits] at hwaits

/-- After a wait that succeeds the buffer is reset. -/
theorem Waited.of_ok (h : Waited u milliseconds events r v) (hwaits : waits events = [.ok ()])
    (hrefused : OnlyWaitsRefused events) :
    r = .ok () ∧ v = u.settled ∧
      Event.commands events = [.waitFence u.device.handle u.fence (nanoseconds milliseconds),
        .resetBuffer u.device.handle u.buffer] := by
  cases h with
  | timedOut | waitFailed => simp [waits] at hwaits
  | resetFailed => exact absurd (hrefused _ (.head _)) (by simp)
  | settled => exact ⟨rfl, rfl, rfl⟩

/-- Every wait is answered once. -/
theorem Waited.waits_eq (h : Waited u milliseconds events r v) :
    ∃ reply, waits events = [reply] := by
  cases h <;> exact ⟨_, rfl⟩

@[simp] theorem waits_append : waits (first ++ rest) = waits first ++ waits rest :=
  List.filterMap_append

@[simp] theorem refusals_append : refusals (first ++ rest) = refusals first ++ refusals rest :=
  List.filterMap_append

theorem onlyWaitsRefused_append :
    OnlyWaitsRefused (first ++ rest) ↔ OnlyWaitsRefused first ∧ OnlyWaitsRefused rest := by
  simp only [OnlyWaitsRefused, refusals_append, List.mem_append, or_imp, forall_and]

/-- A wait and all those after it, of which the last succeeds. -/
theorem waited_again (halloc : u.isAllocated) (hstate : u.state = .executable)
    (hflight : u.inFlight) (hdisturbs : ∀ retry ∈ retries, ∀ action ∈ retry.1, action.disturbs)
    (hwait : Waited u milliseconds first r w)
    (hrun : (w.run (waitingAgain retries)).Runs rest (results, v))
    (hwaits : waits (first ++ rest) <+: patience retries.length)
    (hrefused : OnlyWaitsRefused (first ++ rest)) :
    v = u.settled ∧ r :: results = outcomes milliseconds retries ∧
      Event.commands (first ++ rest) =
        (milliseconds :: retries.map Prod.snd).map
            (fun t => .waitFence u.device.handle u.fence (nanoseconds t)) ++
          [.resetBuffer u.device.handle u.buffer] := by
  obtain ⟨reply, hreply⟩ := hwait.waits_eq
  rw [onlyWaitsRefused_append] at hrefused
  rw [waits_append, hreply, List.singleton_append] at hwaits
  induction retries generalizing milliseconds first r w rest results reply with
  | nil =>
    obtain rfl : reply = .ok () := (List.cons_prefix_cons.1 hwaits).1
    obtain ⟨rfl, rfl, hcommands⟩ := hwait.of_ok hreply hrefused.1
    obtain ⟨rfl, he⟩ := Program.runs_pure_iff.1 hrun
    cases he
    exact ⟨rfl, rfl, by simpa using hcommands⟩
  | cons retry retries ih =>
    obtain ⟨between, next⟩ := retry
    -- The wait was too long, so that the unit is still in flight.
    obtain ⟨rfl, hlater⟩ := List.cons_prefix_cons.1 hwaits
    obtain ⟨rfl, rfl, hcommands⟩ := hwait.of_timeout hreply
    rw [waitingAgain, List.flatMap_cons, List.append_assoc] at hrun
    obtain ⟨others, rfl, hothers⟩ :=
      runs_between halloc hstate hflight (hdisturbs _ (.head _)) hrun
    obtain ⟨second, third, r', later, w', rfl, rfl, hsecond, hthird⟩ := runs_run_cons hothers
    have hwait' : Waited w next second r' w' := by
      rcases attempt_of_perform hsecond with hattempt | ⟨_, haction, _⟩
      · cases hattempt with
        | awaited _ _ hwait' => exact hwait'
        | _ => simp_all
      · cases haction
    obtain ⟨reply', hreply'⟩ := hwait'.waits_eq
    rw [waits_append, hreply', List.singleton_append] at hlater
    obtain ⟨rfl, hresults, hasked⟩ := ih (fun x hx => hdisturbs x (.tail _ hx)) hwait' hthird
      (onlyWaitsRefused_append.1 hrefused.2) reply' hlater hreply'
    refine ⟨rfl, by rw [outcomes, hresults], ?_⟩
    rw [Event.commands_append, hcommands, hasked]
    rfl

/-! ## Submissions -/

/-- A number of milliseconds fits into the nanoseconds of a wait. -/
theorem toNat_nanoseconds (milliseconds : UInt32) :
    (nanoseconds milliseconds).toNat = milliseconds.toNat * 1000000 := by
  have hlt := milliseconds.toNat_lt
  rw [nanoseconds, UInt64.toNat_mul, UInt32.toNat_toUInt64]
  exact Nat.mod_eq_of_lt (by change milliseconds.toNat * 1000000 < 2 ^ 64; omega)

/-- A submission that nothing stands in the way of comes to its wait. -/
theorem submitted_of_submit (halloc : u.isAllocated) (hstate : u.state = .executable)
    (hflight : u.inFlight = false) (h : (u.submit milliseconds).Runs events (r, v))
    (hrefused : OnlyWaitsRefused events) :
    ∃ waiting, Waited { u with inFlight := true } milliseconds waiting r v ∧
      events = .answered (.resetFence u.device.handle u.fence) (.ok ()) ::
        .answered (.submit u.device.handle u.queue u.buffer u.fence) (.ok ()) :: waiting := by
  cases attempt_of_submit h with
  | submitted _ _ _ hwait => exact ⟨_, hwait, rfl⟩
  | fenceResetFailed => exact absurd (hrefused _ (.head _)) (by simp)
  | submitFailed => exact absurd (hrefused _ (.head _)) (by simp)
  | _ => simp_all

/-- What is said of a submission that is waited for again and again. -/
structure Transparent (u : WorkUnit) (milliseconds : UInt32)
    (retries : List (List Action × UInt32)) (events : List Event)
    (results : List (Except Error Unit)) (v : WorkUnit) : Prop where
  /-- The unit is initial with nothing in flight, and has the same handles. -/
  unit : v = { u with state := .initial, inFlight := false }
  /-- The waits that took too long say so, and what is tried in between fails. -/
  results : results = outcomes milliseconds retries
  /-- The fence and the buffer are reset once, and there is one submission. -/
  commands : Event.commands events =
    [.resetFence u.device.handle u.fence, .submit u.device.handle u.queue u.buffer u.fence] ++
      (milliseconds :: retries.map Prod.snd).map
        (fun t => .waitFence u.device.handle u.fence (nanoseconds t)) ++
      [.resetBuffer u.device.handle u.buffer]
  /-- A submission of which no command is refused ends with the same unit. -/
  single : ∀ t events' r w, (u.submit t).Runs events' (r, w) → refusals events' = [] →
    r = .ok () ∧ w = v

/-- When all waits but the last are too long and nothing else is refused, the unit ends as after a
single wait that succeeds. -/
theorem timeouts_are_transparent (halloc : u.isAllocated) (hstate : u.state = .executable)
    (hflight : u.inFlight = false)
    (hdisturbs : ∀ retry ∈ retries, ∀ action ∈ retry.1, action.disturbs)
    (h : (u.run (retrying milliseconds retries)).Runs events (results, v))
    (hwaits : waits events <+: patience retries.length) (hrefused : OnlyWaitsRefused events) :
    Transparent u milliseconds retries events results v ∧
      ∀ t : UInt32, (nanoseconds t).toNat = t.toNat * 1000000 := by
  refine ⟨?_, toNat_nanoseconds⟩
  obtain ⟨first, rest, r, others, w, rfl, rfl, hfirst, hrest⟩ := runs_run_cons h
  obtain ⟨waiting, hwait, rfl⟩ := submitted_of_submit halloc hstate hflight hfirst
    (onlyWaitsRefused_append.1 hrefused).1
  obtain ⟨hv, hresults, hcommands⟩ := waited_again (u := { u with inFlight := true }) halloc hstate
    rfl hdisturbs hwait hrest hwaits hrefused
  refine ⟨hv, hresults, ?_, ?_⟩
  · rw [List.append_assoc, ← hcommands]
    rfl
  · intro t events' r' w' hruns hnone
    obtain ⟨waiting', hwait', rfl⟩ := submitted_of_submit halloc hstate hflight hruns
      (by simp [OnlyWaitsRefused, hnone])
    cases hwait' with
    | settled => exact ⟨rfl, hv.symm⟩
    | timedOut | waitFailed | resetFailed => cases hnone

end Retry

/-! ### Two waits that are too long -/

/-- A driver that needs two waits, which it counts, before it is done with a submission. -/
def slowDriver : Driver (Nat × Nat) where
  answer c s :=
    match c with
    | .waitFence .. => (if s.2 < 2 then .error .timeout else .ok (), s.1 + 1, s.2 + 1)
    | c => (c.comply (.ofNat s.1), s.1 + 1, s.2)

/-- What is tried before each of the two more waits. -/
def twoRetries : List (List Action × UInt32) :=
  [([.record, .submit 7], 20), ([.finish], 4294967295)]

/-- The sample unit with a finished recording is submitted and waited for. -/
def slowRun : (List (Except Error Unit) × WorkUnit) × List Event × (Nat × Nat) :=
  (sampleFinished.run (retrying 10 twoRetries)).runWith slowDriver (8, 0)

theorem transparent_slow_run :
    Transparent sampleFinished 10 twoRetries slowRun.2.1 slowRun.1.1 slowRun.1.2 ∧
      submissions slowRun.2.1 = 1 ∧ (waits slowRun.2.1).length = 3 := by
  have hrun : (sampleFinished.run (retrying 10 twoRetries)).Runs slowRun.2.1 slowRun.1 :=
    Program.runs_runWith ..
  have hwaits : waits slowRun.2.1 = patience twoRetries.length := rfl
  have hrefused : OnlyWaitsRefused slowRun.2.1 := by
    have hrefusals : refusals slowRun.2.1 =
        [(.waitFence ⟨1⟩ ⟨5⟩ 10000000, .timeout), (.waitFence ⟨1⟩ ⟨5⟩ 20000000, .timeout)] := rfl
    simp [OnlyWaitsRefused, hrefusals]
  have htransparent := timeouts_are_transparent (by decide) (by decide) (by decide) (by decide) hrun
    (hwaits ▸ List.prefix_rfl) hrefused
  exact ⟨htransparent.1, by decide, by decide⟩

end VulkanExec.WorkUnit
