import VulkanExec.Proofs.Lifetime
import VulkanExec.Proofs.Resolution.Contexts

/-!
# Calls in sessions

In a session every holder is ready at any time: what may be called for it was found before. Each
operation keeps this, so whatever a session calls was found before, but for one release.

## Main definitions

- `AllReady`: all holders are ready, which `AllReady.invariant` says that everything keeps;
- `Session.Ready`: all holders of a session are ready.

The main statement, `Session.calls_follow_resolution`, is about any operations in any order, and
about the tables of all contexts. `Session.not_all_calls_resolved` shows the release that it spares.
-/

namespace VulkanExec

open Program

variable {past later events : List Event}

/-! ## Working on a holder -/

/-- An event at which nothing but functions for a device is called. -/
def Event.IsFor (d : DeviceHandle) : Event → Prop
  | answered c _ => c.device? = some d
  | noted _ => True

theorem Event.IsFor.callable {e : Event} {d : Device} (h : e.IsFor d.handle)
    (hd : d.Ready past) : e.Callable past := by
  cases e with
  | answered c answer => exact hd.callable h
  | noted n => trivial

namespace Holder.Ready

variable {p : WorkPool} {u v : WorkUnit}

theorem unpooled (h : (Holder.pool p).Ready past) :
    (Holder.pool { p with raw := none }).Ready past where
  device := h.device
  pool := nofun
  inst := nofun

theorem pooled {stamp : Nat} {handle : PoolHandle} {family : UInt32}
    (h : (Holder.pool p).Ready past) :
    (Holder.pool ⟨p.device, some ⟨stamp, p.device, handle⟩, family⟩).Ready past where
  device := h.device
  pool := by
    rintro _ ⟨⟩
    exact h.device _ rfl
  inst := nofun

/-- A work pool lets go of its raw pool. -/
theorem release (h : (Holder.pool p).Ready past) {units : Nat} :
    calls.Meets (p.release units) past fun q t => past ⊆ t ∧ (Holder.pool q).Ready t := by
  unfold WorkPool.release
  split
  next hnone => exact Monitor.meets_done ⟨fun _ he => he, h⟩
  next raw hraw =>
    have hgo : ∀ t, past ⊆ t → past ⊆ t ∧ (Holder.pool { p with raw := none }).Ready t :=
      fun t hle => ⟨hle, h.unpooled.mono hle⟩
    split
    · have hdestroy : raw.destroy.Only (Command.Callable past) :=
        ⟨(h.pool raw hraw).callable rfl, fun _ => trivial⟩
      exact (meets_of_only hdestroy).bind fun _ t hle => Monitor.meets_done (hgo t hle)
    · exact Monitor.meets_log trivial (Monitor.meets_done (hgo _ (by simp)))

/-- A work pool gets a raw pool of its own device. -/
theorem create (h : (Holder.pool p).Ready past) {family : UInt32} {stamp : Nat} :
    calls.Meets (p.create family stamp) past fun r t =>
      past ⊆ t ∧ (Holder.pool r.2).Ready t := by
  refine Monitor.meets_ask fun answer _ => ⟨(h.device _ rfl).callable rfl, ?_⟩
  cases answer with
  | error code => exact Monitor.meets_done ⟨by simp, h.mono (by simp)⟩
  | ok handle =>
    refine Monitor.meets_log trivial (Monitor.meets_done ⟨by simp, ?_⟩)
    exact h.pooled.mono (by simp)

theorem bindTo (h : (Holder.pool p).Ready past) {family : UInt32} {units stamp : Nat} :
    calls.Meets (p.bindTo family units stamp) past fun r t =>
      past ⊆ t ∧ (Holder.pool r.2).Ready t := by
  unfold WorkPool.bindTo
  split
  · exact Monitor.meets_done ⟨fun _ he => he, h⟩
  · apply h.release.bind
    rintro q t ⟨hle, hq⟩
    exact hq.create.mono fun r t' ⟨hle', hr⟩ => ⟨List.Subset.trans hle hle', hr⟩

/-- A unit may take the place of another one with the same device and no other pool. -/
theorem replace (h : (Holder.unit u).Ready past) (hdevice : v.device = u.device)
    (hpool : ∀ raw, v.pool = some raw → u.pool = some raw) : (Holder.unit v).Ready past where
  device := by
    rintro _ ⟨⟩
    rw [hdevice]
    exact h.device _ rfl
  pool raw hraw := h.pool raw (hpool raw hraw)
  inst := nofun

/-- All that a unit does in a turn is a call for its device. -/
theorem turn (h : (Holder.unit u).Ready past) (hturn : WorkUnit.Turn u events v) :
    AllCallable past events ∧ (Holder.unit v).Ready past := by
  have hdevice : ∀ e ∈ events, e.IsFor u.device.handle := by
    cases hturn <;> simp [Event.IsFor, Command.device?]
  constructor
  · exact allCallable_of_forall fun e he => (hdevice e he).callable (h.device _ rfl)
  · cases hturn <;> exact h.replace rfl fun _ hraw => hraw

end Holder.Ready

/-! ## Holders of nothing new -/

/-- A context is as ready as its device. -/
theorem ready_context {c : Context} (hc : c.device.Ready past) : (Holder.context c).Ready past where
  device := by
    rintro _ ⟨⟩
    exact hc
  pool := nofun
  inst := nofun

/-- A share is as ready as its device. -/
theorem ready_share {d : Device} (hd : d.Ready past) : (Holder.share d).Ready past where
  device := by
    rintro _ ⟨⟩
    exact hd
  pool := nofun
  inst := nofun

/-- A pool for which nothing was created yet is as ready as its device. -/
theorem ready_ofDevice {d : Device} (hd : d.Ready past) :
    (Holder.pool (.ofDevice d)).Ready past where
  device := by
    rintro _ ⟨⟩
    exact hd
  pool := nofun
  inst := nofun

/-- A unit for which nothing was allocated yet is as ready as its pool. -/
theorem ready_ofPool {p : WorkPool} {queue : QueueHandle} (hp : (Holder.pool p).Ready past) :
    (Holder.unit (.ofPool p queue)).Ready past := ⟨hp.device, hp.pool, nofun⟩

/-! ## All holders -/

/-- All holders are ready. -/
def AllReady (past : List Event) (hs : List Holder) : Prop := ∀ h ∈ hs, h.Ready past

namespace AllReady

variable {h x : Holder} {hs : List Holder} {α : Type} {p : Program α}

theorem mono (hready : AllReady past hs) (hle : past ⊆ later) : AllReady later hs :=
  fun h hm => (hready h hm).mono hle

theorem head (hready : AllReady past (h :: hs)) : h.Ready past := hready h List.mem_cons_self

theorem tail (hready : AllReady past (h :: hs)) : AllReady past hs :=
  fun x hx => hready x (List.mem_cons_of_mem h hx)

theorem cons (hready : AllReady past hs) (hh : h.Ready past) : AllReady past (h :: hs) :=
  List.forall_mem_cons.2 ⟨hh, hready⟩

theorem cons_iff (hx : x ∈ hs) (hh : ∀ {past}, x.Ready past → h.Ready past) :
    AllReady past (h :: hs) ↔ AllReady past hs :=
  ⟨tail, fun hready => hready.cons (hh (hready x hx))⟩

/-- The others stay ready while something is done that leaves the first holder ready. -/
theorem meets_cons {holder : α → Holder} (hready : AllReady past hs)
    (hp : calls.Meets p past fun r t => past ⊆ t ∧ (holder r).Ready t) :
    calls.Meets p past fun r t => AllReady t (holder r :: hs) :=
  hp.mono fun _ _ ⟨hle, hr⟩ => (hready.mono hle).cons hr

/-- All that a unit does in a turn leaves all holders ready. -/
theorem keptByTurns : WorkUnit.KeptByTurns calls fun u t => AllReady t (.unit u :: hs) := by
  rintro u events v past hturn hready -
  obtain ⟨hcallable, hv⟩ := hready.head.turn hturn
  rw [after_calls]
  exact ⟨hcallable, (hready.tail.mono (by simp)).cons (hv.mono (by simp))⟩

theorem retire {u : WorkUnit} (hready : AllReady past (.unit u :: hs)) :
    calls.Meets (retireUnit hs u) past fun v t => AllReady t (.unit v :: hs) := by
  apply hready.tail.meets_cons
  apply ((meets_of_only (hready.head.only_retire hs)).with_result fun _ _ => runs_retireUnit).mono
  rintro _ t ⟨rfl, hle⟩
  exact ⟨hle, (hready.head.mono hle).replace rfl nofun⟩

/-- A context that was made with callable functions, and whose device is ready, is a holder more. -/
theorem made {p : Program (Except Error Context)} (hready : AllReady past hs)
    (hp : ∀ events r, p.Runs events r →
      AllCallable past events ∧ ∀ c, r = .ok c → c.device.Ready (past ++ events)) :
    calls.Meets p past (Session.Added (fun hs t => AllReady t hs) .context hs) := by
  intro events r hruns _
  obtain ⟨hcallable, hdevice⟩ := hp events r hruns
  rw [after_calls]
  have hothers : AllReady (past ++ events) hs := hready.mono (by simp)
  refine ⟨hcallable, ?_⟩
  cases r with
  | error e => exact hothers
  | ok c => exact hothers.cons (ready_context (hdevice c rfl))

/-- All that can be done with a holder leaves all holders ready. -/
theorem invariant : Session.Invariant calls (fun _ => True) fun _ hs past => AllReady past hs where
  perm hready hperm h hm := hready h (hperm.mem_iff.2 hm)
  drop hready := (meets_of_only (hready.head.only_drop _)).mono fun _ _ hle => hready.tail.mono hle
  turns := keptByTurns
  retire hready := hready.retire
  release hready _ := hready.tail.meets_cons hready.head.release
  bindTo hready _ := hready.tail.meets_cons hready.head.bindTo
  share hready hx hd := hready.cons (ready_share ((hready _ hx).device _ hd))
  newPool hx hd := cons_iff hx fun hready => ready_ofDevice (hready.device _ hd)
  newUnit hp := cons_iff hp ready_ofPool
  establish hready := hready.made fun _ _ hruns => (Context.runs_establish hruns).callable
  adopt hready _ := hready.made fun _ _ hruns => (Context.runs_adopt hruns).callable

end AllReady

namespace Session

variable {s : Session}

/-- All holders of a session are ready. -/
def Ready (past : List Event) (s : Session) : Prop := AllReady past s.all

theorem ready_empty : empty.Ready past := fun _ hm => absurd hm List.not_mem_nil

/-- Any operations keep a session ready. -/
theorem Ready.run (hs : s.Ready past) {operations : List Operation} :
    calls.Meets (s.run operations) past fun r t => r.2.Ready t :=
  AllReady.invariant.run hs fun operation _ => operation.brings_all

/-! ## Calls and tables -/

/-- Whatever a session calls, the name of the function was found before in its scope; the release of
an instance is spared with which this very name was looked for in vain. The table of a context that
was established or adopted has every required name, and an optional one if and only if it was
found. -/
theorem calls_follow_resolution {operations : List Operation} {outcomes : List Outcome}
    (hrun : (empty.run operations).Runs events (outcomes, s)) :
    (∀ (past : List Event) (c : Command) (answer : c.Answer) (rest : List Event),
      events = past ++ .answered c answer :: rest → c.Callable past) ∧
    (∀ (config : Config) (sink : SinkId) (stamp : Nat) (made : List Event) (c : Context),
      (Context.establish config sink stamp).Runs made (.ok c) →
        c.entries.Complete made c.instanceHandle) ∧
    ∀ (host : HostHandles) (config : Config) (stamp : Nat) (made : List Event) (c : Context),
      (Context.adopt host config stamp).Runs made (.ok c) →
        c.entries.Complete made c.instanceHandle := by
  refine ⟨?_, ?_, ?_⟩
  · intro past c answer rest he
    obtain ⟨hcalls, -⟩ := ready_empty.run.of_history hrun
    exact hcalls past _ rest he
  · intro config sink stamp made c hmade
    exact (Context.runs_establish hmade).complete
  · intro host config stamp made c hmade
    exact (Context.runs_adopt hmade).complete

set_option maxRecDepth 4000 in
/-- In the sample session the name was found before the pool was created. -/
theorem pool_creation_resolved :
    ∃ inst, Resolved (sampleEvents.take 85) inst "vkCreateCommandPool" := by
  obtain ⟨hcalls, -⟩ := calls_follow_resolution (runs_played empty sampleOperations 1)
  have hcallable : (Command.createPool ⟨78⟩ 0 2).Callable (sampleEvents.take 85) :=
    hcalls _ _ (.ok ⟨82⟩) (sampleEvents.drop 86) rfl
  obtain ⟨⟨_, scope, _⟩, hentry, rfl, hfound | ⟨i, hi, -⟩⟩ := hcallable _ rfl
  · cases scope with
    | global => exact ⟨_, hfound⟩
    | perInstance =>
      obtain ⟨inst, -, hresolved⟩ := hfound
      exact ⟨inst, hresolved⟩
  · cases hi

/-- A driver that finds everything but the function that destroys an instance. -/
def unclosableDriver : Driver Nat :=
  (Driver.numbering fun _ => false).override fun
    | .resolve _ "vkDestroyInstance" => some none
    | _ => none

/-- An establishment with this driver. -/
def unclosableRun : (List Outcome × Session) × List Event × Nat :=
  (empty.run [.establish { Config.default with validation := false } 0 "c"]).runWith
    unclosableDriver 1

set_option maxRecDepth 1024 in
/-- When the function that destroys an instance is not found, the new instance is destroyed all the
same. -/
theorem not_all_calls_resolved :
    ¬ ∀ (operations : List Operation) (events : List Event) (outcomes : List Outcome) (s : Session),
      (empty.run operations).Runs events (outcomes, s) →
      ∀ (past : List Event) (c : Command) (answer : c.Answer) (rest : List Event),
        events = past ++ .answered c answer :: rest → ∀ name, c.function? = some name →
          ∃ entry ∈ EntryPoint.catalog, entry.name = name ∧ c.Found past entry := by
  intro hclaim
  have hruns : (empty.run [.establish { Config.default with validation := false } 0 "c"]).Runs
      unclosableRun.2.1 unclosableRun.1 := Program.runs_runWith unclosableDriver _ 1
  -- The 74 events before: the global names, the creation, and the names of the instance.
  obtain ⟨entry, hentry, hname, hfound⟩ := hclaim _ _ _ _ hruns (unclosableRun.2.1.take 74)
    (.destroyInstance ⟨4⟩) () (unclosableRun.2.1.drop 75) rfl "vkDestroyInstance" rfl
  have hscope : ∀ entry ∈ EntryPoint.catalog, entry.name = "vkDestroyInstance" →
      entry.scope = .perInstance := by
    decide +kernel
  rw [Command.Found, hscope entry hentry hname, hname] at hfound
  obtain ⟨i, -, address, haddress⟩ := hfound
  have hnone : ∀ f ∈ (Answers.of (unclosableRun.2.1.take 74)).functions,
      f.1.2 = "vkDestroyInstance" → f.2 = none := by
    decide +kernel
  cases hnone _ (Answers.mem_functions.2 haddress) rfl

end Session

end VulkanExec
