import VulkanExec.Proofs.Adoption.Frame

/-!
# Quiet programs

Most programs write to the log and do nothing else that is noted, and most commands create or
destroy neither an instance nor a messenger nor a device. What is left concerns the sinks of
validation messages.

## Main definitions

- `Program.Logs`: all that a program notes is for the log;
- `Event.Quiet`: a log record, or a command that spares instances, messengers and devices.

The main statement, `forall_quiet`, turns conditions on a program into one on its events. The
programs are the queries on the way to a context (`logs_resolveWith` and the like), the releases of
pools and units (`logs_retireUnit`), and the turns of a unit (`WorkUnit.Turn.quiet`).
-/

namespace VulkanExec

namespace Program

variable {α β : Type}

/-- All that a program notes is for the log. -/
def Logs : Program α → Prop
  | done _ => True
  | put _ next => ∀ answer, Logs (next answer)
  | note n next => (∃ r, n = .log r) ∧ Logs next

theorem Logs.bind {p : Program α} {f : α → Program β} (h : p.Logs) (hf : ∀ a, (f a).Logs) :
    (p >>= f).Logs := by
  induction p with
  | done a => exact hf a
  | put c next ih => exact fun answer => ih answer (h answer)
  | note n next ih => exact ⟨h.1, ih h.2⟩

theorem logs_ask {c : Command} : (ask c).Logs := fun _ => trivial

theorem logs_log {level : LogLevel} {text : String} : (log level text).Logs := ⟨⟨_, rfl⟩, trivial⟩

theorem Logs.of_mem {p : Program α} {events : List Event} {a : α} (h : p.Logs)
    (hruns : p.Runs events a) {n : Note} (hn : .noted n ∈ events) : ∃ r, n = .log r := by
  induction hruns with
  | done a => simp at hn
  | put rest ih => exact ih (h _) (by simpa using hn)
  | note rest ih =>
    rcases List.mem_cons.1 hn with heq | hn
    · cases heq
      exact h.1
    · exact ih h.2 hn

end Program

open Program

/-- A log record, or a command that creates and destroys no instance, messenger or device. -/
def Event.Quiet : Event → Prop
  | answered c _ => c.touchesHost = false
  | noted n => ∃ r, n = .log r

/-- A program that logs, and whose commands are quiet, has quiet runs. -/
theorem forall_quiet {α : Type} {p : Program α} {events : List Event} {a : α}
    (h : p.Only (Command.Spares fun _ => True)) (hlogs : p.Logs) (hruns : p.Runs events a) :
    ∀ e ∈ events, e.Quiet := by
  intro e he
  cases e with
  | answered c answer => exact (h.of_mem hruns he).1
  | noted n => exact hlogs.of_mem hruns he

/-! ## Queries -/

theorem logs_search {find : String → Program (Option Address)} (h : ∀ name, (find name).Logs)
    (entries : List EntryPoint) : (EntryTable.search find entries).Logs := by
  induction entries with
  | nil => trivial
  | cons entry entries ih =>
    apply (h entry.name).bind
    intro found
    split
    · exact logs_log.bind fun _ => ih.bind fun _ => trivial
    · exact ih.bind fun _ => trivial

theorem logs_resolveWith {table : EntryTable} {scope : EntryScope} {inst : InstanceHandle} :
    (table.resolveWith scope inst).Logs := by
  have hsearch : (EntryTable.search _ (EntryPoint.ofScope scope)).Logs :=
    logs_search (fun name => logs_ask (c := .resolve inst name)) _
  exact Logs.bind (hsearch.bind fun _ => trivial) fun _ => trivial

theorem logs_findDiagnosticExtension {extension : String} (layers : List String) :
    (findDiagnosticExtension extension layers).Logs := by
  induction layers with
  | nil => trivial
  | cons layer layers ih =>
    apply Logs.bind logs_ask
    intro answer
    cases answer with
    | error code => trivial
    | ok available =>
      dsimp only
      split
      · exact logs_log.bind fun _ => trivial
      · exact ih

theorem logs_checkSupport {config : Config} : (Instance.checkSupport config).Logs := by
  unfold Instance.checkSupport checkLayers checkDiagnosticExtension
  split
  · refine Logs.bind (Logs.bind logs_ask fun answer => ?_) fun checked => ?_
    · cases answer with
      | error code => trivial
      | ok available =>
        dsimp only
        split <;> trivial
    · cases checked with
      | error e => trivial
      | ok =>
        dsimp only
        split
        · trivial
        · exact logs_findDiagnosticExtension _
  · trivial

theorem logs_survey {inst : InstanceHandle} {handle : PhysicalDeviceHandle} :
    (Candidate.survey inst handle).Logs := by
  apply Logs.bind logs_ask
  intro answer
  cases answer with
  | error code => exact logs_log.bind fun _ _ _ => trivial
  | ok names => exact fun _ _ => trivial

theorem logs_select {α : Type} {survey : α → Program Candidate} (h : ∀ a, (survey a).Logs)
    {capabilities : List Capability} {extensions : List String} (sources : List α) :
    (Candidate.select survey capabilities extensions sources).Logs := by
  induction sources with
  | nil => trivial
  | cons source sources ih =>
    refine (h source).bind fun candidate => Logs.bind ?_ fun family => ?_
    · unfold Candidate.suitableFamily?
      split
      · trivial
      · exact logs_log.bind fun _ => trivial
    · cases family with
      | none => exact ih
      | some family => trivial

theorem logs_choose {inst : InstanceHandle} {capabilities : List Capability}
    {extensions : List String} : (Candidate.choose inst capabilities extensions).Logs := by
  apply Logs.bind logs_ask
  intro answer
  cases answer with
  | error code => trivial
  | ok handles =>
    refine logs_log.bind fun _ => (logs_select (fun _ => logs_survey) handles).bind ?_
    intro chosen
    cases chosen with
    | error e => trivial
    | ok choice => exact logs_log.bind fun _ => trivial

theorem logs_around {config : Config} {entries : EntryTable} {device : Device}
    {inst : InstanceHandle} {physical : PhysicalDeviceHandle} {queue : QueueHandle}
    {family : UInt32} : (Context.around config entries device inst physical queue family).Logs :=
  fun _ _ => trivial

theorem logs_adopt {host : HostHandles} {config : Config} {stamp : Nat} :
    (Context.adopt host config stamp).Logs := by
  refine Logs.bind (Logs.bind logs_resolveWith fun resolved => ?_) fun resolved => ?_
  · cases resolved with
    | error e => trivial
    | ok table => exact logs_resolveWith
  · cases resolved with
    | error e => trivial
    | ok entries =>
      dsimp only
      split
      · trivial
      · split
        · trivial
        · exact fun _ _ => logs_around.bind fun _ => logs_log.bind fun _ => trivial

/-! ## Pools and units -/

section Releases

variable {remaining : List Holder} {raw : RawPool} {p : WorkPool} {u v : WorkUnit}
  {events : List Event}

theorem logs_destroy : raw.destroy.Logs := fun _ => logs_log

theorem logs_release {units : Nat} : (p.release units).Logs := by
  unfold WorkPool.release
  split
  · trivial
  · split
    · exact logs_destroy.bind fun _ => trivial
    · exact logs_log.bind fun _ => trivial

theorem logs_bindTo {family : UInt32} {units stamp : Nat} :
    (p.bindTo family units stamp).Logs := by
  unfold WorkPool.bindTo
  split
  · trivial
  · refine logs_release.bind fun _ answer => ?_
    cases answer with
    | error code => trivial
    | ok handle => exact logs_log.bind fun _ => trivial

theorem logs_drain {d : DeviceHandle} : (Device.drain d).Logs := by
  intro answer
  cases answer with
  | error code => exact logs_log
  | ok => trivial

theorem logs_letGo {pool : Option RawPool} : (letGo remaining pool).Logs := by
  unfold letGo releasePool
  split
  · trivial
  · split
    · trivial
    · exact logs_destroy

theorem logs_retireUnit : (retireUnit remaining u).Logs := by
  rw [retireUnit_eq]
  refine Logs.bind ?_ fun _ => Logs.bind ?_ fun _ => Logs.bind ?_ fun _ =>
    logs_letGo.bind fun _ => trivial
  · unfold WorkUnit.settle
    split
    · exact logs_log.bind fun _ => logs_drain
    · trivial
  · unfold WorkUnit.dropFence
    split
    · trivial
    · exact fun _ => trivial
  · unfold WorkUnit.dropBuffer
    split
    · trivial
    · split
      · exact fun _ => trivial
      · trivial

theorem logs_tellOthers {c : Context} : (Holder.tellOthers remaining c).Logs := by
  unfold Holder.tellOthers
  dsimp only
  split
  · exact logs_log
  · trivial

theorem WorkUnit.Turn.quiet (h : u.Turn events v) : ∀ e ∈ events, e.Quiet := by
  cases h <;> simp [Event.Quiet, Command.touchesHost]

end Releases

end VulkanExec
