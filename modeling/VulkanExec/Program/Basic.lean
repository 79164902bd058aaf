import VulkanExec.Program.Command

/-!
# Programs over a driver

A program is a strategy for talking to a driver: it is done with a value, or it puts a command and
goes on with whatever the answer is, or it notes something on the way. A program says nothing
about the answers, so a statement about all of its runs is a statement about every driver.

## Main definitions

- `Note`: a log record, or that an owner lets go of a sink;
- `Program α`: a program that ends with an `α`;
- `Event`: a command with its answer, or a note;
- `Program.Runs`: the relation between a program, the events of one of its runs and the result;
- `Driver σ`: answers that depend on a state `σ` and change it;
- `Program.runWith`: the run of a program against a driver.

The main statement, `Program.runs_runWith`, says that running against a driver is one of the runs.
-/

namespace VulkanExec

/-- What a program notes on the way. -/
inductive Note where
  | log (r : LogRecord)
  /-- The owner of a sink lets go of it. -/
  | releaseSink (sink : SinkId)
  deriving DecidableEq, Repr

/-- A strategy for talking to a driver that ends with an `α`. -/
inductive Program (α : Type) : Type where
  | done (a : α)
  | put (c : Command) (next : c.Answer → Program α)
  | note (n : Note) (next : Program α)

namespace Program

variable {α β γ : Type}

/-- Go on with the value of a program. -/
protected def bind : Program α → (α → Program β) → Program β
  | done a, f => f a
  | put c next, f => put c fun answer => (next answer).bind f
  | note n next, f => note n (next.bind f)

instance : Monad Program where
  pure := done
  bind := Program.bind

@[simp] theorem pure_def (a : α) : (pure a : Program α) = done a := rfl

@[simp] theorem done_bind (a : α) (f : α → Program β) : (done a >>= f) = f a := rfl

@[simp] theorem put_bind (c : Command) (next : c.Answer → Program α) (f : α → Program β) :
    (put c next >>= f) = put c fun answer => next answer >>= f := rfl

@[simp] theorem note_bind (n : Note) (next : Program α) (f : α → Program β) :
    (note n next >>= f) = note n (next >>= f) := rfl

@[simp] theorem bind_done (p : Program α) : (p >>= done) = p := by
  induction p with
  | done a => rfl
  | put c next ih => simp only [put_bind, ih]
  | note n next ih => simp only [note_bind, ih]

theorem bind_assoc (p : Program α) (f : α → Program β) (g : β → Program γ) :
    (p >>= f) >>= g = p >>= fun a => f a >>= g := by
  induction p with
  | done a => rfl
  | put c next ih => simp only [put_bind, ih]
  | note n next ih => simp only [note_bind, ih]

instance : LawfulMonad Program :=
  LawfulMonad.mk' Program bind_done (fun _ _ => rfl) bind_assoc

/-- Put one command and end with its answer. -/
def ask (c : Command) : Program c.Answer := put c done

/-- Write a log record. -/
def log (level : LogLevel) (text : String) : Program Unit := note (.log ⟨level, text⟩) (done ())

/-- Let go of a sink. -/
def releaseSink (sink : SinkId) : Program Unit := note (.releaseSink sink) (done ())

@[simp] theorem ask_bind (c : Command) (f : c.Answer → Program β) :
    (ask c >>= f) = put c f := rfl

@[simp] theorem log_bind (level : LogLevel) (text : String) (f : Unit → Program β) :
    (log level text >>= f) = note (.log ⟨level, text⟩) (f ()) := rfl

@[simp] theorem releaseSink_bind (sink : SinkId) (f : Unit → Program β) :
    (releaseSink sink >>= f) = note (.releaseSink sink) (f ()) := rfl

end Program

/-! ## Runs -/

/-- What happens in a run: a command is answered, or something is noted. -/
inductive Event where
  | answered (c : Command) (answer : c.Answer)
  | noted (n : Note)

namespace Program

variable {α β σ : Type}

/-- The program can have this run: these events, in this order, and this result. -/
inductive Runs : Program α → List Event → α → Prop where
  | done (a : α) : Runs (.done a) [] a
  | put {c : Command} {next : c.Answer → Program α} {answer : c.Answer} {events : List Event}
      {a : α} (rest : Runs (next answer) events a) :
      Runs (.put c next) (.answered c answer :: events) a
  | note {n : Note} {next : Program α} {events : List Event} {a : α}
      (rest : Runs next events a) : Runs (.note n next) (.noted n :: events) a

@[simp] theorem runs_done_iff {a b : α} {events : List Event} :
    Runs (.done a) events b ↔ events = [] ∧ b = a := by
  constructor
  · intro h
    cases h
    exact ⟨rfl, rfl⟩
  · rintro ⟨rfl, rfl⟩
    exact .done b

@[simp] theorem runs_put_iff {c : Command} {next : c.Answer → Program α} {events : List Event}
    {a : α} : Runs (.put c next) events a ↔
      ∃ answer rest, events = .answered c answer :: rest ∧ Runs (next answer) rest a := by
  constructor
  · intro h
    cases h with
    | put rest => exact ⟨_, _, rfl, rest⟩
  · rintro ⟨answer, rest, rfl, h⟩
    exact .put h

@[simp] theorem runs_note_iff {n : Note} {next : Program α} {events : List Event} {a : α} :
    Runs (.note n next) events a ↔ ∃ rest, events = .noted n :: rest ∧ Runs next rest a := by
  constructor
  · intro h
    cases h with
    | note rest => exact ⟨_, rfl, rest⟩
  · rintro ⟨rest, rfl, h⟩
    exact .note h

/-- Runs of two programs, one after the other. -/
theorem Runs.bind {p : Program α} {f : α → Program β} {first second : List Event} {a : α}
    {b : β} (hp : Runs p first a) (hf : Runs (f a) second b) :
    Runs (p >>= f) (first ++ second) b := by
  induction hp with
  | done a => exact hf
  | put _ ih => exact .put (ih hf)
  | note _ ih => exact .note (ih hf)

/-- A run of two programs in a row consists of a run of each. -/
theorem runs_bind_iff {p : Program α} {f : α → Program β} {events : List Event} {b : β} :
    Runs (p >>= f) events b ↔
      ∃ first second a, events = first ++ second ∧ Runs p first a ∧ Runs (f a) second b := by
  constructor
  · intro h
    induction p generalizing events with
    | done a => exact ⟨[], events, a, rfl, .done a, h⟩
    | put c next ih =>
      cases h with
      | put rest =>
        obtain ⟨first, second, a, rfl, hp, hf⟩ := ih _ rest
        exact ⟨_ :: first, second, a, rfl, .put hp, hf⟩
    | note n next ih =>
      cases h with
      | note rest =>
        obtain ⟨first, second, a, rfl, hp, hf⟩ := ih rest
        exact ⟨_ :: first, second, a, rfl, .note hp, hf⟩
  · rintro ⟨first, second, a, rfl, hp, hf⟩
    exact hp.bind hf

end Program

/-! ## Drivers -/

/-- A driver whose answers depend on a state and change it. -/
structure Driver (σ : Type) where
  answer : (c : Command) → σ → c.Answer × σ

namespace Program

variable {α σ : Type}

/-- The result, the events and the last state of a program's run against a driver. -/
def runWith (driver : Driver σ) : Program α → σ → α × List Event × σ
  | done a, s => (a, [], s)
  | put c next, s =>
    let (answer, s) := driver.answer c s
    let (a, events, s) := (next answer).runWith driver s
    (a, .answered c answer :: events, s)
  | note n next, s =>
    let (a, events, s) := next.runWith driver s
    (a, .noted n :: events, s)

/-- Running against a driver is one of the runs of a program. -/
theorem runs_runWith (driver : Driver σ) (p : Program α) (s : σ) :
    Runs p (p.runWith driver s).2.1 (p.runWith driver s).1 := by
  induction p generalizing s with
  | done a => exact .done a
  | put c next ih => exact .put (ih _ _)
  | note n next ih => exact .note (ih s)

end Program

/-- The log records among events, in order. -/
def Event.records (events : List Event) : List LogRecord :=
  events.filterMap fun
    | .noted (.log r) => some r
    | _ => none

/-- The commands among events, in order. -/
def Event.commands (events : List Event) : List Command :=
  events.filterMap fun
    | .answered c _ => some c
    | .noted _ => none

end VulkanExec
