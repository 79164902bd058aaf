import VulkanExec.Program.Basic

/-!
# Monitors

A monitor reads the events of a run one by one. Its state says what is known so far, what may be
relied on of the next event, and what is owed there. A program meets a postcondition when every
run in which the driver does what is relied on is a run in which the program does what it owes.

## Main definitions

- `Monitor σ`: a state with a step, an expectation and a permission for every event;
- `Monitor.after`, `Monitor.Along`: the state after some events, and a condition on each of them;
- `Monitor.Meets`: the triple of a program, a state before it and a postcondition;
- `Program.Only`: every command that a program can put satisfies a condition.

The rules `meets_done`, `meets_ask`, `meets_log` and `Meets.bind` follow the programs, and
`along_iff` turns a condition on each event into one on every place of a list of events.
-/

namespace VulkanExec

/-- Bookkeeping over the events of a run. -/
structure Monitor (σ : Type) where
  step : σ → Event → σ
  /-- What is relied on of an event. -/
  expects : σ → Event → Prop
  /-- What is owed at an event. -/
  permits : σ → Event → Prop

namespace Monitor

variable {σ α β : Type} (m : Monitor σ)

/-- The state after some events. -/
def after (s : σ) (events : List Event) : σ := events.foldl m.step s

/-- A condition holds at every event, each in the state that the events before it lead to. -/
def Along (P : σ → Event → Prop) : σ → List Event → Prop
  | _, [] => True
  | s, e :: events => P s e ∧ Along P (m.step s e) events

@[simp] theorem after_nil (s : σ) : m.after s [] = s := rfl

@[simp] theorem after_cons (s : σ) (e : Event) (events : List Event) :
    m.after s (e :: events) = m.after (m.step s e) events := rfl

@[simp] theorem after_append (s : σ) (first second : List Event) :
    m.after s (first ++ second) = m.after (m.after s first) second :=
  List.foldl_append ..

variable {m} {P : σ → Event → Prop}

@[simp] theorem along_nil (s : σ) : m.Along P s [] := trivial

@[simp] theorem along_cons {s : σ} {e : Event} {events : List Event} :
    m.Along P s (e :: events) ↔ P s e ∧ m.Along P (m.step s e) events := Iff.rfl

@[simp] theorem along_append {s : σ} {first second : List Event} :
    m.Along P s (first ++ second) ↔ m.Along P s first ∧ m.Along P (m.after s first) second := by
  induction first generalizing s with
  | nil => simp
  | cons e first ih => simp [ih, and_assoc]

/-- A condition along a list of events is one on every place of the list. -/
theorem along_iff {s : σ} {events : List Event} :
    m.Along P s events ↔
      ∀ before e rest, events = before ++ e :: rest → P (m.after s before) e := by
  induction events generalizing s with
  | nil => simp
  | cons first events ih =>
    rw [along_cons, ih]
    constructor
    · rintro ⟨h, hs⟩ before e rest he
      cases before with
      | nil =>
        obtain ⟨rfl, rfl⟩ := List.cons.inj he
        exact h
      | cons _ before =>
        rw [List.cons_append, List.cons.injEq] at he
        obtain ⟨rfl, hrest⟩ := he
        exact hs before e rest hrest
    · intro h
      constructor
      · exact h [] first events rfl
      · intro before e rest he
        exact h (first :: before) e rest (by simp [he])

/-! ## Triples -/

variable (m) in
/-- In every run on which the driver does as expected, the program does what is permitted and
ends in the postcondition. -/
def Meets (p : Program α) (s : σ) (Q : α → σ → Prop) : Prop :=
  ∀ events a, p.Runs events a → m.Along m.expects s events →
    m.Along m.permits s events ∧ Q a (m.after s events)

variable {p : Program α} {s : σ} {Q : α → σ → Prop} {R : β → σ → Prop}

theorem meets_done {a : α} (h : Q a s) : m.Meets (.done a) s Q := by
  rintro events b hruns -
  obtain ⟨rfl, rfl⟩ := Program.runs_done_iff.1 hruns
  exact ⟨trivial, h⟩

theorem meets_put {c : Command} {next : c.Answer → Program α}
    (h : ∀ answer, m.expects s (.answered c answer) →
      m.permits s (.answered c answer) ∧ m.Meets (next answer) (m.step s (.answered c answer)) Q) :
    m.Meets (.put c next) s Q := by
  intro events a hruns hexpects
  obtain ⟨answer, rest, rfl, hrest⟩ := Program.runs_put_iff.1 hruns
  obtain ⟨hpermits, hnext⟩ := h answer hexpects.1
  exact ⟨⟨hpermits, (hnext rest a hrest hexpects.2).1⟩, (hnext rest a hrest hexpects.2).2⟩

theorem meets_note {n : Note} {next : Program α} (h : m.permits s (.noted n))
    (hnext : m.Meets next (m.step s (.noted n)) Q) : m.Meets (.note n next) s Q := by
  intro events a hruns hexpects
  obtain ⟨rest, rfl, hrest⟩ := Program.runs_note_iff.1 hruns
  obtain ⟨hpermits, hQ⟩ := hnext rest a hrest hexpects.2
  exact ⟨⟨h, hpermits⟩, hQ⟩

theorem Meets.bind {f : α → Program β} (h : m.Meets p s Q)
    (hf : ∀ a t, Q a t → m.Meets (f a) t R) : m.Meets (p >>= f) s R := by
  intro events b hruns hexpects
  obtain ⟨first, second, a, rfl, hp, hfa⟩ := Program.runs_bind_iff.1 hruns
  obtain ⟨hfirst, hsecond⟩ := along_append.1 hexpects
  obtain ⟨hpermits, hQ⟩ := h first a hp hfirst
  obtain ⟨hpermits', hR⟩ := hf a _ hQ second b hfa hsecond
  exact ⟨along_append.2 ⟨hpermits, hpermits'⟩, by simpa using hR⟩

theorem Meets.mono {Q' : α → σ → Prop} (h : m.Meets p s Q) (hQ : ∀ a t, Q a t → Q' a t) :
    m.Meets p s Q' := by
  intro events a hruns hexpects
  obtain ⟨hpermits, ha⟩ := h events a hruns hexpects
  exact ⟨hpermits, hQ _ _ ha⟩

/-- What is known of the result of every run may be added to a postcondition. -/
theorem Meets.with_result {S : α → Prop} (h : m.Meets p s Q)
    (hresult : ∀ events a, p.Runs events a → S a) : m.Meets p s fun a t => S a ∧ Q a t := by
  intro events a hruns hexpects
  obtain ⟨hpermits, ha⟩ := h events a hruns hexpects
  exact ⟨hpermits, hresult events a hruns, ha⟩

theorem meets_ask {c : Command} {f : c.Answer → Program β}
    (h : ∀ answer, m.expects s (.answered c answer) →
      m.permits s (.answered c answer) ∧ m.Meets (f answer) (m.step s (.answered c answer)) R) :
    m.Meets (.ask c >>= f) s R := meets_put h

theorem meets_log {level : LogLevel} {text : String} {f : Unit → Program β}
    (h : m.permits s (.noted (.log ⟨level, text⟩)))
    (hf : m.Meets (f ()) (m.step s (.noted (.log ⟨level, text⟩))) R) :
    m.Meets (.log level text >>= f) s R := meets_note h hf

/-! ## Histories -/

/-- The monitor that remembers every event, and owes what `P` says of an event after the ones
before it. Nothing is relied on. -/
def history (P : List Event → Event → Prop) : Monitor (List Event) where
  step past e := past ++ [e]
  expects _ _ := True
  permits := P

variable {P : List Event → Event → Prop}

@[simp] theorem history_step (past : List Event) (e : Event) :
    (history P).step past e = past ++ [e] := rfl

@[simp] theorem history_permits : (history P).permits = P := rfl

@[simp] theorem after_history (past events : List Event) :
    (history P).after past events = past ++ events := by
  induction events generalizing past with
  | nil => simp
  | cons e events ih => simp [ih]

/-- What a triple over histories says of a run. -/
theorem Meets.of_history {Q : α → List Event → Prop} {p : Program α} {events : List Event} {a : α}
    (h : (history P).Meets p [] Q) (hruns : p.Runs events a) :
    (∀ before e rest, events = before ++ e :: rest → P before e) ∧ Q a events := by
  obtain ⟨hP, hQ⟩ := h events a hruns (along_iff.2 fun _ _ _ _ => trivial)
  exact ⟨by simpa [along_iff] using hP, by simpa using hQ⟩

end Monitor

namespace Program

variable {α β : Type} {P : Command → Prop}

theorem runs_ask_iff {c : Command} {f : c.Answer → Program β} {events : List Event} {b : β} :
    Runs (ask c >>= f) events b ↔
      ∃ answer rest, events = .answered c answer :: rest ∧ Runs (f answer) rest b := runs_put_iff

theorem runs_log_iff {level : LogLevel} {text : String} {f : Unit → Program β}
    {events : List Event} {b : β} :
    Runs (log level text >>= f) events b ↔
      ∃ rest, events = .noted (.log ⟨level, text⟩) :: rest ∧ Runs (f ()) rest b := runs_note_iff

theorem runs_pure_iff {a b : α} {events : List Event} :
    Runs (pure a) events b ↔ events = [] ∧ b = a := runs_done_iff

/-- Programs that go on alike after every result do the same. -/
theorem bind_congr_of_runs {p : Program α} {f g : α → Program β}
    (h : ∀ events a, p.Runs events a → f a = g a) : p >>= f = p >>= g := by
  induction p with
  | done a => exact h [] a (.done a)
  | put c next ih =>
    rw [put_bind, put_bind]
    congr 1
    funext answer
    exact ih answer fun events a hruns => h _ a (.put hruns)
  | note n next ih =>
    rw [note_bind, note_bind, ih fun events a hruns => h _ a (.note hruns)]

/-! ## All commands of a program -/

/-- Every command that the program can put satisfies a condition. -/
def Only (P : Command → Prop) : Program α → Prop
  | done _ => True
  | put c next => P c ∧ ∀ answer, Only P (next answer)
  | note _ next => Only P next

@[simp] theorem only_done (a : α) : Only P (.done a : Program α) := trivial

@[simp] theorem only_put {c : Command} {next : c.Answer → Program α} :
    Only P (.put c next) ↔ P c ∧ ∀ answer, Only P (next answer) := Iff.rfl

@[simp] theorem only_note {n : Note} {next : Program α} :
    Only P (.note n next) ↔ Only P next := Iff.rfl

@[simp] theorem only_ask {c : Command} : Only P (.ask c) ↔ P c := by simp [ask]

@[simp] theorem only_log {level : LogLevel} {text : String} : Only P (.log level text) := trivial

theorem Only.bind {p : Program α} {f : α → Program β} (h : Only P p) (hf : ∀ a, Only P (f a)) :
    Only P (p >>= f) := by
  induction p with
  | done a => exact hf a
  | put c next ih => exact ⟨h.1, fun answer => ih answer (h.2 answer)⟩
  | note n next ih => exact ih h

/-- The commands in the runs of a program are commands that it can put. -/
theorem Only.of_mem {p : Program α} {events : List Event} {a : α} (h : Only P p)
    (hruns : p.Runs events a) {c : Command} {answer : c.Answer}
    (hc : .answered c answer ∈ events) : P c := by
  induction hruns with
  | done a => simp at hc
  | put rest ih =>
    rcases List.mem_cons.1 hc with heq | hc
    · cases heq
      exact h.1
    · exact ih (h.2 _) hc
  | note rest ih => exact ih h (by simpa using hc)

/-- What every command and every note keeps is kept by a program. -/
theorem Only.meets {σ : Type} {m : Monitor σ} {p : Program α} {s : σ} {I : σ → Prop}
    (h : Only P p) (hs : I s)
    (hcommand : ∀ t c answer, I t → P c →
      m.permits t (.answered c answer) ∧ I (m.step t (.answered c answer)))
    (hnote : ∀ t n, I t → m.permits t (.noted n) ∧ I (m.step t (.noted n))) :
    m.Meets p s fun _ t => I t := by
  induction p generalizing s with
  | done a => exact Monitor.meets_done hs
  | put c next ih =>
    apply Monitor.meets_put
    intro answer _
    obtain ⟨hpermits, hs⟩ := hcommand s c answer hs h.1
    exact ⟨hpermits, ih answer (h.2 answer) hs⟩
  | note n next ih =>
    obtain ⟨hpermits, hs⟩ := hnote s n hs
    exact Monitor.meets_note hpermits (ih h hs)

end Program

/-! ## Lists of events -/

@[simp] theorem Event.commands_append (first second : List Event) :
    commands (first ++ second) = commands first ++ commands second := List.filterMap_append

/-- An event is among the first events or among the later ones. -/
theorem append_eq_append_cons {past events before after : List Event} {e : Event}
    (h : past ++ events = before ++ e :: after) :
    (∃ rest, past = before ++ e :: rest ∧ after = rest ++ events) ∨
      ∃ first, before = past ++ first ∧ events = first ++ e :: after := by
  rcases List.append_eq_append_iff.1 h with ⟨first, rfl, rfl⟩ | ⟨rest, rfl, hrest⟩
  · exact .inr ⟨first, rfl, rfl⟩
  · cases rest with
    | nil => exact .inr ⟨[], by simp, hrest.symm⟩
    | cons x rest =>
      obtain ⟨rfl, rfl⟩ := List.cons.inj hrest
      exact .inl ⟨rest, rfl, rfl⟩

end VulkanExec
