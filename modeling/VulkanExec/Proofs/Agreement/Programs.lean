import VulkanExec.EntryPoint.Catalog
import VulkanExec.Error
import VulkanExec.Proofs.Monitor

/-!
# Programs that agree

Two programs agree when they put the same commands one after the other, as long as they get the
same answers, and end with related results. Neither of them asks about layers, and an answer that
only says where a function of the messenger is may differ.

Two drivers are alike when they can be told apart by such questions only. Programs that agree do
the same to drivers that are alike.

## Main definitions

- `Command.asksLayers`, `Command.asksMessenger`: the questions that only validation has;
- `Driver.Alike`: two drivers that answer alike to all but those, and stay so;
- `Program.Agree`: two programs that put the same commands and end with related results;
- `Program.SameRun`: related results, the same commands and related states of the drivers.

The main statement is `Program.Agree.runWith`.
-/

namespace VulkanExec

/-- Whether a command asks about layers. -/
def Command.asksLayers : Command → Bool
  | layers | layerExtensions _ => true
  | _ => false

/-- Whether a command asks for a function that only the messenger needs. -/
def Command.asksMessenger : Command → Bool
  | resolve _ name => decide (name ∈ EntryPoint.messengerNames)
  | _ => false

/-- A command that validation has no part in. -/
def Command.Steady (c : Command) : Prop := c.asksLayers = false ∧ c.asksMessenger = false

/-- Two drivers that give the same answers in related states, but for what they say about layers
and about the functions of the messenger. Whatever they are asked, but for layers, their states
stay related. -/
def Driver.Alike {σ₁ σ₂ : Type} (d₁ : Driver σ₁) (d₂ : Driver σ₂) (R : σ₁ → σ₂ → Prop) : Prop :=
  ∀ (c : Command) s₁ s₂, R s₁ s₂ → c.asksLayers = false →
    ((d₁.answer c s₁).1 = (d₂.answer c s₂).1 ∨ c.asksMessenger = true) ∧
      R (d₁.answer c s₁).2 (d₂.answer c s₂).2

/-- The same error, or related values. -/
inductive SameResult {α β : Type} (Q : α → β → Prop) : Except Error α → Except Error β → Prop where
  | error (e : Error) : SameResult Q (.error e) (.error e)
  | ok {a : α} {b : β} (h : Q a b) : SameResult Q (.ok a) (.ok b)

namespace Program

variable {α β γ δ σ₁ σ₂ : Type}

/-- Two programs that put the same commands and end with related results. What they note may
differ. -/
inductive Agree (Q : α → β → Prop) : Program α → Program β → Prop where
  | done {a : α} {b : β} (h : Q a b) : Agree Q (.done a) (.done b)
  | put {c : Command} {p : c.Answer → Program α} {q : c.Answer → Program β}
    (hlayers : c.asksLayers = false)
    (next : ∀ x y, x = y ∨ c.asksMessenger = true → Agree Q (p x) (q y)) :
    Agree Q (.put c p) (.put c q)
  | noteLeft {n : Note} {p : Program α} {q : Program β} (h : Agree Q p q) : Agree Q (.note n p) q
  | noteRight {n : Note} {p : Program α} {q : Program β} (h : Agree Q p q) : Agree Q p (.note n q)

/-- What two runs have in common: results, commands and states at the end. -/
structure SameRun (Q : α → β → Prop) (R : σ₁ → σ₂ → Prop) (x : α × List Event × σ₁)
    (y : β × List Event × σ₂) : Prop where
  result : Q x.1 y.1
  commands : Event.commands x.2.1 = Event.commands y.2.1
  state : R x.2.2 y.2.2

namespace Agree

variable {Q : α → β → Prop} {Q' : γ → δ → Prop} {p : Program α} {q : Program β}

theorem note {n m : Note} (h : Agree Q p q) : Agree Q (.note n p) (.note m q) :=
  .noteLeft (.noteRight h)

theorem bind {f : α → Program γ} {g : β → Program δ} (h : Agree Q p q)
    (hf : ∀ a b, Q a b → Agree Q' (f a) (g b)) : Agree Q' (p >>= f) (q >>= g) := by
  induction h with
  | done h => exact hf _ _ h
  | put hlayers _ ih => exact .put hlayers ih
  | noteLeft _ ih => exact .noteLeft ih
  | noteRight _ ih => exact .noteRight ih

/-- A program that validation has no part in agrees with itself. -/
theorem refl {p : Program α} (h : p.Only Command.Steady) : Agree Eq p p := by
  induction p with
  | done a => exact .done rfl
  | put c next ih =>
    refine .put h.1.1 fun x y hxy => ?_
    rcases hxy with rfl | hmessenger
    · exact ih x (h.2 x)
    · simp [h.1.2] at hmessenger
  | note n next ih => exact .note (ih h)

/-- Two programs agree that begin in the same way. -/
theorem sameBind {p : Program α} {f : α → Program γ} {g : α → Program δ}
    (h : p.Only Command.Steady) (hf : ∀ a, Agree Q' (f a) (g a)) : Agree Q' (p >>= f) (p >>= g) :=
  (refl h).bind fun a _ hab => hab ▸ hf a

/-- A command that validation has no part in gets the same answer. -/
theorem ask {c : Command} {f : c.Answer → Program γ} {g : c.Answer → Program δ}
    (hc : c.Steady) (hf : ∀ answer, Agree Q' (f answer) (g answer)) :
    Agree Q' (Program.ask c >>= f) (Program.ask c >>= g) :=
  sameBind (only_ask.2 hc) hf

/-- Programs that agree do the same to drivers that are alike. -/
theorem runWith {d₁ : Driver σ₁} {d₂ : Driver σ₂} {R : σ₁ → σ₂ → Prop} {s₁ : σ₁} {s₂ : σ₂}
    (h : Agree Q p q) (hd : d₁.Alike d₂ R) (hs : R s₁ s₂) :
    SameRun Q R (p.runWith d₁ s₁) (q.runWith d₂ s₂) := by
  induction h generalizing s₁ s₂ with
  | done h => exact ⟨h, rfl, hs⟩
  | @put c p q hlayers _ ih =>
    obtain ⟨hanswer, hstates⟩ := hd c s₁ s₂ hs hlayers
    obtain ⟨hresult, hcommands, hstate⟩ := ih _ _ hanswer hstates
    exact ⟨hresult, congrArg (c :: ·) hcommands, hstate⟩
  | noteLeft _ ih =>
    obtain ⟨hresult, hcommands, hstate⟩ := ih hs
    exact ⟨hresult, hcommands, hstate⟩
  | noteRight _ ih =>
    obtain ⟨hresult, hcommands, hstate⟩ := ih hs
    exact ⟨hresult, hcommands, hstate⟩

end Agree

end Program

end VulkanExec
