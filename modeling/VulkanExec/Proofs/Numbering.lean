import VulkanExec.Config
import VulkanExec.Proofs.Ledger.Events

/-!
# Drivers that number what they create

A driver that counts the commands put to it and gives each new object its count as a handle. It
does what it is asked, but for the commands that it is told to refuse. It stands for the drivers
that the statements about runs are meant for.

## Main definitions

- `Command.comply`: the answer to a command that is done;
- `Command.refuse`: the answer to a command that is not, where a command can be refused;
- `Command.withLayers`: the answers that validation needs;
- `Driver.numbering`: the driver;
- `Driver.override`: a driver with other answers to some commands;
- `Numbered`: events whose new objects are numbered in order.

The main statement, `Numbered.fresh`: up to the number of handles, such a driver never gives out a
handle twice. Since it brings every program to its end, the commands that a program can put are
those in its runs (`Program.only_of_runs`).
-/

namespace VulkanExec

namespace Command

/-- The answer to a command that is done. A new object gets the handle `n`, and there is a single
physical device, which can do all kinds of work. -/
def comply (n : UInt64) : (c : Command) → c.Answer
  | resolve .. => some ⟨n⟩
  | layers | layerExtensions _ | deviceExtensions .. => Except.ok []
  | createInstance _ => Except.ok ⟨n⟩
  | createMessenger .. => Except.ok ⟨n⟩
  | physicalDevices _ => Except.ok [⟨n⟩]
  | features .. => Features.allOn
  | queueFamilies .. => [3]
  | properties .. => ⟨[], 0⟩
  | memoryLayout .. => ⟨0, .replicate _ 0⟩
  | createDevice .. => Except.ok ⟨n⟩
  | getQueue .. => ⟨n⟩
  | createPool .. => Except.ok ⟨n⟩
  | allocateBuffer .. => Except.ok ⟨n⟩
  | createFence .. => Except.ok ⟨n⟩
  | beginBuffer .. | endBuffer .. | resetBuffer .. | resetFence .. | waitFence .. | submit ..
  | waitIdle _ => Except.ok ()
  | wrapInstance _ | wrapDevice .. | destroyInstance _ | destroyMessenger .. | destroyDevice _
  | destroyPool .. | freeBuffer .. | destroyFence .. => ()

/-- The answer to a command that is not done. One that cannot be refused is done. -/
def refuse (n : UInt64) : (c : Command) → c.Answer
  | createInstance _ => Except.error .initializationFailed
  | createMessenger .. => Except.error .initializationFailed
  | createDevice .. => Except.error .initializationFailed
  | createPool .. => Except.error .initializationFailed
  | allocateBuffer .. => Except.error .initializationFailed
  | createFence .. => Except.error .initializationFailed
  | beginBuffer .. | endBuffer .. | resetBuffer .. | resetFence .. | waitFence .. | submit ..
  | waitIdle _ => Except.error .initializationFailed
  | c => c.comply n

/-- The layer that validation uses by default is there, with its extension. -/
def withLayers : (c : Command) → Option c.Answer
  | layers => some (.ok [validationLayer])
  | layerExtensions _ => some (.ok [messengerExtension])
  | _ => none

end Command

/-- The driver that counts its commands, gives each new object the count as its handle, and refuses
what `refuses` says. -/
def Driver.numbering (refuses : Command → Bool) : Driver Nat where
  answer c n := (if refuses c then c.refuse (.ofNat n) else c.comply (.ofNat n), n + 1)

/-- The driver with some answers of its own. -/
def Driver.override {σ : Type} (driver : Driver σ) (own : (c : Command) → Option c.Answer) :
    Driver σ where
  answer c s := ((own c).getD (driver.answer c s).1, (driver.answer c s).2)

/-- What every command in the runs of a program satisfies is satisfied by all commands that it can
put: a driver that does what it is asked brings every program to its end. -/
theorem Program.only_of_runs {α : Type} {P : Command → Prop} {p : Program α}
    (h : ∀ events a, p.Runs events a → ∀ c ∈ Event.commands events, P c) : p.Only P := by
  induction p with
  | done a => trivial
  | put c next ih =>
    constructor
    · have hrun := (next (c.comply 0)).runs_runWith (.numbering fun _ => false) 0
      exact h _ _ (.put hrun) c List.mem_cons_self
    · intro answer
      exact ih answer fun events a hrun c' hm => h _ a (.put hrun) c' (List.mem_cons_of_mem _ hm)
  | note n next ih => exact ih fun events a hrun c hm => h _ a (.note hrun) c hm

/-- New objects are numbered in order, from one number up to another. -/
inductive Numbered : Nat → List Event → Nat → Prop where
  | nil (n : Nat) : Numbered n [] n
  | cons {n k m : Nat} {e : Event} {events : List Event} (hle : n ≤ k)
      (hmade : ∀ entry, e.made = some entry → n < k ∧ entry.object.value = .ofNat n)
      (rest : Numbered k events m) : Numbered n (e :: events) m

section Numbered

variable {n m k : Nat} {events before rest : List Event}

theorem Command.value_of_made {c : Command} {refuses : Command → Bool} {entry : Entry}
    (h : c.made ((Driver.numbering refuses).answer c n).1 = some entry) :
    entry.object.value = .ofNat n := by
  simp only [Driver.numbering] at h
  split at h <;> cases c <;> cases h <;> rfl

/-- The events of any program's run are numbered. -/
theorem numbered_runWith {α : Type} (refuses : Command → Bool) (p : Program α) (n : Nat) :
    Numbered n (p.runWith (.numbering refuses) n).2.1 (p.runWith (.numbering refuses) n).2.2 := by
  induction p generalizing n with
  | done a => exact .nil n
  | put c next ih =>
    refine .cons (Nat.le_succ n) ?_ (ih _ _)
    intro entry hmade
    exact ⟨Nat.lt_succ_self n, Command.value_of_made hmade⟩
  | note note next ih => exact .cons le_rfl (by simp [Event.made]) (ih n)

theorem Numbered.append (h : Numbered n before k) (hrest : Numbered k rest m) :
    Numbered n (before ++ rest) m := by
  induction h with
  | nil n => exact hrest
  | cons hle hmade _ ih => exact .cons hle hmade (ih hrest)

theorem Numbered.split (h : Numbered n (before ++ rest) m) :
    ∃ k, Numbered n before k ∧ Numbered k rest m := by
  induction before generalizing n with
  | nil => exact ⟨n, .nil n, h⟩
  | cons e before ih =>
    cases h with
    | cons hle hmade h =>
      obtain ⟨k, hbefore, hrest⟩ := ih h
      exact ⟨k, .cons hle hmade hbefore, hrest⟩

theorem Numbered.le (h : Numbered n events m) : n ≤ m := by
  induction h with
  | nil n => exact le_rfl
  | cons hle _ _ ih => omega

/-- The numbers of new objects are between the two of the events. -/
theorem Numbered.value_of_mem (h : Numbered n events m) {e : Event} (he : e ∈ events)
    {entry : Entry} (hmade : e.made = some entry) :
    ∃ k, n ≤ k ∧ k < m ∧ entry.object.value = .ofNat k := by
  induction h with
  | nil n => simp at he
  | cons hle hhead hrest ih =>
    rcases List.mem_cons.1 he with rfl | he
    · obtain ⟨hlt, hvalue⟩ := hhead entry hmade
      have := hrest.le
      exact ⟨_, le_rfl, by omega, hvalue⟩
    · obtain ⟨k, hk, hkm, hvalue⟩ := ih he
      exact ⟨k, by omega, hkm, hvalue⟩

/-- Numbered objects are new as long as there are handles for the numbers. -/
theorem Numbered.fresh (h : Numbered n events m) (hn : 0 < n) (hm : m ≤ UInt64.size) :
    Fresh events := by
  rintro before e rest rfl entry hmade
  obtain ⟨k, hbefore, hrest⟩ := h.split
  cases hrest with
  | cons hle hhead hrest =>
    obtain ⟨hlt, hvalue⟩ := hhead entry hmade
    have hnk := hbefore.le
    have hkm := hrest.le
    have hnat (i : Nat) (hi : i < m) : (UInt64.ofNat i).toNat = i :=
      UInt64.toNat_ofNat_of_lt (hi.trans_le hm)
    have hk := hnat k (by omega)
    constructor
    · intro hnull
      rw [hvalue] at hnull
      have := congrArg UInt64.toNat hnull
      rw [hk] at this
      change k = 0 at this
      omega
    · intro x hx
      by_contra hcreates
      obtain ⟨other, hother, hsame⟩ := Event.creates_iff.1 (by simpa using hcreates)
      obtain ⟨j, -, hjk, hj⟩ := hbefore.value_of_mem hx hother
      have hjj := hnat j (by omega)
      rw [hsame, hvalue] at hj
      have := congrArg UInt64.toNat hj
      omega

end Numbered

end VulkanExec
