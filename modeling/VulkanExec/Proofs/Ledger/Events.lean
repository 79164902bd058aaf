import Mathlib.Data.List.Induction
import Mathlib.Data.Multiset.Count
import VulkanExec.Proofs.Ledger.Basic

/-!
# What ledgers say of events

A ledger is what the events so far have left. What is said in terms of live objects is said here
in terms of events: an object is live when it was created and has not been released.

## Main definitions

- `Event.creates`, `Event.releases`: what an event does to an object;
- `Fresh`: new handles are not null, and none was given out before.

The main statements: fresh events are what a ledger relies on (`Fresh.along`), and creations and
releases balance with what is live (`countP_creates_add`).
-/

namespace VulkanExec

/-- The event is the creation of an object. -/
def Event.creates (o : Object) (e : Event) : Bool := e.made.map Entry.object = some o

/-- The event is the release of an object. -/
def Event.releases (o : Object) : Event → Bool
  | answered c _ => c.released = some o
  | noted _ => false

/-- Every new object has a handle that is not null and was not given to one of its kind before. -/
def Fresh (events : List Event) : Prop :=
  ∀ before e rest, events = before ++ e :: rest → ∀ entry, e.made = some entry →
    entry.object.value ≠ 0 ∧ ∀ x ∈ before, x.creates entry.object = false

section Events

variable {host : Object → Prop} {l : Ledger} {events past : List Event} {e : Event} {entry : Entry}
  {o : Object}

theorem Event.creates_iff : e.creates o ↔ ∃ entry, e.made = some entry ∧ entry.object = o := by
  simp [creates]

theorem Event.creates_of_made (h : e.made = some entry) : e.creates entry.object :=
  creates_iff.2 ⟨entry, h, rfl⟩

/-! ## Entries -/

/-- What is live was live at first or has been created since. -/
theorem mem_live_or_made (h : entry ∈ ((ledger host).after l events).live) :
    entry ∈ l.live ∨ ∃ e ∈ events, e.made = some entry := by
  induction events generalizing l with
  | nil => exact .inl h
  | cons e events ih =>
    rcases ih h with hlive | ⟨x, hx, hmade⟩
    · cases e with
      | noted n => exact .inl hlive
      | answered c answer =>
        rw [ledger_step] at hlive
        rcases l.after_cases c answer with ⟨made, hmade, -, hafter⟩ | ⟨o, -, -, hafter⟩ |
          ⟨-, -, hafter⟩ <;> rw [hafter] at hlive
        · rcases Multiset.mem_cons.1 hlive with rfl | hlive
          · exact .inr ⟨_, List.mem_cons_self, hmade⟩
          · exact .inl hlive
        · exact .inl (Multiset.mem_filter.1 hlive).1
        · exact .inl hlive
    · exact .inr ⟨x, List.mem_cons_of_mem e hx, hmade⟩

/-- An event takes no entry out of the ledger but that of the object which it releases. -/
theorem mem_live_step (h : entry ∈ l.live) (hkept : e.releases entry.object = false) :
    entry ∈ ((ledger host).step l e).live := by
  cases e with
  | noted n => exact h
  | answered c answer =>
    rw [ledger_step]
    rcases l.after_cases c answer with ⟨made, -, -, hafter⟩ | ⟨o, -, hreleased, hafter⟩ |
      ⟨-, -, hafter⟩ <;> rw [hafter]
    · exact Multiset.mem_cons_of_mem h
    · refine Multiset.mem_filter.2 ⟨h, ?_⟩
      intro heq
      simp [Event.releases, hreleased, heq] at hkept
    · exact h

theorem mem_live_after (h : entry ∈ l.live)
    (hkept : ∀ e ∈ events, e.releases entry.object = false) :
    entry ∈ ((ledger host).after l events).live := by
  induction events generalizing l with
  | nil => exact h
  | cons e events ih =>
    apply ih (mem_live_step h (hkept e List.mem_cons_self))
    intro x hx
    exact hkept x (List.mem_cons_of_mem e hx)

/-- What was created and not released since is live. -/
theorem mem_live_of_made (he : e ∈ events) (hmade : e.made = some entry)
    (hkept : ∀ e ∈ events, e.releases entry.object = false) :
    entry ∈ ((ledger host).after l events).live := by
  obtain ⟨before, rest, rfl⟩ := List.append_of_mem he
  rw [Monitor.after_append, Monitor.after_cons]
  apply mem_live_after
  · cases e with
    | noted n => cases hmade
    | answered c answer =>
      have hmade : c.made answer = some entry := hmade
      simp [Ledger.after, hmade]
  · intro x hx
    exact hkept x (by simp [hx])

/-- A buffer is made by an allocation from its pool. -/
theorem eq_allocateBuffer_of_made (h : e.made = some entry) {b : BufferHandle}
    (hb : entry.object = b.object) : ∃ d p, e = .answered (.allocateBuffer d p) (.ok b) ∧
      entry.parents = [d.object, p.object] := by
  cases e with
  | noted n => cases h
  | answered c answer =>
    cases c with
    | allocateBuffer d p =>
      cases answer with
      | error code => cases h
      | ok b' =>
        obtain rfl := Option.some.inj h
        obtain rfl := Handle.object_inj.1 hb
        exact ⟨d, p, rfl, rfl⟩
    | createInstance | createMessenger | createDevice | createPool | createFence =>
      cases answer with
      | error code => cases h
      | ok other =>
        obtain rfl := Option.some.inj h
        cases congrArg Object.kind hb
    | _ => cases h

/-! ## Fresh handles -/

/-- Fresh handles are what a ledger relies on. -/
theorem Fresh.along (h : Fresh (past ++ events))
    (hpast : ∀ entry ∈ l.live, ∃ x ∈ past, x.creates entry.object) :
    (ledger host).Along (ledger host).expects l events := by
  rw [Monitor.along_iff]
  rintro before e rest rfl entry hmade
  obtain ⟨hnull, hnew⟩ := h (past ++ before) e rest (by simp) entry hmade
  refine ⟨hnull, ?_⟩
  intro hm
  obtain ⟨other, hother, hsame⟩ := mem_objects.1 hm
  rcases mem_live_or_made hother with hlive | ⟨x, hx, hxmade⟩
  · obtain ⟨x, hx, hcreates⟩ := hpast other hlive
    have := hnew x (by simp [hx])
    rw [← hsame, hcreates] at this
    contradiction
  · have := hnew x (by simp [hx])
    rw [← hsame, Event.creates_of_made hxmade] at this
    contradiction

theorem Fresh.along_start (h : Fresh events) :
    (ledger host).Along (ledger host).expects (.start 0) events := by
  have hnil : Fresh ([] ++ events) := h
  exact hnil.along (by simp [Ledger.start])

theorem Fresh.left (h : Fresh (past ++ events)) : Fresh past := by
  intro before e rest he
  exact h before e (rest ++ events) (by simp [he])

/-- What was created is not created again. -/
theorem Fresh.not_created_again (h : Fresh (past ++ events)) {x : Event} (hx : x ∈ past)
    (hcreates : x.creates o) (he : e ∈ events) : e.creates o = false := by
  obtain ⟨before, rest, rfl⟩ := List.append_of_mem he
  by_contra hagain
  obtain ⟨entry, hmade, rfl⟩ := Event.creates_iff.1 (by simpa using hagain)
  have hnew := (h (past ++ before) e rest (by simp) entry hmade).2 x (by simp [hx])
  rw [hcreates] at hnew
  contradiction

/-- Nothing is created twice. -/
theorem Fresh.countP_creates_le (h : Fresh events) (o : Object) :
    events.countP (·.creates o) ≤ 1 := by
  induction events using List.reverseRecOn with
  | nil => simp
  | append_singleton events e ih =>
    rw [List.countP_append]
    cases hcreates : e.creates o with
    | false => simpa [hcreates] using ih h.left
    | true =>
      obtain ⟨entry, hmade, rfl⟩ := Event.creates_iff.1 hcreates
      have hnone : events.countP (·.creates entry.object) = 0 := by
        rw [List.countP_eq_zero]
        simpa using (h events e [] rfl entry hmade).2
      simp [hnone, hcreates]

/-! ## Balance -/

/-- Taking away an object that is there once takes it from the count. -/
theorem count_eq_add_count_filter {live : Multiset Object} (hnodup : live.Nodup) {o' : Object}
    (ho' : o' ∈ live) (o : Object) :
    live.count o = (decide (o' = o)).toNat + (live.filter (· ≠ o')).count o := by
  by_cases ho : o' = o
  · have honce : live.count o = 1 := Multiset.count_eq_one_of_mem hnodup (ho ▸ ho')
    simp [ho, honce]
  · have hkept : (live.filter (· ≠ o')).count o = live.count o :=
      Multiset.count_filter_of_pos (Ne.symm ho)
    simp [ho, hkept]

/-- One event keeps the balance of creations, releases and live objects. -/
theorem balance_step (hnodup : (objects l.live).Nodup) (hexpects : (ledger host).expects l e)
    (hpermits : (ledger host).permits l e) (o : Object) :
    (e.creates o).toNat + (objects l.live).count o =
        (e.releases o).toNat + (objects ((ledger host).step l e).live).count o ∧
      (objects ((ledger host).step l e).live).Nodup := by
  cases e with
  | noted n => exact ⟨rfl, hnodup⟩
  | answered c answer =>
    rw [ledger_step]
    rcases l.after_cases c answer with ⟨entry, hmade, hreleased, hafter⟩ |
      ⟨o', hmade, hreleased, hafter⟩ | ⟨hmade, hreleased, hafter⟩ <;>
      simp only [Event.creates, Event.made, Event.releases, hmade, hreleased, hafter]
    · refine ⟨?_, nodup_objects_cons (hexpects entry hmade).2 hnodup⟩
      by_cases ho : entry.object = o
      · simp [ho, Nat.add_comm]
      · simp [ho, Ne.symm ho]
    · obtain ⟨entry, hentry, hobject, -⟩ := hpermits.released o' hreleased
      have hcount := count_eq_add_count_filter hnodup (hobject ▸ mem_objects_of_mem hentry) o
      rw [objects_filter_ne]
      exact ⟨by simpa using hcount, hnodup.filter _⟩
    · exact ⟨by simp, hnodup⟩

/-- Creations and what was live before balance with releases and what is live after. -/
theorem countP_creates_add (hnodup : (objects l.live).Nodup)
    (hexpects : (ledger host).Along (ledger host).expects l events)
    (hpermits : (ledger host).Along (ledger host).permits l events) (o : Object) :
    events.countP (·.creates o) + (objects l.live).count o =
      events.countP (·.releases o) + (objects ((ledger host).after l events).live).count o := by
  induction events generalizing l with
  | nil => simp
  | cons e events ih =>
    obtain ⟨hstep, hnodup'⟩ := balance_step hnodup hexpects.1 hpermits.1 o
    have hrest := ih hnodup' hexpects.2 hpermits.2
    have hcons (p : Event → Bool) : (e :: events).countP p = (p e).toNat + events.countP p := by
      rw [List.countP_cons, Nat.add_comm]
      cases p e <;> rfl
    rw [Monitor.after_cons, hcons, hcons]
    omega

/-- What is live after fresh events was created, and has not been released. -/
theorem Fresh.created_of_live (h : Fresh events)
    (hpermits : (ledger host).Along (ledger host).permits (.start 0) events)
    (ho : o ∈ objects ((ledger host).after (.start 0) events).live) :
    (∃ e ∈ events, e.creates o) ∧ ∀ e ∈ events, e.releases o = false := by
  have hexpects : (ledger host).Along (ledger host).expects (.start 0) events :=
    h.along_start
  have hbalance := countP_creates_add (by simp [Ledger.start]) hexpects hpermits o
  have hnone : (objects (Ledger.start 0).live).count o = 0 := rfl
  have hlive := Multiset.one_le_count_iff_mem.2 ho
  have hle := h.countP_creates_le o
  constructor
  · have hpos : 0 < events.countP (·.creates o) := by omega
    exact List.countP_pos_iff.1 hpos
  · have hreleases : events.countP (·.releases o) = 0 := by omega
    simpa using List.countP_eq_zero.1 hreleases

/-- When nothing is live any more, all that was created has been released exactly once, and nothing
else has been. -/
theorem Fresh.countP_releases (h : Fresh events)
    (hpermits : (ledger host).Along (ledger host).permits (.start 0) events)
    (hnone : ((ledger host).after (.start 0) events).live = 0) (o : Object) :
    events.countP (·.releases o) = if events.any (·.creates o) then 1 else 0 := by
  have hexpects : (ledger host).Along (ledger host).expects (.start 0) events :=
    h.along_start
  have hbalance := countP_creates_add (by simp [Ledger.start]) hexpects hpermits o
  have hstart : (objects (Ledger.start 0).live).count o = 0 := rfl
  rw [hnone, hstart, objects_zero, Multiset.count_zero] at hbalance
  have hle := h.countP_creates_le o
  split
  case isTrue hany =>
    have hpos := List.countP_pos_iff.2 (List.any_eq_true.1 hany)
    omega
  case isFalse hany =>
    have hzero : events.countP (·.creates o) = 0 := by
      rw [List.countP_eq_zero]
      simpa using hany
    omega

/-! ## Idle devices -/

/-- A device that was seen with nothing to do was waited for, or was new. -/
theorem waited_or_created {d : DeviceHandle} (h : d ∈ ((ledger host).after l events).idle) :
    d ∈ l.idle ∨ (∃ answer, .answered (.waitIdle d) answer ∈ events) ∨
      ∃ e ∈ events, e.creates d.object := by
  induction events generalizing l with
  | nil => exact .inl h
  | cons e events ih =>
    rcases ih h with hidle | ⟨answer, hm⟩ | ⟨x, hx, hcreates⟩
    · cases e with
      | noted n => exact .inl hidle
      | answered c answer =>
        rcases List.mem_append.1 hidle with hidled | hidle
        · refine .inr ?_
          have hidled : c.idled answer = some d := by simpa using hidled
          cases c with
          | waitIdle d' =>
            obtain rfl : d' = d := by simpa [Command.idled] using hidled
            exact .inl ⟨answer, List.mem_cons_self⟩
          | createDevice i physical request =>
            cases answer with
            | error code => simp [Command.idled] at hidled
            | ok d' =>
              obtain rfl : d' = d := by simpa [Command.idled] using hidled
              exact .inr ⟨_, List.mem_cons_self, Event.creates_iff.2 ⟨_, rfl, rfl⟩⟩
          | _ => simp [Command.idled] at hidled
        · exact .inl hidle
    · exact .inr (.inl ⟨answer, List.mem_cons_of_mem e hm⟩)
    · exact .inr (.inr ⟨x, List.mem_cons_of_mem e hx, hcreates⟩)

end Events

end VulkanExec
