import Mathlib.Data.List.Induction
import Mathlib.Data.Nat.Digits.Defs
import VulkanExec.Text.Decimal

/-!
# Numbers in a text

A text holds a number of 32 bits exactly when it is an optional plus sign and a row of ASCII digits
whose decimal value fits. In any other text there is a place from the left where reading cannot go
on, and what stands there is the fault.

## Main definitions

- `Decimal.value`: the decimal value of a row of digits;
- `Decimal.Numeral`: an optional sign and digits, with their value;
- `Decimal.Stuck`, `Decimal.Faulty`: where reading cannot go on, and why.

The main statements are `read_eq_ok_iff` and `read_eq_error_iff`.
-/

namespace VulkanExec.Text.Decimal

/-- The decimal value of a row of digits. -/
def value (digits : List Char) : Nat := Nat.ofDigits 10 (digits.reverse.map (·.toNat - 48))

/-- An optional plus sign and at least one digit, with the value of the digits. -/
inductive Numeral : List Char → Nat → Prop where
  | plain {digits : List Char} (hne : digits ≠ []) (hdigits : ∀ d ∈ digits, d.isDigit = true) :
      Numeral digits (value digits)
  | signed {digits : List Char} (hne : digits ≠ []) (hdigits : ∀ d ∈ digits, d.isDigit = true) :
      Numeral ('+' :: digits) (value digits)

/-- The digits in front have a value that fits, and the character after them is no digit or one
with which the value does not fit any more. -/
inductive Stuck : List Char → Fault → Prop where
  | noDigit {before after : List Char} {c : Char} (hbefore : ∀ d ∈ before, d.isDigit = true)
      (hfits : value before < 2 ^ 32) (hc : c.isDigit = false) :
      Stuck (before ++ c :: after) .invalidDigit
  | overflow {before after : List Char} {c : Char} (hbefore : ∀ d ∈ before, d.isDigit = true)
      (hfits : value before < 2 ^ 32) (hc : c.isDigit = true)
      (hlarge : 2 ^ 32 ≤ value (before ++ [c])) :
      Stuck (before ++ c :: after) .tooLarge

/-- No number is there, or a sign alone, or after the sign, if any, reading cannot go on. -/
inductive Faulty : List Char → Fault → Prop where
  | empty : Faulty [] .empty
  | sign : Faulty ['+'] .invalidDigit
  | signed {cs : List Char} {fault : Fault} (h : Stuck cs fault) : Faulty ('+' :: cs) fault
  | plain {cs : List Char} {fault : Fault} (hsign : cs.head? ≠ some '+') (h : Stuck cs fault) :
      Faulty cs fault

variable {digits cs : List Char} {c : Char} {n : Nat} {fault : Fault} {s : String}

/-! ## Values -/

theorem value_concat (digits : List Char) (d : Char) :
    value (digits ++ [d]) = value digits * 10 + (d.toNat - 48) := by
  rw [value, List.reverse_concat, List.map_cons, Nat.ofDigits_cons, value]
  omega

theorem value_le_append (digits more : List Char) : value digits ≤ value (digits ++ more) := by
  induction more using List.reverseRecOn with
  | nil => simp
  | append_singleton more d ih =>
    rw [← List.append_assoc, value_concat]
    omega

theorem digit?_of_isDigit (h : c.isDigit = true) : digit? c = some (c.toNat - 48) := by
  rw [Char.isDigit_iff_toNat] at h
  exact if_pos h

theorem digit?_of_not_isDigit (h : c.isDigit = false) : digit? c = none := by
  refine if_neg fun hc => ?_
  have hdigit : c.isDigit = true := Char.isDigit_iff_toNat.2 hc
  rw [h] at hdigit
  cases hdigit

/-! ## The scan -/

theorem scan_cons (acc : Nat) (c : Char) (cs : List Char) :
    scan acc (c :: cs) = match digit? c with
      | none => .error .invalidDigit
      | some d => if acc * 10 + d < 2 ^ 32 then scan (acc * 10 + d) cs else .error .tooLarge :=
  rfl

/-- Digits are read as long as their value fits. -/
theorem scan_append (before rest : List Char) (hdigits : ∀ d ∈ digits, d.isDigit = true)
    (hfits : value (before ++ digits) < 2 ^ 32) :
    scan (value before) (digits ++ rest) = scan (value (before ++ digits)) rest := by
  induction digits generalizing before with
  | nil => simp
  | cons d digits ih =>
    obtain ⟨hd, hdigits⟩ := List.forall_mem_cons.1 hdigits
    rw [List.append_cons] at hfits ⊢
    have hnext : value before * 10 + (d.toNat - 48) = value (before ++ [d]) :=
      (value_concat before d).symm
    have hone : value (before ++ [d]) < 2 ^ 32 := (value_le_append _ _).trans_lt hfits
    rw [List.cons_append, scan_cons, digit?_of_isDigit hd]
    simp only [hnext, if_pos hone]
    exact ih _ hdigits hfits

theorem scan_of_digits (hdigits : ∀ d ∈ digits, d.isDigit = true) (hfits : value digits < 2 ^ 32) :
    scan 0 digits = .ok (value digits) := by
  have happend := scan_append [] [] hdigits hfits
  rw [List.append_nil] at happend
  exact happend

theorem scan_of_stuck (h : Stuck cs fault) : scan 0 cs = .error fault := by
  cases h with
  | noDigit hbefore hfits hc =>
    refine (scan_append [] _ hbefore hfits).trans ?_
    rw [scan_cons, digit?_of_not_isDigit hc]
  | overflow hbefore hfits hc hlarge =>
    refine (scan_append [] _ hbefore hfits).trans ?_
    rw [value_concat] at hlarge
    rw [List.nil_append, scan_cons, digit?_of_isDigit hc]
    exact if_neg (Nat.not_lt.2 hlarge)

/-- What comes after the place makes no difference. -/
theorem Stuck.append (h : Stuck cs fault) (more : List Char) : Stuck (cs ++ more) fault := by
  cases h with
  | noDigit hbefore hfits hc =>
    rw [List.append_assoc, List.cons_append]
    exact .noDigit hbefore hfits hc
  | overflow hbefore hfits hc hlarge =>
    rw [List.append_assoc, List.cons_append]
    exact .overflow hbefore hfits hc hlarge

theorem Stuck.ne_nil (h : Stuck cs fault) : cs ≠ [] := by
  cases h with
  | noDigit | overflow => simp

/-- Reading gets to the end of digits whose value fits, or stops before. -/
theorem digits_or_stuck (cs : List Char) :
    ((∀ d ∈ cs, d.isDigit = true) ∧ value cs < 2 ^ 32) ∨ ∃ fault, Stuck cs fault := by
  induction cs using List.reverseRecOn with
  | nil => exact .inl ⟨nofun, by decide⟩
  | append_singleton cs c ih =>
    rcases ih with ⟨hdigits, hfits⟩ | ⟨fault, hstuck⟩
    · by_cases hc : c.isDigit = true
      · by_cases hlarge : value (cs ++ [c]) < 2 ^ 32
        · refine .inl ⟨fun d hd => ?_, hlarge⟩
          rcases List.mem_append.1 hd with hd | hd
          · exact hdigits d hd
          · rwa [List.mem_singleton.1 hd]
        · exact .inr ⟨_, .overflow hdigits hfits hc (Nat.not_lt.1 hlarge)⟩
      · exact .inr ⟨_, .noDigit hdigits hfits (Bool.eq_false_iff.2 hc)⟩
    · exact .inr ⟨fault, hstuck.append [c]⟩

/-! ## The sign -/

theorem readChars_signed (hne : cs ≠ []) : readChars ('+' :: cs) = scan 0 cs := by
  cases cs with
  | nil => contradiction
  | cons c cs => rfl

theorem readChars_plain (hne : cs ≠ []) (hsign : cs.head? ≠ some '+') :
    readChars cs = scan 0 cs := by
  unfold readChars
  split
  · contradiction
  · simp at hsign
  · simp at hsign
  · rfl

theorem readChars_of_numeral (h : Numeral cs n) (hfits : n < 2 ^ 32) : readChars cs = .ok n := by
  cases h with
  | plain hne hdigits =>
    have hsign : cs.head? ≠ some '+' := by
      intro hplus
      have hdigit := hdigits '+' (List.mem_of_head? hplus)
      revert hdigit
      decide
    rw [readChars_plain hne hsign]
    exact scan_of_digits hdigits hfits
  | signed hne hdigits =>
    rw [readChars_signed hne]
    exact scan_of_digits hdigits hfits

theorem readChars_of_faulty (h : Faulty cs fault) : readChars cs = .error fault := by
  cases h with
  | empty => rfl
  | sign => rfl
  | signed hstuck =>
    rw [readChars_signed hstuck.ne_nil]
    exact scan_of_stuck hstuck
  | plain hsign hstuck =>
    rw [readChars_plain hstuck.ne_nil hsign]
    exact scan_of_stuck hstuck

/-- A text is a numeral that fits, or there is a fault in it. -/
theorem numeral_or_faulty (cs : List Char) :
    (∃ n, n < 2 ^ 32 ∧ Numeral cs n) ∨ ∃ fault, Faulty cs fault := by
  by_cases hsign : cs.head? = some '+'
  · obtain ⟨digits, rfl⟩ := List.head?_eq_some_iff.1 hsign
    obtain rfl | hne := eq_or_ne digits []
    · exact .inr ⟨_, .sign⟩
    · rcases digits_or_stuck digits with ⟨hdigits, hfits⟩ | ⟨fault, hstuck⟩
      · exact .inl ⟨_, hfits, .signed hne hdigits⟩
      · exact .inr ⟨fault, .signed hstuck⟩
  · obtain rfl | hne := eq_or_ne cs []
    · exact .inr ⟨_, .empty⟩
    · rcases digits_or_stuck cs with ⟨hdigits, hfits⟩ | ⟨fault, hstuck⟩
      · exact .inl ⟨_, hfits, .plain hne hdigits⟩
      · exact .inr ⟨fault, .plain hsign hstuck⟩

theorem readChars_eq_ok_iff : readChars cs = .ok n ↔ Numeral cs n ∧ n < 2 ^ 32 := by
  refine ⟨fun h => ?_, fun h => readChars_of_numeral h.1 h.2⟩
  rcases numeral_or_faulty cs with ⟨m, hfits, hnumeral⟩ | ⟨fault, hfaulty⟩
  · rw [readChars_of_numeral hnumeral hfits] at h
    cases h
    exact ⟨hnumeral, hfits⟩
  · rw [readChars_of_faulty hfaulty] at h
    cases h

theorem readChars_eq_error_iff : readChars cs = .error fault ↔ Faulty cs fault := by
  refine ⟨fun h => ?_, readChars_of_faulty⟩
  rcases numeral_or_faulty cs with ⟨m, hfits, hnumeral⟩ | ⟨fault', hfaulty⟩
  · rw [readChars_of_numeral hnumeral hfits] at h
    cases h
  · rw [readChars_of_faulty hfaulty] at h
    cases h
    exact hfaulty

/-! ## Texts -/

/-- A text holds the number that it writes. -/
theorem read_eq_ok_iff {w : UInt32} : read s = .ok w ↔ Numeral s.toList w.toNat := by
  rw [read]
  constructor
  · intro h
    cases hread : readChars s.toList with
    | error e =>
      rw [hread] at h
      cases h
    | ok n =>
      obtain ⟨hnumeral, hfits⟩ := readChars_eq_ok_iff.1 hread
      rw [hread] at h
      cases h
      rwa [show n.toUInt32.toNat = n from Nat.mod_eq_of_lt hfits]
  · intro h
    rw [readChars_of_numeral h w.toNat_lt]
    simp [Except.map]

/-- In a text that holds no number there is a fault. -/
theorem read_eq_error_iff : read s = .error fault ↔ Faulty s.toList fault := by
  rw [← readChars_eq_error_iff, read]
  cases readChars s.toList with
  | ok n => simp [Except.map]
  | error e => simp [Except.map]

example : read "+0004294967295" = .ok 4294967295 := by decide

end VulkanExec.Text.Decimal
