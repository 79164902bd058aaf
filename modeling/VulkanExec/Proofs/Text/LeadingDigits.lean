import VulkanExec.Proofs.Text.Numerals

/-!
# Leading digits

Why a text is no number of 32 bits can be read off it without a scan. After a plus sign in front, if
there is one, come some digits, perhaps none. If their value does not fit, the number is too large,
whatever comes after them. Otherwise, unless the text is empty, there is a wrong digit.

## Main definitions

- `Decimal.unsigned`: a text without a plus sign in front;
- `Decimal.leading`: the digits in front of a text;
- `Decimal.faultOf`: what is wrong with a text that is no number.

The main statements are `faulty_iff` and `value_zeros_append`.
-/

namespace VulkanExec.Text.Decimal

/-- A text without one plus sign in front. -/
def unsigned : List Char → List Char
  | '+' :: cs => cs
  | cs => cs

/-- The digits in front of a text. -/
def leading (cs : List Char) : List Char := cs.takeWhile Char.isDigit

/-- What is wrong with a text that is no number. -/
def faultOf (cs : List Char) : Fault :=
  if cs = [] then .empty
  else if 2 ^ 32 ≤ value (leading (unsigned cs)) then .tooLarge
  else .invalidDigit

variable {digits cs before : List Char} {c : Char} {n : Nat} {fault : Fault}

theorem unsigned_of_head? (h : cs.head? ≠ some '+') : unsigned cs = cs := by
  unfold unsigned
  split
  · simp at h
  · rfl

theorem leading_append (h : ∀ d ∈ before, d.isDigit = true) (cs : List Char) :
    leading (before ++ cs) = before ++ leading cs := List.takeWhile_append_of_pos h

/-- Reading stops for the value of the digits in front, or else for what comes after them. -/
theorem Stuck.eq_ite (h : Stuck cs fault) :
    fault = if 2 ^ 32 ≤ value (leading cs) then .tooLarge else .invalidDigit := by
  cases h with
  | @noDigit before after c hbefore hfits hc =>
    have hleading : leading (before ++ c :: after) = before := by
      rw [leading_append hbefore, leading, List.takeWhile_cons_of_neg (by simp [hc]),
        List.append_nil]
    rw [hleading, if_neg (Nat.not_le.2 hfits)]
  | @overflow before after c hbefore hfits hc hlarge =>
    have hleading : leading (before ++ c :: after) = before ++ [c] ++ leading after := by
      rw [leading_append hbefore, leading, List.takeWhile_cons_of_pos hc, List.append_assoc]
      rfl
    rw [hleading, if_pos (hlarge.trans (value_le_append _ _))]

theorem Faulty.eq_faultOf (h : Faulty cs fault) : fault = faultOf cs := by
  cases h with
  | empty => rfl
  | sign => decide
  | signed hstuck =>
    rw [faultOf, if_neg (List.cons_ne_nil _ _)]
    exact hstuck.eq_ite
  | plain hsign hstuck =>
    rw [faultOf, if_neg hstuck.ne_nil, unsigned_of_head? hsign]
    exact hstuck.eq_ite

/-- A text has a fault exactly when it is no numeral that fits, and then it has one. -/
theorem faulty_iff : Faulty cs fault ↔ (¬ ∃ n < 2 ^ 32, Numeral cs n) ∧ fault = faultOf cs := by
  constructor
  · intro h
    refine ⟨?_, h.eq_faultOf⟩
    rintro ⟨n, hfits, hnumeral⟩
    have hread := readChars_of_numeral hnumeral hfits
    rw [readChars_of_faulty h] at hread
    cases hread
  · rintro ⟨hnot, rfl⟩
    rcases numeral_or_faulty cs with hnumeral | ⟨fault, hfaulty⟩
    · exact absurd hnumeral hnot
    · exact hfaulty.eq_faultOf ▸ hfaulty

/-- Zeros in front of digits make no difference to the value. -/
theorem value_zeros_append (k : Nat) (digits : List Char) :
    value (List.replicate k '0' ++ digits) = value digits := by
  induction digits using List.reverseRecOn with
  | nil =>
    induction k with
    | zero => rfl
    | succ k ih =>
      rw [List.append_nil] at ih
      rw [List.append_nil, List.replicate_succ', value_concat, ih]
      rfl
  | append_singleton digits d ih => rw [← List.append_assoc, value_concat, value_concat, ih]

example : faultOf "+0042949672960x".toList = .tooLarge ∧
    faultOf "429496729x".toList = .invalidDigit := by
  decide

end VulkanExec.Text.Decimal
