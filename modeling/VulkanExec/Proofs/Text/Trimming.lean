import Mathlib.Data.List.DropRight
import VulkanExec.Text.WhiteSpace

/-!
# What trimming leaves

A text consists of white space, the text that trimming leaves, and white space again; and only one
text without white space at its ends is left over that way.

## Main definitions

- `Blank`: nothing but white space;
- `Trimmed`: no white space at either end.

The main statements are `trimBoth_eq_iff`, and `trim_eq_iff` for texts.
-/

namespace VulkanExec.Text

variable {cs left middle right : List Char}

/-- Nothing but white space. -/
def Blank (cs : List Char) : Prop := ∀ c ∈ cs, isWhiteSpace c = true

instance : DecidablePred Blank := fun cs =>
  decidable_of_iff (cs.all isWhiteSpace = true) List.all_eq_true

theorem blank_nil : Blank [] := nofun

/-- No white space at either end. -/
structure Trimmed (cs : List Char) : Prop where
  first : ∀ c ∈ cs.head?, isWhiteSpace c = false
  last : ∀ c ∈ cs.getLast?, isWhiteSpace c = false

theorem all_not_isWhiteSpace_iff {o : Option Char} :
    o.all (!isWhiteSpace ·) = true ↔ ∀ c ∈ o, isWhiteSpace c = false := by
  cases o <;> simp

instance : DecidablePred Trimmed := fun cs =>
  decidable_of_iff
    (cs.head?.all (!isWhiteSpace ·) = true ∧ cs.getLast?.all (!isWhiteSpace ·) = true)
    ⟨fun h => ⟨all_not_isWhiteSpace_iff.1 h.1, all_not_isWhiteSpace_iff.1 h.2⟩,
      fun h => ⟨all_not_isWhiteSpace_iff.2 h.first, all_not_isWhiteSpace_iff.2 h.last⟩⟩

/-! ## One end -/

theorem trimStart_append (h : Blank left) : trimStart (left ++ cs) = trimStart cs :=
  List.dropWhile_append_of_pos h

theorem trimStart_eq_self (h : ∀ c ∈ cs.head?, isWhiteSpace c = false) : trimStart cs = cs := by
  cases cs with
  | nil => rfl
  | cons c cs => exact List.dropWhile_cons_of_neg (by simp [h c rfl])

theorem first_trimStart (cs : List Char) : ∀ c ∈ (trimStart cs).head?, isWhiteSpace c = false := by
  intro c hc
  have hnot := List.head?_dropWhile_not isWhiteSpace cs
  rwa [show (cs.dropWhile isWhiteSpace).head? = some c from hc] at hnot

theorem exists_append_trimStart (cs : List Char) :
    ∃ left, Blank left ∧ cs = left ++ trimStart cs :=
  ⟨cs.takeWhile isWhiteSpace, fun _ => List.mem_takeWhile_imp,
    List.takeWhile_append_dropWhile.symm⟩

theorem reverse_trimEnd (cs : List Char) : (trimEnd cs).reverse = trimStart cs.reverse :=
  List.reverse_reverse _

theorem trimEnd_append (h : Blank right) : trimEnd (cs ++ right) = trimEnd cs := by
  rw [← List.reverse_inj, reverse_trimEnd, reverse_trimEnd, List.reverse_append]
  exact trimStart_append fun c hc => h c (List.mem_reverse.1 hc)

theorem trimEnd_eq_self (h : ∀ c ∈ cs.getLast?, isWhiteSpace c = false) : trimEnd cs = cs := by
  rw [← List.reverse_inj, reverse_trimEnd]
  exact trimStart_eq_self (List.head?_reverse ▸ h)

theorem last_trimEnd (cs : List Char) : ∀ c ∈ (trimEnd cs).getLast?, isWhiteSpace c = false := by
  rw [← List.head?_reverse, reverse_trimEnd]
  exact first_trimStart _

theorem exists_trimEnd_append (cs : List Char) :
    ∃ right, Blank right ∧ cs = trimEnd cs ++ right := by
  obtain ⟨front, hfront, heq⟩ := exists_append_trimStart cs.reverse
  refine ⟨front.reverse, fun c hc => hfront c (List.mem_reverse.1 hc), ?_⟩
  rw [← List.reverse_inj, List.reverse_append, List.reverse_reverse, reverse_trimEnd]
  exact heq

/-! ## Both ends -/

/-- White space around a text is taken away, and no more. -/
theorem trimBoth_append (hleft : Blank left) (hright : Blank right) (h : Trimmed middle) :
    trimBoth (left ++ middle ++ right) = middle := by
  rw [trimBoth, List.append_assoc, trimStart_append hleft]
  cases middle with
  | nil =>
    have hnil : trimStart right = [] := List.dropWhile_eq_nil_iff.2 hright
    rw [List.nil_append, hnil]
    rfl
  | cons c cs =>
    have hstart : trimStart (c :: cs ++ right) = c :: cs ++ right := trimStart_eq_self h.first
    rw [hstart, trimEnd_append hright, trimEnd_eq_self h.last]

theorem trimmed_trimBoth (cs : List Char) : Trimmed (trimBoth cs) := by
  refine ⟨fun c hc => ?_, last_trimEnd _⟩
  obtain ⟨right, -, heq⟩ := exists_trimEnd_append (trimStart cs)
  -- What is left behind begins where the white space in front ends.
  refine first_trimStart cs c ?_
  rw [heq, List.head?_append, show (trimEnd (trimStart cs)).head? = some c from hc]
  rfl

theorem trimBoth_eq_iff :
    trimBoth cs = middle ↔
      Trimmed middle ∧ ∃ left right, Blank left ∧ Blank right ∧ cs = left ++ middle ++ right := by
  constructor
  · rintro rfl
    obtain ⟨left, hleft, hcs⟩ := exists_append_trimStart cs
    obtain ⟨right, hright, heq⟩ := exists_trimEnd_append (trimStart cs)
    refine ⟨trimmed_trimBoth cs, left, right, hleft, hright, ?_⟩
    rw [List.append_assoc, trimBoth, ← heq]
    exact hcs
  · rintro ⟨hmiddle, left, right, hleft, hright, rfl⟩
    exact trimBoth_append hleft hright hmiddle

/-- Trimming leaves the one text without white space at its ends that has nothing but white space
around it. -/
theorem trim_eq_iff {text core : String} :
    trim text = core ↔ Trimmed core.toList ∧ ∃ left right : String,
      Blank left.toList ∧ Blank right.toList ∧ text = left ++ core ++ right := by
  rw [← String.toList_inj, toList_trim, trimBoth_eq_iff]
  refine and_congr_right fun _ => ⟨?_, ?_⟩
  · rintro ⟨left, right, hleft, hright, heq⟩
    refine ⟨.ofList left, .ofList right, by simpa using hleft, by simpa using hright, ?_⟩
    rw [← String.toList_inj, heq]
    simp
  · rintro ⟨left, right, hleft, hright, rfl⟩
    exact ⟨left.toList, right.toList, hleft, hright, by simp⟩

theorem trim_eq_self {text : String} (h : Trimmed text.toList) : trim text = text :=
  trim_eq_iff.2 ⟨h, "", "", blank_nil, blank_nil, by simp⟩

example : trim "\u2003 on\u00a0" = "on" := by decide

end VulkanExec.Text
