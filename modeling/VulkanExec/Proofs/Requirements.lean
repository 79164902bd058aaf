import Mathlib.Data.List.Induction
import Mathlib.Data.List.Nodup
import VulkanExec.Features
import VulkanExec.Requirement

/-!
# Requirements and what is missing

A requirement is checked against what a feature structure or a list of names advertises. The list of
what is missing says exactly what is required and not advertised: each such item once, in the order
in which the items are first asked for. The check succeeds when that list is empty. Only which items
are required counts for the check, and a larger offer or a smaller requirement does no harm to it.

## Main definitions

- `ListsMissing`: a list says what is missing;
- `collect`: one step of a search that goes through the requirement and keeps what is missing;
- `Matched`: what the check and the list of what is missing have to do with what is advertised.

The main statements are `missing_eq_iff`, `missing_eq_foldl` and `missing_eq_nil_iff`, and from them
`requirements_matched`.
-/

namespace VulkanExec

variable {α : Type} {available larger : α → Bool} {required smaller other left : List α} {a : α}

/-! ## The check -/

theorem supports_iff :
    supports available required = true ↔ ∀ a ∈ required, available a = true := List.all_eq_true

/-- The check looks at each required item alone, so a larger offer and a smaller requirement pass it
too. -/
theorem supports_mono (hlarger : ∀ a, available a = true → larger a = true)
    (hsmaller : smaller ⊆ required) (h : supports available required = true) :
    supports larger smaller = true :=
  supports_iff.2 fun a ha => hlarger a (supports_iff.1 h a (hsmaller ha))

theorem supports_congr (h : ∀ a, a ∈ other ↔ a ∈ required) :
    supports available other = supports available required := by
  rw [Bool.eq_iff_iff]
  constructor
  · exact supports_mono (fun _ => id) fun a => (h a).2
  · exact supports_mono (fun _ => id) fun a => (h a).1

theorem Features.has_iff {features : Features} {c : Capability} :
    features.has c = true ↔ features.word c = 1 := beq_iff_eq

theorem offers_iff {names : List String} {name : String} :
    offers names name = true ↔ name ∈ names := List.contains_iff_mem

theorem supports_has_iff {features : Features} {capabilities : List Capability} :
    supports features.has capabilities ↔ ∀ c ∈ capabilities, features.word c = 1 := by
  simp only [supports_iff, Features.has_iff]

theorem supports_offers_iff {available extensions : List String} :
    supports (offers available) extensions ↔ ∀ name ∈ extensions, name ∈ available := by
  simp only [supports_iff, offers_iff]

/-! ## The list of what is missing -/

variable [DecidableEq α]

/-- A list of all that is required and not available, each item once, in the order of the first
requests. -/
structure ListsMissing (available : α → Prop) (required left : List α) : Prop where
  nodup : left.Nodup
  mem_iff : ∀ a, a ∈ left ↔ a ∈ required ∧ ¬ available a
  ordered : left.Pairwise fun a b => required.idxOf a < required.idxOf b

/-- The first item of a request is missing if it is not available, and then it is not asked for
again. -/
theorem missing_cons (available : α → Bool) (a : α) (required : List α) :
    missing available (a :: required) = if available a then missing available required
      else a :: missing (fun b => available b || b == a) required := by
  unfold missing
  cases ha : available a with
  | true => simp [ha]
  | false =>
    have hlater : ((required.filter (!available ·)).filter fun b => !b == a) =
        required.filter fun b => !(available b || b == a) := by
      rw [List.filter_filter]
      refine List.filter_congr fun b _ => ?_
      rw [Bool.not_or, Bool.and_comm]
    rw [List.filter_cons_of_pos (by simp [ha]), List.eraseDups_cons, hlater]
    simp

/-- An item that is not missing may be asked for first. -/
theorem ListsMissing.skip {available : α → Prop} (h : ListsMissing available required left)
    (ha : available a) : ListsMissing available (a :: required) left := by
  have hne : ∀ b ∈ left, a ≠ b := by
    rintro b hb rfl
    exact ((h.mem_iff a).1 hb).2 ha
  refine ⟨h.nodup, fun b => ?_, h.ordered.imp_of_mem fun hb hc hlt => ?_⟩
  · rw [h.mem_iff, List.mem_cons]
    constructor
    · exact fun ⟨hb, hnot⟩ => ⟨.inr hb, hnot⟩
    · rintro ⟨rfl | hb, hnot⟩
      · exact absurd ha hnot
      · exact ⟨hb, hnot⟩
  · rw [List.idxOf_cons_ne _ (hne _ hb), List.idxOf_cons_ne _ (hne _ hc)]
    exact Nat.succ_lt_succ hlt

/-- A missing item comes before all that is missing but for it. -/
theorem ListsMissing.cons {available : α → Prop}
    (h : ListsMissing (fun b => available b ∨ b = a) required left) (ha : ¬ available a) :
    ListsMissing available (a :: required) (a :: left) := by
  have hne : ∀ b ∈ left, a ≠ b := fun b hb heq => ((h.mem_iff b).1 hb).2 (.inr heq.symm)
  constructor
  · exact List.nodup_cons.2 ⟨fun hm => hne a hm rfl, h.nodup⟩
  · intro b
    rw [List.mem_cons, List.mem_cons, h.mem_iff]
    by_cases hb : b = a
    · simp [hb, ha]
    · simp [hb]
  · refine List.pairwise_cons.2 ⟨fun b hb => ?_, h.ordered.imp_of_mem fun hb hc hlt => ?_⟩
    · rw [List.idxOf_cons_self, List.idxOf_cons_ne _ (hne b hb)]
      exact Nat.succ_pos _
    · rw [List.idxOf_cons_ne _ (hne _ hb), List.idxOf_cons_ne _ (hne _ hc)]
      exact Nat.succ_lt_succ hlt

/-- What is missing is listed. -/
theorem missing_lists (available : α → Bool) (required : List α) :
    ListsMissing (available · = true) required (missing available required) := by
  induction required generalizing available with
  | nil => exact ⟨List.nodup_nil, by simp [missing], .nil⟩
  | cons a required ih =>
    rw [missing_cons]
    split
    case isTrue ha => exact (ih available).skip ha
    case isFalse ha =>
      refine ListsMissing.cons ?_ ha
      simpa using ih fun b => available b || b == a

/-- The items of a list without repetitions stand in the order of their places. -/
theorem pairwise_idxOf {items : List α} (h : items.Nodup) :
    items.Pairwise fun a b => items.idxOf a < items.idxOf b := by
  rw [List.pairwise_iff_getElem]
  intro i j hi hj hij
  rwa [h.idxOf_getElem, h.idxOf_getElem]

/-- Only one list says what is missing. -/
theorem ListsMissing.unique {available : α → Prop}
    (h : ListsMissing available required left) (h' : ListsMissing available required other) :
    left = other := by
  have hperm : left.Perm other :=
    (List.perm_ext_iff_of_nodup h.nodup h'.nodup).2 fun a => (h.mem_iff a).trans (h'.mem_iff a).symm
  refine hperm.eq_of_pairwise (fun _ _ _ _ hlt hgt => ?_) h.ordered h'.ordered
  exact absurd hgt (Nat.lt_asymm hlt)

theorem missing_eq_iff :
    missing available required = left ↔ ListsMissing (available · = true) required left :=
  ⟨fun h => h ▸ missing_lists available required, (missing_lists available required).unique⟩

theorem mem_missing : a ∈ missing available required ↔ a ∈ required ∧ ¬ available a = true :=
  (missing_lists available required).mem_iff a

/-- Nothing is missing exactly when all that is required is available. -/
theorem missing_eq_nil_iff : missing available required = [] ↔ supports available required := by
  have hlists := missing_lists available required
  rw [List.eq_nil_iff_forall_not_mem, supports_iff]
  refine forall_congr' fun a => ?_
  rw [hlists.mem_iff, not_and, not_not]

/-- What is missing of what is missing is all of it. -/
theorem missing_missing (available : α → Bool) (required : List α) :
    missing available (missing available required) = missing available required := by
  have hnodup := (missing_lists available required).nodup
  refine missing_eq_iff.2 ⟨hnodup, fun a => ?_, pairwise_idxOf hnodup⟩
  rw [mem_missing, and_assoc, and_self]

/-! ## The search for what is missing -/

/-- Go on to an item: it is kept unless it is available or was kept before. -/
def collect (available : α → Bool) (kept : List α) (a : α) : List α :=
  if !available a && !kept.contains a then kept ++ [a] else kept

theorem missing_concat (available : α → Bool) (required : List α) (a : α) :
    missing available (required ++ [a]) = collect available (missing available required) a := by
  have hkept : a ∈ missing available required ↔ a ∈ required ∧ ¬ available a := mem_missing
  cases ha : available a with
  | true => simp [missing, collect, ha]
  | false =>
    have happend : missing available (required ++ [a]) = missing available required ++
        ([a].removeAll (required.filter (!available ·))).eraseDups := by
      rw [missing, List.filter_append, List.eraseDups_append,
        List.filter_cons_of_pos (by simp [ha]), List.filter_nil, missing]
    rw [happend]
    by_cases hmem : a ∈ required <;>
      simp [List.removeAll, List.eraseDups_cons, collect, hkept, ha, hmem]

/-- What is missing is what the search has kept in the end. -/
theorem missing_eq_foldl (available : α → Bool) (required : List α) :
    missing available required = required.foldl (collect available) [] := by
  induction required using List.reverseRecOn with
  | nil => rfl
  | append_singleton required a ih =>
    rw [missing_concat, ih, List.foldl_append, List.foldl_cons, List.foldl_nil]

/-! ## Both together -/

/-- What the check and the list of what is missing have to do with what is advertised. -/
structure Matched (available : α → Bool) (advertised : α → Prop) (required : List α) : Prop where
  /-- The list of what is missing has every required item that is not advertised, once, and in the
  order of the first requests. No other list does. -/
  lists_iff : ∀ left, missing available required = left ↔ ListsMissing advertised required left
  /-- It comes of a search through the requirement, item by item. -/
  collected : missing available required = required.foldl (collect available) []
  nil_iff : missing available required = [] ↔ supports available required = true
  /-- Neither the order of the required items makes a difference nor how often they come. -/
  same_items : ∀ other, (∀ a, a ∈ other ↔ a ∈ required) →
    supports available other = supports available required ∧
      ∀ a, a ∈ missing available other ↔ a ∈ missing available required
  mono : ∀ (larger : α → Bool) smaller, (∀ a, advertised a → larger a = true) →
    smaller ⊆ required → supports available required = true → supports larger smaller = true
  again : missing available (missing available required) = missing available required

theorem matched {advertised : α → Prop} (h : ∀ a, available a = true ↔ advertised a)
    (required : List α) : Matched available advertised required where
  lists_iff left := by
    rw [missing_eq_iff]
    simp only [h]
  collected := missing_eq_foldl available required
  nil_iff := missing_eq_nil_iff
  same_items other hother :=
    ⟨supports_congr hother, fun a => by rw [mem_missing, mem_missing, hother]⟩
  mono larger smaller hlarger hsmaller hsupports :=
    supports_mono (fun a ha => hlarger a ((h a).1 ha)) hsmaller hsupports
  again := missing_missing available required

/-- Required capabilities are matched against the words of a feature structure, and required names
against the names of a list. -/
theorem requirements_matched :
    (∀ (features : Features) (required : List Capability),
      Matched features.has (features.word · = 1) required) ∧
    ∀ names required : List String, Matched (offers names) (· ∈ names) required :=
  ⟨fun _ => matched fun _ => Features.has_iff, fun _ => matched fun _ => offers_iff⟩

/-- A name that is asked for three times is missing once, in its first place. -/
example : missing (offers ["B"]) ["C", "B", "A", "C", "B", "A", "C"] = ["C", "A"] := by decide

end VulkanExec
