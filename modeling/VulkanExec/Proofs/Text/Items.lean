import VulkanExec.Proofs.Text.Trimming
import VulkanExec.Text.Separated

/-!
# Lists in a text

The items of a comma-separated text are what the text spells: names that are not empty, have no
comma and no white space at their ends. Every text spells exactly one list of them, and every list
of them is spelled by the names with commas between them, whatever white space stands around the
names and whatever blank pieces stand between them.

## Main definitions

- `IsItem`: a text that a list can have as an item;
- `Spells`: pieces that hold a list of names.

The main statements are `items_append`, on which all else rests, and `items_eq_iff`.
-/

namespace VulkanExec.Text

/-- A text that a list can have as an item. -/
structure IsItem (name : String) : Prop where
  nonempty : name ≠ ""
  noComma : ',' ∉ name.toList
  trimmed : Trimmed name.toList

instance : DecidablePred IsItem := fun _ =>
  decidable_of_iff (_ ∧ _ ∧ _)
    ⟨fun h => ⟨h.1, h.2.1, h.2.2⟩, fun h => ⟨h.nonempty, h.noComma, h.trimmed⟩⟩

/-- Pieces that hold a list of names in order. Around each name and between two of them there may
be white space and pieces of it. -/
inductive Spells : List String → List String → Prop where
  | nil : Spells [] []
  | blank {piece : String} {names pieces : List String} (hpiece : Blank piece.toList)
      (later : Spells names pieces) : Spells names (piece :: pieces)
  | name {left name right : String} {names pieces : List String} (hleft : Blank left.toList)
      (hright : Blank right.toList) (later : Spells names pieces) :
      Spells (name :: names) ((left ++ name ++ right) :: pieces)

variable {s t name piece left right : String} {names pieces : List String}

/-- Names without anything else spell themselves. -/
theorem spells_self (names : List String) : Spells names names := by
  induction names with
  | nil => exact .nil
  | cons name names ih =>
    have hname : Spells (name :: names) (("" ++ name ++ "") :: names) :=
      .name blank_nil blank_nil ih
    simpa using hname

theorem Blank.comma_notMem {cs : List Char} (h : Blank cs) : ',' ∉ cs :=
  fun hmem => absurd (h _ hmem) (by decide)

theorem Blank.trim_eq (h : Blank s.toList) : trim s = "" :=
  trim_eq_iff.2 ⟨by decide, s, "", h, blank_nil, by simp⟩

theorem trim_append (hleft : Blank left.toList) (hright : Blank right.toList)
    (h : Trimmed name.toList) : trim (left ++ name ++ right) = name :=
  trim_eq_iff.2 ⟨h, left, right, hleft, hright, rfl⟩

/-! ## Items piece by piece -/

/-- The items on both sides of a comma have nothing to do with each other. -/
theorem items_append : items (s ++ "," ++ t) = items s ++ items t := by
  have hcomma : (s ++ "," ++ t).toList = s.toList ++ ',' :: t.toList := by simp
  rw [items, items, items, hcomma, itemChars, List.splitOn_append_cons_self]
  simp [itemChars]

/-- Without a comma there is one item, or none if nothing but white space is there. -/
theorem items_of_comma_notMem (h : ',' ∉ s.toList) :
    items s = if trim s = "" then [] else [trim s] := by
  have hchars : itemChars s.toList = [(trim s).toList].filter (!·.isEmpty) := by
    rw [itemChars, List.splitOn_eq_singleton h, toList_trim, List.map_singleton]
  rw [items, hchars]
  generalize trim s = core
  by_cases hempty : core = ""
  · simp [hempty]
  · simp [hempty]

theorem items_joined (pieces : List String) : items (joined pieces) = pieces.flatMap items := by
  induction pieces with
  | nil => rfl
  | cons piece pieces ih =>
    cases pieces with
    | nil => simp [joined]
    | cons next pieces =>
      rw [List.flatMap_cons, ← ih, ← items_append]
      rw [joined, String.intercalate_cons_cons, joined]

/-! ## What is spelled -/

/-- The items of a text are the names that it spells. -/
theorem Spells.items_eq (h : Spells names pieces) (hnames : ∀ name ∈ names, IsItem name) :
    items (joined pieces) = names := by
  rw [items_joined]
  induction h with
  | nil => rfl
  | blank hblank _ ih =>
    rw [List.flatMap_cons, ih hnames, items_of_comma_notMem hblank.comma_notMem, hblank.trim_eq,
      if_pos rfl, List.nil_append]
  | @name left name right names pieces hleft hright _ ih =>
    obtain ⟨hname, hlater⟩ := List.forall_mem_cons.1 hnames
    have hcomma : ',' ∉ (left ++ name ++ right).toList := by
      simp [hleft.comma_notMem, hright.comma_notMem, hname.noComma]
    rw [List.flatMap_cons, ih hlater, items_of_comma_notMem hcomma,
      trim_append hleft hright hname.trimmed, if_neg hname.nonempty]
    rfl

/-- A piece between two commas has no comma. -/
theorem comma_notMem_of_mem_splitOn {cs piece : List Char} (h : piece ∈ cs.splitOn ',') :
    ',' ∉ piece := by
  induction cs generalizing piece with
  | nil =>
    rw [List.splitOn_nil, List.mem_singleton] at h
    simp [h]
  | cons c cs ih =>
    rw [List.splitOn, List.splitOnP_cons_eq_if_modifyHead] at h
    split at h
    case isTrue =>
      rcases List.mem_cons.1 h with rfl | h
      · simp
      · exact ih h
    case isFalse hc =>
      obtain ⟨first, later, heq⟩ := List.exists_cons_of_ne_nil (List.splitOn_ne_nil ',' cs)
      rw [← List.splitOn, heq, List.modifyHead_cons] at h
      rcases List.mem_cons.1 h with rfl | h
      · have hfirst : ',' ∉ first := ih (heq ▸ List.mem_cons_self)
        simp only [List.mem_cons, not_or]
        exact ⟨fun hcomma => hc (by simp [← hcomma]), hfirst⟩
      · exact ih (heq ▸ List.mem_cons_of_mem _ h)

/-- A text is its pieces between the commas, with commas between them. -/
theorem exists_pieces (s : String) :
    ∃ pieces, s = joined pieces ∧ ∀ piece ∈ pieces, ',' ∉ piece.toList := by
  refine ⟨(s.toList.splitOn ',').map String.ofList, ?_, fun piece hpiece => ?_⟩
  · have hchars : String.toList ∘ String.ofList = id := funext fun _ => String.toList_ofList
    rw [joined, ← String.toList_inj, String.toList_intercalate, List.map_map, hchars, List.map_id]
    exact (List.intercalate_splitOn ',').symm
  · obtain ⟨cs, hcs, rfl⟩ := List.mem_map.1 hpiece
    rw [String.toList_ofList]
    exact comma_notMem_of_mem_splitOn hcs

/-- Pieces without commas spell their items, which can be items. -/
theorem spells_flatMap_items (h : ∀ piece ∈ pieces, ',' ∉ piece.toList) :
    Spells (pieces.flatMap items) pieces ∧ ∀ name ∈ pieces.flatMap items, IsItem name := by
  induction pieces with
  | nil => exact ⟨.nil, nofun⟩
  | cons piece pieces ih =>
    obtain ⟨hpiece, hlater⟩ := List.forall_mem_cons.1 h
    obtain ⟨hspells, hnames⟩ := ih hlater
    obtain ⟨htrimmed, left, right, hleft, hright, heq⟩ := trim_eq_iff.1 (Eq.refl (trim piece))
    rw [List.flatMap_cons, items_of_comma_notMem hpiece]
    split
    case isTrue hempty =>
      have hblank : Blank piece.toList := by
        rw [heq, hempty, String.append_empty, String.toList_append]
        exact fun c hc => (List.mem_append.1 hc).elim (hleft c) (hright c)
      exact ⟨.blank hblank hspells, hnames⟩
    case isFalse hne =>
      have hcomma : ',' ∉ (trim piece).toList := by
        rw [heq] at hpiece
        simp only [String.toList_append, List.mem_append, not_or] at hpiece
        exact hpiece.1.2
      have hname : Spells (trim piece :: pieces.flatMap items)
          ((left ++ trim piece ++ right) :: pieces) := .name hleft hright hspells
      rw [← heq] at hname
      exact ⟨hname, List.forall_mem_cons.2 ⟨⟨hne, hcomma, htrimmed⟩, hnames⟩⟩

/-- The items of a text are the one list of names that can be items which the text spells. -/
theorem items_eq_iff :
    items s = names ↔
      (∀ name ∈ names, IsItem name) ∧ ∃ pieces, s = joined pieces ∧ Spells names pieces := by
  constructor
  · rintro rfl
    obtain ⟨pieces, rfl, hcomma⟩ := exists_pieces s
    rw [items_joined]
    obtain ⟨hspells, hnames⟩ := spells_flatMap_items hcomma
    exact ⟨hnames, pieces, rfl, hspells⟩
  · rintro ⟨hnames, pieces, rfl, hspells⟩
    exact hspells.items_eq hnames

/-- Every item of a text can be one. -/
theorem isItem_of_mem_items (h : name ∈ items s) : IsItem name :=
  (items_eq_iff.1 rfl).1 name h

/-- Items with commas between them are read as they stand. -/
theorem items_joined_items (s : String) : items (joined (items s)) = items s :=
  (spells_self _).items_eq fun _ => isItem_of_mem_items

example : items " a b,, c\u00a0,\u3000," = ["a b", "c"] := by decide

end VulkanExec.Text
