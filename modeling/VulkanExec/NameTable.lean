/-!
# Tables by name

A table holds values under names, one value under each name. What is put under a name takes the
place of what was there.

## Main definitions

- `NameTable α`: the table, with `empty`, `get?`, `contains` and `size`;
- `NameTable.insert`, `NameTable.erase`: put a value under a name, and take it away;
- `NameTable.insertAll`: put several values under names, one after the other;
- `NameTable.names`, `NameTable.values`: all names and all values, the latest first.

The main statements say what is found after a change (`get?_insert`, `get?_erase`), and that the
values are the one under a name and those without it (`values_perm`).
-/

namespace VulkanExec

/-- Values under names, each name once. -/
structure NameTable (α : Type) where
  entries : List (String × α)
  nodup : (entries.map Prod.fst).Nodup
  deriving DecidableEq, Repr

namespace NameTable

variable {α : Type}

/-- Nothing under any name. -/
def empty : NameTable α := ⟨[], .nil⟩

/-- The value under a name. -/
def get? (table : NameTable α) (name : String) : Option α := table.entries.lookup name

def contains (table : NameTable α) (name : String) : Bool := (table.get? name).isSome

def names (table : NameTable α) : List String := table.entries.map Prod.fst

def values (table : NameTable α) : List α := table.entries.map Prod.snd

def size (table : NameTable α) : Nat := table.entries.length

def isEmpty (table : NameTable α) : Bool := table.entries.isEmpty

/-- The table without what is under a name. -/
def erase (table : NameTable α) (name : String) : NameTable α where
  entries := table.entries.filter (·.1 != name)
  nodup := table.nodup.sublist (List.filter_sublist.map _)

theorem notMem_names_erase (table : NameTable α) (name : String) :
    name ∉ (table.erase name).names := by
  simp [names, erase]

/-- The table with a value under a name, in place of the one that was there. -/
def insert (table : NameTable α) (name : String) (a : α) : NameTable α where
  entries := (name, a) :: (table.erase name).entries
  nodup := List.nodup_cons.2 ⟨table.notMem_names_erase name, (table.erase name).nodup⟩

/-- The table with values put under names, one after the other. -/
def insertAll (table : NameTable α) (entries : List (String × α)) : NameTable α :=
  entries.foldl (fun t entry => t.insert entry.1 entry.2) table

/-! ## What is found -/

@[simp] theorem get?_empty (name : String) : (empty : NameTable α).get? name = none := rfl

private theorem lookup_cons_eq_ite (entries : List (String × α)) (name key : String) (a : α) :
    ((key, a) :: entries).lookup name = if name = key then some a else entries.lookup name := by
  by_cases h : name = key
  · simp [h]
  · simp [List.lookup_cons, beq_eq_false_iff_ne.2 h, h]

private theorem lookup_filter_ne (entries : List (String × α)) (name other : String) :
    (entries.filter (·.1 != name)).lookup other =
      if other = name then none else entries.lookup other := by
  induction entries with
  | nil => simp
  | cons entry entries ih =>
    obtain ⟨key, a⟩ := entry
    by_cases hk : key = name
    · subst hk
      rw [List.filter_cons_of_neg (by simp), ih, lookup_cons_eq_ite]
      split <;> rfl
    · rw [List.filter_cons_of_pos (by simpa using hk), lookup_cons_eq_ite, ih, lookup_cons_eq_ite]
      by_cases ho : other = key
      · simp [ho, hk]
      · simp [ho]

@[simp] theorem get?_erase (table : NameTable α) (name other : String) :
    (table.erase name).get? other = if other = name then none else table.get? other :=
  lookup_filter_ne ..

@[simp] theorem get?_insert (table : NameTable α) (name other : String) (a : α) :
    (table.insert name a).get? other = if other = name then some a else table.get? other := by
  rw [get?, insert, lookup_cons_eq_ite]
  split
  · rfl
  · have := table.get?_erase name other
    simp_all [get?]

theorem get?_eq_some_iff {table : NameTable α} {name : String} {a : α} :
    table.get? name = some a ↔ (name, a) ∈ table.entries := by
  obtain ⟨entries, nodup⟩ := table
  simp only [get?]
  induction entries with
  | nil => simp
  | cons entry entries ih =>
    obtain ⟨key, b⟩ := entry
    simp only [List.map_cons, List.nodup_cons] at nodup
    rw [lookup_cons_eq_ite]
    by_cases h : name = key
    · subst h
      have hb : (name, a) ∉ entries := fun hm => nodup.1 (List.mem_map_of_mem hm)
      simp [hb, eq_comm]
    · simp [h, ih nodup.2]

theorem contains_insertAll (table : NameTable α) (entries : List (String × α)) (name : String) :
    (table.insertAll entries).contains name = true ↔
      table.contains name = true ∨ name ∈ entries.map Prod.fst := by
  induction entries generalizing table with
  | nil => simp [insertAll]
  | cons entry entries ih =>
    have hcons : table.insertAll (entry :: entries) =
        (table.insert entry.1 entry.2).insertAll entries := rfl
    rw [hcons, ih, List.map_cons, List.mem_cons]
    by_cases h : name = entry.1
    · simp [contains, h]
    · simp [contains, h]

/-- What is under other names stays there. -/
theorem get?_insertAll_of_notMem (table : NameTable α) {entries : List (String × α)}
    {name : String} (h : name ∉ entries.map Prod.fst) :
    (table.insertAll entries).get? name = table.get? name := by
  induction entries generalizing table with
  | nil => rfl
  | cons entry entries ih =>
    have hcons : table.insertAll (entry :: entries) =
        (table.insert entry.1 entry.2).insertAll entries := rfl
    rw [List.map_cons, List.mem_cons, not_or] at h
    rw [hcons, ih _ h.2, get?_insert, if_neg h.1]

/-- What is put under a name once is found there. -/
theorem get?_insertAll_of_mem (table : NameTable α) {entries : List (String × α)}
    (hnodup : (entries.map Prod.fst).Nodup) {name : String} {a : α} (h : (name, a) ∈ entries) :
    (table.insertAll entries).get? name = some a := by
  induction entries generalizing table with
  | nil => simp at h
  | cons entry entries ih =>
    have hcons : table.insertAll (entry :: entries) =
        (table.insert entry.1 entry.2).insertAll entries := rfl
    rw [List.map_cons, List.nodup_cons] at hnodup
    rw [hcons]
    rcases List.mem_cons.1 h with rfl | h
    · rw [get?_insertAll_of_notMem _ hnodup.1, get?_insert, if_pos rfl]
    · exact ih _ hnodup.2 h

theorem mem_names_iff {table : NameTable α} {name : String} :
    name ∈ table.names ↔ table.contains name = true := by
  simp [names, contains, Option.isSome_iff_exists, get?_eq_some_iff]

/-! ## All values -/

@[simp] theorem values_empty : (empty : NameTable α).values = [] := rfl

@[simp] theorem values_insert (table : NameTable α) (name : String) (a : α) :
    (table.insert name a).values = a :: (table.erase name).values := rfl

private theorem filter_fst_eq_self {entries : List (String × α)} {name : String}
    (h : name ∉ entries.map Prod.fst) : entries.filter (·.1 != name) = entries := by
  refine List.filter_eq_self.2 fun entry hm => ?_
  simp only [bne_iff_ne]
  exact fun he => h (he ▸ List.mem_map_of_mem hm)

/-- A table is unchanged by taking away a name that it does not have. -/
theorem erase_eq_self {table : NameTable α} {name : String} (h : table.get? name = none) :
    table.erase name = table := by
  have hn : name ∉ table.names := by simp [mem_names_iff, contains, h]
  obtain ⟨entries, nodup⟩ := table
  simp only [erase, mk.injEq]
  exact filter_fst_eq_self hn

/-- The values are the one under a name and those without it. -/
theorem values_perm {table : NameTable α} {name : String} {a : α}
    (h : table.get? name = some a) : table.values.Perm (a :: (table.erase name).values) := by
  obtain ⟨entries, nodup⟩ := table
  rw [get?_eq_some_iff] at h
  simp only [values, erase] at h ⊢
  induction entries with
  | nil => simp at h
  | cons entry entries ih =>
    obtain ⟨key, b⟩ := entry
    simp only [List.map_cons, List.nodup_cons] at nodup
    rcases List.mem_cons.1 h with h | h
    · obtain ⟨rfl, rfl⟩ := Prod.mk.inj h
      simp [filter_fst_eq_self nodup.1]
    · have hk : key ≠ name := fun he => nodup.1 (he ▸ List.mem_map_of_mem h)
      simp only [List.map_cons, List.filter_cons, hk, bne_iff_ne, ne_eq, not_false_eq_true,
        if_true]
      exact ((ih nodup.2 h).cons b).trans (.swap ..)

end NameTable

end VulkanExec
