import Mathlib.Data.List.FinRange
import Mathlib.Data.Nat.Bitwise
import VulkanExec.Context

/-!
# Memory types

The memory type that a context finds for a request is the first that suits it: one of those that the
layout claims and has room for, with its bit among the bits of the request, and with all flags of
the request. To ask for more never finds an earlier one.

The search is also written out on 32-bit words, place by place, with every shift and every access
checked. No check ever fails, however many types the layout claims.

## Main definitions

- `BitsWithin`: every bit of a word is set in another;
- `MemoryLayout.Suits`: a memory type suits a request;
- `MemoryLayout.searchWords`: the search on words, with its checks;
- `Context.FindsMemoryType`: what is said of the memory type that is found.

The main statement is `Context.finds_memory_type`.
-/

namespace VulkanExec

/-! ## Words -/

theorem toNat_min (m n : UInt32) : (min m n).toNat = min m.toNat n.toNat := by
  have hmin : min m n = if m ≤ n then m else n := rfl
  rw [hmin]
  split
  case isTrue hle => exact (Nat.min_eq_left (UInt32.le_iff_toNat_le.1 hle)).symm
  case isFalse hlt =>
    rw [UInt32.le_iff_toNat_le] at hlt
    exact (Nat.min_eq_right (Nat.le_of_not_le hlt)).symm

/-- Every bit that is set in a word is set in another. -/
def BitsWithin (word other : UInt32) : Prop :=
  ∀ b, word.toNat.testBit b = true → other.toNat.testBit b = true

theorem BitsWithin.trans {a b c : UInt32} (hab : BitsWithin a b) (hbc : BitsWithin b c) :
    BitsWithin a c :=
  fun i hi => hbc i (hab i hi)

theorem and_eq_right_iff_bitsWithin {present flags : UInt32} :
    present &&& flags = flags ↔ BitsWithin flags present := by
  rw [← UInt32.toNat_inj, UInt32.toNat_and]
  constructor
  · intro h b hb
    rw [← h, Nat.testBit_and, Bool.and_eq_true] at hb
    exact hb.1
  · intro h
    refine Nat.eq_of_testBit_eq fun b => ?_
    rw [Nat.testBit_and, Bool.and_eq_right_iff_imp]
    exact h b

/-- The bit of a word that a shifted one covers. -/
theorem and_shiftLeft_eq_zero_iff {bits i : UInt32} (hi : i.toNat < 32) :
    bits &&& (1 <<< i) = 0 ↔ bits.toNat.testBit i.toNat = false := by
  have hbit : ((1 : UInt32) <<< i).toNat = 2 ^ i.toNat := by
    rw [UInt32.toNat_shiftLeft, Nat.mod_eq_of_lt hi, UInt32.toNat_one, Nat.one_shiftLeft]
    exact Nat.mod_eq_of_lt (Nat.pow_lt_pow_right (by decide) hi)
  rw [← UInt32.toNat_inj, UInt32.toNat_and, hbit, Nat.and_two_pow, UInt32.toNat_zero]
  cases bits.toNat.testBit i.toNat <;> simp

namespace MemoryLayout

variable {layout : MemoryLayout} {bits flags bits' flags' : UInt32} {i : Nat}

/-! ## The first memory type -/

/-- The memory type at a place suits a request. -/
structure Suits (layout : MemoryLayout) (bits flags : UInt32) (i : Nat) : Prop where
  lt_min : i < min layout.count.toNat 32
  allowed : bits.toNat.testBit i = true
  /-- The type has every flag of the request. -/
  has_flags : ∃ present, layout.flags[i]? = some present ∧ BitsWithin flags present

/-- The test of a place that is among the claimed ones. -/
def test (layout : MemoryLayout) (bits flags : UInt32) (i : Nat) : Bool :=
  bits.toNat.testBit i && layout.flags[i]?.any (· &&& flags == flags)

theorem suits_iff_test :
    layout.Suits bits flags i ↔ i < min layout.count.toNat 32 ∧ layout.test bits flags i := by
  rw [test, Bool.and_eq_true, Option.any_eq_true]
  simp only [beq_iff_eq, and_eq_right_iff_bitsWithin]
  exact ⟨fun h => ⟨h.lt_min, h.allowed, h.has_flags⟩, fun h => ⟨h.1, h.2.1, h.2.2⟩⟩

theorem find?_eq (layout : MemoryLayout) (bits flags : UInt32) :
    layout.find? bits flags = (List.finRange maxMemoryTypes).find? fun i : Fin maxMemoryTypes =>
      decide (i.val < layout.count.toNat) && layout.test bits flags i := by
  have hplace (i : Fin maxMemoryTypes) : layout.flags[i.val]? = some layout.flags[i] :=
    Vector.getElem?_eq_getElem i.isLt
  simp only [find?, test, hplace, Option.any_some, Bool.and_assoc]

/-- The search tests whether a place suits. -/
theorem suits_iff (i : Fin maxMemoryTypes) : layout.Suits bits flags i ↔
    (decide (i.val < layout.count.toNat) && layout.test bits flags i) = true := by
  have hmin : i.val < min layout.count.toNat 32 ↔ i.val < layout.count.toNat :=
    Nat.lt_min.trans (and_iff_left i.isLt)
  rw [suits_iff_test, hmin, Bool.and_eq_true, decide_eq_true_eq]

theorem find?_eq_some_iff {i : Fin maxMemoryTypes} :
    layout.find? bits flags = some i ↔
      layout.Suits bits flags i ∧ ∀ j < i.val, ¬ layout.Suits bits flags j := by
  rw [find?_eq, List.find?_eq_some_iff_getElem, ← suits_iff]
  refine and_congr_right fun _ => ?_
  simp only [Bool.not_eq_true', ← Bool.not_eq_true, ← suits_iff, List.getElem_finRange]
  constructor
  · rintro ⟨j, hj, rfl, hearlier⟩
    exact hearlier
  · intro hearlier
    exact ⟨i, by rw [List.length_finRange]; exact i.isLt, rfl, hearlier⟩

theorem find?_eq_none_iff :
    layout.find? bits flags = none ↔ ∀ i, ¬ layout.Suits bits flags i := by
  rw [find?_eq, List.find?_eq_none]
  simp only [← suits_iff]
  constructor
  · intro h i hsuits
    exact h ⟨i, (Nat.lt_min.1 hsuits.lt_min).2⟩ (List.mem_finRange _) hsuits
  · exact fun h i _ => h i

/-- What suits a request suits one that asks for less. -/
theorem Suits.weaken (hbits : BitsWithin bits' bits) (hflags : BitsWithin flags flags')
    (h : layout.Suits bits' flags' i) : layout.Suits bits flags i := by
  obtain ⟨present, hplace, hhas⟩ := h.has_flags
  exact ⟨h.lt_min, hbits i h.allowed, present, hplace, hflags.trans hhas⟩

/-- A request that asks for less finds a memory type no later. -/
theorem exists_find?_le (hbits : BitsWithin bits' bits) (hflags : BitsWithin flags flags')
    {j : Fin maxMemoryTypes} (h : layout.find? bits' flags' = some j) :
    ∃ i ≤ j, layout.find? bits flags = some i := by
  have hsuits := (find?_eq_some_iff.1 h).1.weaken hbits hflags
  cases hfound : layout.find? bits flags with
  | none => exact absurd hsuits (find?_eq_none_iff.1 hfound j)
  | some i =>
    refine ⟨i, Fin.not_lt.1 fun hlt => ?_, rfl⟩
    exact (find?_eq_some_iff.1 hfound).2 j hlt hsuits

/-! ## The search on words -/

/-- A step that words of 32 bits and the room of a layout do not allow. -/
inductive Misstep where
  | wideShift (distance : UInt32)
  | noRoom (i : UInt32)

/-- A one that is shifted by less than the width of a word. -/
def bitWord (i : UInt32) : Except Misstep UInt32 :=
  if i < 32 then .ok (1 <<< i) else .error (.wideShift i)

/-- The flags at a place that there is room for. -/
def flagsAt (layout : MemoryLayout) (i : UInt32) : Except Misstep UInt32 :=
  match layout.flags[i.toNat]? with
  | some present => .ok present
  | none => .error (.noRoom i)

/-- The test of one place. The flags are looked at only if the bit is among those of the request. -/
def testWord (layout : MemoryLayout) (bits flags i : UInt32) : Except Misstep Bool := do
  let bit ← bitWord i
  if bits &&& bit = 0 then return false
  let present ← layout.flagsAt i
  return present &&& flags == flags

/-- The first of some places that passes the test. -/
def searchWords (layout : MemoryLayout) (bits flags : UInt32) :
    List UInt32 → Except Misstep (Option UInt32)
  | [] => .ok none
  | i :: later => do
    if ← layout.testWord bits flags i then return some i
    layout.searchWords bits flags later

/-- The places that are searched: as many as are claimed, and 32 at most. -/
def places (layout : MemoryLayout) : List UInt32 :=
  (List.range (min layout.count 32).toNat).map .ofNat

theorem testWord_of_lt {i : UInt32} (hi : i.toNat < 32) :
    layout.testWord bits flags i = .ok (layout.test bits flags i.toNat) := by
  have hword : bitWord i = .ok (1 <<< i) := if_pos (UInt32.lt_iff_toNat_lt.2 hi)
  have hplace : layout.flags[i.toNat]? = some layout.flags[i.toNat] := Vector.getElem?_eq_getElem hi
  rw [testWord, hword]
  simp only [bind, Except.bind, pure, Except.pure]
  split
  case isTrue hzero =>
    rw [and_shiftLeft_eq_zero_iff hi] at hzero
    rw [test, hzero, Bool.false_and]
  case isFalse hset =>
    rw [and_shiftLeft_eq_zero_iff hi, Bool.not_eq_false] at hset
    rw [flagsAt, test, hplace, hset, Bool.true_and]
    rfl

theorem searchWords_of_lt {is : List UInt32} (h : ∀ i ∈ is, i.toNat < 32) :
    layout.searchWords bits flags is =
      .ok (is.find? fun i => layout.test bits flags i.toNat) := by
  induction is with
  | nil => rfl
  | cons i is ih =>
    obtain ⟨hi, hlater⟩ := List.forall_mem_cons.1 h
    rw [searchWords, testWord_of_lt hi, List.find?_cons]
    simp only [bind, Except.bind, pure, Except.pure]
    cases htest : layout.test bits flags i.toNat with
    | true => rfl
    | false => exact ih hlater

theorem length_places (layout : MemoryLayout) :
    layout.places.length = min layout.count.toNat 32 := by
  rw [places, List.length_map, List.length_range, toNat_min]
  rfl

theorem getElem_places (hi : i < layout.places.length) : layout.places[i] = .ofNat i := by
  simp [places]

/-- The places are numbered without wrapping round. -/
theorem toNat_ofNat_of_lt_places (hi : i < layout.places.length) : (UInt32.ofNat i).toNat = i := by
  have hroom : i < 32 := (Nat.lt_min.1 (layout.length_places ▸ hi)).2
  exact UInt32.toNat_ofNat_of_lt' (hroom.trans (by decide))

theorem toNat_lt_of_mem_places {i : UInt32} (hi : i ∈ layout.places) :
    i.toNat < min layout.count.toNat 32 := by
  obtain ⟨j, hj, rfl⟩ := List.getElem_of_mem hi
  rwa [getElem_places, toNat_ofNat_of_lt_places hj, ← length_places]

/-- The search on words makes no misstep and finds the first memory type that suits. -/
theorem searchWords_places (layout : MemoryLayout) (bits flags : UInt32) :
    layout.searchWords bits flags layout.places =
      .ok ((layout.find? bits flags).map fun i => .ofNat i.val) := by
  have hsuits {i : UInt32} (hi : i ∈ layout.places) :
      layout.test bits flags i.toNat = true ↔ layout.Suits bits flags i.toNat :=
    ⟨fun h => suits_iff_test.2 ⟨toNat_lt_of_mem_places hi, h⟩, fun h => (suits_iff_test.1 h).2⟩
  rw [searchWords_of_lt fun i hi => (Nat.lt_min.1 (toNat_lt_of_mem_places hi)).2]
  congr 1
  cases hfound : layout.find? bits flags with
  | none =>
    refine List.find?_eq_none.2 fun i hi htest => ?_
    exact find?_eq_none_iff.1 hfound i.toNat ((hsuits hi).1 htest)
  | some i =>
    obtain ⟨hfirst, hearlier⟩ := find?_eq_some_iff.1 hfound
    have hi : i.val < layout.places.length := layout.length_places ▸ hfirst.lt_min
    refine List.find?_eq_some_iff_getElem.2 ⟨?_, i.val, hi, getElem_places hi, fun j hj => ?_⟩
    · rw [toNat_ofNat_of_lt_places hi]
      exact (suits_iff_test.1 hfirst).2
    · have hlater : j < layout.places.length := hj.trans hi
      rw [Bool.not_eq_true', ← Bool.not_eq_true, hsuits (List.getElem_mem hlater), getElem_places,
        toNat_ofNat_of_lt_places hlater]
      exact hearlier j hj

end MemoryLayout

/-- What is said of the memory type that a context finds for a request. -/
structure Context.FindsMemoryType (context : Context) (bits flags : UInt32) : Prop where
  some_iff : ∀ i : Fin maxMemoryTypes, context.memoryType? bits flags = some i ↔
    context.memory.Suits bits flags i ∧ ∀ j < i.val, ¬ context.memory.Suits bits flags j
  none_iff : context.memoryType? bits flags = none ↔ ∀ i, ¬ context.memory.Suits bits flags i
  /-- The search on words makes no misstep, and it comes to the same. -/
  checked : context.memory.searchWords bits flags context.memory.places =
    .ok ((context.memoryType? bits flags).map fun i => .ofNat i.val)
  /-- A request with fewer bits or more flags finds no earlier type. -/
  stronger : ∀ bits' flags', BitsWithin bits' bits → BitsWithin flags flags' →
    ∀ j, context.memoryType? bits' flags' = some j →
      ∃ i ≤ j, context.memoryType? bits flags = some i

/-- A context finds the first memory type that suits a request, if there is one. -/
theorem Context.finds_memory_type (context : Context) (bits flags : UInt32) :
    context.FindsMemoryType bits flags where
  some_iff _ := MemoryLayout.find?_eq_some_iff
  none_iff := MemoryLayout.find?_eq_none_iff
  checked := context.memory.searchWords_places bits flags
  stronger _ _ hbits hflags _ := MemoryLayout.exists_find?_le hbits hflags

/-- The last type that there is room for is found, whatever number of types is claimed. -/
example : (MemoryLayout.mk 4000000000 (.ofFn fun i => if i.val = 31 then 7 else 1)).find?
    0x80000001 6 = some ⟨31, by decide⟩ := by
  decide

end VulkanExec
