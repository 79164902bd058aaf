/-!
# Reading UTF-8

Bytes from a driver or an environment need not be UTF-8. `decode` reads them all the same: each
longest part that could begin a character but does not complete one, and each byte that can begin
none, becomes one replacement character.

## Main definitions

- `Lead`: what the first byte of a longer character promises;
- `decode`: the characters of a row of bytes, with replacements;
- `text`: the same as a text;
- `strict?`: the text that bytes encode, if they are UTF-8 throughout;
- `terminated`: the bytes before the first zero byte.
-/

namespace VulkanExec.Text.Utf8

/-- The character that stands for bytes that are no UTF-8. -/
def replacement : Char := '\uFFFD'

/-- What the first byte of a character of two to four bytes says about the rest: the high bits of
the code point, how many bytes follow, and the range of the first of them. -/
structure Lead where
  bits : Nat
  more : Nat
  low : UInt8
  high : UInt8

/-- The first bytes that begin a character of two to four bytes. The narrower ranges leave out
overlong forms, surrogates and values above the last code point. -/
def lead? (b : UInt8) : Option Lead :=
  if 0xC2 ≤ b ∧ b ≤ 0xDF then some ⟨(b - 0xC0).toNat, 1, 0x80, 0xBF⟩
  else if b = 0xE0 then some ⟨0, 2, 0xA0, 0xBF⟩
  else if b = 0xED then some ⟨0xD, 2, 0x80, 0x9F⟩
  else if 0xE1 ≤ b ∧ b ≤ 0xEF then some ⟨(b - 0xE0).toNat, 2, 0x80, 0xBF⟩
  else if b = 0xF0 then some ⟨0, 3, 0x90, 0xBF⟩
  else if 0xF1 ≤ b ∧ b ≤ 0xF3 then some ⟨(b - 0xF0).toNat, 3, 0x80, 0xBF⟩
  else if b = 0xF4 then some ⟨4, 3, 0x80, 0x8F⟩
  else none

/-- Complete a character by `more` bytes, the first of them between `low` and `high`. The bytes
from the first that does not fit are left over. -/
def complete (bits : Nat) : Nat → UInt8 → UInt8 → List UInt8 → Char × List UInt8
  | 0, _, _, rest => (Char.ofNat bits, rest)
  | _ + 1, _, _, [] => (replacement, [])
  | more + 1, low, high, b :: rest =>
    if low ≤ b ∧ b ≤ high then complete (bits * 64 + (b - 0x80).toNat) more 0x80 0xBF rest
    else (replacement, b :: rest)

theorem length_complete_le (bits more : Nat) (low high : UInt8) (bytes : List UInt8) :
    (complete bits more low high bytes).2.length ≤ bytes.length := by
  induction more generalizing bits low high bytes with
  | zero => simp [complete]
  | succ more ih =>
    cases bytes with
    | nil => simp [complete]
    | cons b rest =>
      unfold complete
      split
      · exact Nat.le_succ_of_le (ih ..)
      · simp

/-- The characters of a row of bytes. -/
def decode : List UInt8 → List Char
  | [] => []
  | b :: rest =>
    if b < 0x80 then Char.ofNat b.toNat :: decode rest
    else
      match lead? b with
      | none => replacement :: decode rest
      | some lead =>
        let step := complete lead.bits lead.more lead.low lead.high rest
        step.1 :: decode step.2
termination_by bytes => bytes.length
decreasing_by
  · simp
  · simp
  · exact Nat.lt_succ_of_le (length_complete_le ..)

/-- The text of a row of bytes, with replacement characters where they are no UTF-8. -/
def text (bytes : List UInt8) : String := String.ofList (decode bytes)

/-- The bytes that encode a text. -/
def bytes (s : String) : List UInt8 := s.toUTF8.toList

/-- The text that encodes to these very bytes. -/
def strict? (encoded : List UInt8) : Option String :=
  if bytes (text encoded) = encoded then some (text encoded) else none

/-- The bytes of a C string: those before the first zero. -/
def terminated (raw : List UInt8) : List UInt8 := raw.takeWhile (· != 0)

end VulkanExec.Text.Utf8
