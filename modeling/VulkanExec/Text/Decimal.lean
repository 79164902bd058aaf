/-!
# Decimal numbers of 32 bits

A number is an optional plus sign and at least one ASCII digit. Digits are read from the left, and
the first character that cannot go on decides the fault.

## Main definitions

- `Decimal.scan`: the value of a row of digits on top of what was read before;
- `Decimal.read`: the number that a text holds, or the fault that keeps it from being one.
-/

namespace VulkanExec.Text.Decimal

/-- Why a text is no number of 32 bits. -/
inductive Fault where
  | empty
  | invalidDigit
  | tooLarge
  deriving DecidableEq, Repr

def Fault.message : Fault → String
  | .empty => "cannot parse integer from empty string"
  | .invalidDigit => "invalid digit found in string"
  | .tooLarge => "number too large to fit in target type"

/-- The value of an ASCII digit. -/
def digit? (c : Char) : Option Nat :=
  if 48 ≤ c.toNat ∧ c.toNat ≤ 57 then some (c.toNat - 48) else none

/-- Append the digits of `cs` to the number `acc`. A character that is no digit is reported before
the overflow that it would cause. -/
def scan (acc : Nat) : List Char → Except Fault Nat
  | [] => .ok acc
  | c :: cs =>
    match digit? c with
    | none => .error .invalidDigit
    | some d => if acc * 10 + d < 2 ^ 32 then scan (acc * 10 + d) cs else .error .tooLarge

/-- The number written as an optional plus sign and digits. A sign alone is a wrong digit. -/
def readChars : List Char → Except Fault Nat
  | [] => .error .empty
  | ['+'] => .error .invalidDigit
  | '+' :: cs => scan 0 cs
  | cs => scan 0 cs

/-- The 32-bit number that a text holds. -/
def read (s : String) : Except Fault UInt32 := (readChars s.toList).map Nat.toUInt32

end VulkanExec.Text.Decimal
