/-
**Decimal text.**

`decimal n` is the text `std::to_string` and `operator<<` of the classic locale write for an
unsigned number; `readDigits` reads a run of digits onto an accumulator. **`readDigits_decimal`**:
reading what was written gives the number back, whatever follows; so the text determines the
number (`decimal_injective`).
-/

import Mathlib.Data.List.Infix
import DemoDaemon.Foundation.Bytes

namespace Foundation

/-- The digit of a number below ten. -/
def digitByte (digit : Nat) : UInt8 := UInt8.ofNat (48 + digit)

def isDigit (byte : UInt8) : Bool := decide (48 ≤ byte) && decide (byte ≤ 57)

/-- The decimal text of a number. -/
def decimal (number : Nat) : Bytes :=
  (Nat.toDigits 10 number).map fun char => UInt8.ofNat char.toNat

/-- Read digits onto an accumulator, up to the first byte that is not one. -/
def readDigits : Bytes → Nat → Nat × Bytes
  | [], number => (number, [])
  | byte :: rest, number =>
    if isDigit byte then readDigits rest (10 * number + (byte.toNat - 48))
    else (number, byte :: rest)

theorem digitByte_spec {digit : Nat} (small : digit < 10) :
    UInt8.ofNat (Nat.digitChar digit).toNat = digitByte digit ∧ isDigit (digitByte digit) = true ∧
      (digitByte digit).toNat - 48 = digit := by
  have every : ∀ digit < 10, UInt8.ofNat (Nat.digitChar digit).toNat = digitByte digit ∧
      isDigit (digitByte digit) = true ∧ (digitByte digit).toNat - 48 = digit := by decide
  exact every digit small

theorem decimal_of_lt {number : Nat} (small : number < 10) :
    decimal number = [digitByte number] := by
  rw [decimal, Nat.toDigits_of_lt_base small, List.map_singleton, (digitByte_spec small).1]

/-- The last digit comes off the end. -/
theorem decimal_of_ge {number : Nat} (large : 10 ≤ number) :
    decimal number = decimal (number / 10) ++ [digitByte (number % 10)] := by
  have small : number % 10 < 10 := Nat.mod_lt _ (by decide)
  rw [decimal, Nat.toDigits_of_base_le (by decide) large, List.map_append, List.map_singleton,
    (digitByte_spec small).1]
  rfl

/-- **What was written is read back, whatever follows.** -/
theorem readDigits_decimal (number : Nat) (rest : Bytes) :
    readDigits (decimal number ++ rest) 0 = readDigits rest number := by
  induction number using Nat.strong_induction_on generalizing rest with
  | _ number ih =>
    by_cases small : number < 10
    · obtain ⟨-, digit, value⟩ := digitByte_spec small
      rw [decimal_of_lt small, List.singleton_append, readDigits, if_pos digit, value,
        Nat.mul_zero, Nat.zero_add]
    · obtain ⟨-, digit, value⟩ := digitByte_spec (Nat.mod_lt number (show 0 < 10 by decide))
      rw [decimal_of_ge (by omega), List.append_assoc, ih (number / 10) (by omega),
        List.singleton_append, readDigits, if_pos digit, value]
      congr 1
      omega

theorem decimal_injective : Function.Injective decimal := by
  intro first second same
  have read := readDigits_decimal first []
  rw [same, readDigits_decimal second []] at read
  exact (congrArg Prod.fst read).symm

theorem isDigit_of_mem_decimal {number : Nat} {byte : UInt8} (member : byte ∈ decimal number) :
    isDigit byte = true := by
  induction number using Nat.strong_induction_on with
  | _ number ih =>
    by_cases small : number < 10
    · rw [decimal_of_lt small, List.mem_singleton] at member
      rw [member]
      exact (digitByte_spec small).2.1
    · rw [decimal_of_ge (by omega), List.mem_append, List.mem_singleton] at member
      rcases member with member | rfl
      · exact ih (number / 10) (by omega) member
      · exact (digitByte_spec (Nat.mod_lt number (show 0 < 10 by decide))).2.1

theorem decimal_ne_nil (number : Nat) : decimal number ≠ [] := by
  intro empty
  rw [decimal, List.map_eq_nil_iff] at empty
  exact Nat.toDigits_ne_nil empty

end Foundation
