import Mathlib.Algebra.Group.Nat.Defs
import Mathlib.Logic.Function.Basic

/-!
# Decimal numbers in ASCII

A number with a fixed count of digits, the first digit first.
-/

namespace UsbBulk

/-- `'0' + digit`. -/
def digitByte (digit : Nat) : BitVec 8 :=
  BitVec.ofNat 8 (digit + 0x30)

def IsDigit (byte : BitVec 8) : Prop :=
  0x30 ≤ byte.toNat ∧ byte.toNat ≤ 0x39

instance (byte : BitVec 8) : Decidable (IsDigit byte) :=
  inferInstanceAs (Decidable (_ ∧ _))

/-- The last digits of a number, as many as there is room for. -/
def decimalDigits : Nat → Nat → List (BitVec 8)
  | 0, _ => []
  | width + 1, n => decimalDigits width (n / 10) ++ [digitByte (n % 10)]

/-- The number that a row of digits stands for. -/
def decimalValue (bytes : List (BitVec 8)) : Nat :=
  bytes.foldl (fun value byte => 10 * value + (byte.toNat - 0x30)) 0

section Digits

variable {digit width n : Nat} {byte : BitVec 8}

theorem digitByte_toNat (isDigit : digit < 10) :
    (digitByte digit).toNat = digit + 0x30 := by
  rw [digitByte, BitVec.toNat_ofNat, Nat.mod_eq_of_lt (by omega)]

theorem digitByte_isDigit (isDigit : digit < 10) : IsDigit (digitByte digit) := by
  rw [IsDigit, digitByte_toNat isDigit]
  omega

theorem IsDigit.ne_zero (isDigit : IsDigit byte) : byte ≠ 0 := by
  rintro rfl
  exact absurd isDigit (by decide)

@[simp] theorem length_decimalDigits (width n : Nat) :
    (decimalDigits width n).length = width := by
  induction width generalizing n with
  | zero => rfl
  | succ width ih => simp [decimalDigits, ih]

theorem isDigit_of_mem (member : byte ∈ decimalDigits width n) :
    IsDigit byte := by
  induction width generalizing n with
  | zero => exact absurd member List.not_mem_nil
  | succ width ih =>
      rcases List.mem_append.mp member with earlier | last
      · exact ih earlier
      · obtain rfl := List.mem_singleton.mp last
        exact digitByte_isDigit (Nat.mod_lt n (by decide))

theorem decimalDigits_zero (width : Nat) :
    decimalDigits width 0 = List.replicate width (digitByte 0) := by
  induction width with
  | zero => rfl
  | succ width ih =>
      rw [decimalDigits, Nat.zero_div, ih, List.replicate_succ']

/-- The digits are read back. -/
theorem decimalValue_decimalDigits (fits : n < 10 ^ width) :
    decimalValue (decimalDigits width n) = n := by
  induction width generalizing n with
  | zero =>
      rw [Nat.lt_one_iff.mp fits]
      rfl
  | succ width ih =>
      have rest : n / 10 < 10 ^ width := by
        rw [Nat.pow_succ] at fits
        omega
      have higher := ih rest
      rw [decimalValue] at higher
      rw [decimalValue, decimalDigits, List.foldl_append, higher, List.foldl_cons,
        List.foldl_nil, digitByte_toNat (Nat.mod_lt n (by decide)),
        Nat.add_sub_cancel]
      exact Nat.div_add_mod n 10

end Digits

end UsbBulk
