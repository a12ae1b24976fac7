import Mathlib.Algebra.Group.Nat.Defs
import Mathlib.Logic.Function.Basic

/-!
# Bytes in memory

Storing a row of bytes, and copying one row to the place of another.  Addresses
wrap around.
-/

namespace UsbBulk

section Rows

variable {α : Type} {mem : BitVec 32 → α}
variable {address dst src : BitVec 32} {i k m n : Nat}

/-! ## Offsets -/

theorem address_succ (address : BitVec 32) (n : Nat) :
    address + 1 + BitVec.ofNat 32 n = address + BitVec.ofNat 32 (n + 1) := by
  rw [BitVec.ofNat_add]
  bv_omega

theorem address_add (address : BitVec 32) (m n : Nat) :
    address + BitVec.ofNat 32 m + BitVec.ofNat 32 n =
      address + BitVec.ofNat 32 (m + n) := by
  rw [BitVec.ofNat_add, BitVec.add_assoc]

theorem offset_toNat (address : BitVec 32) (small : i < 2 ^ 32) :
    (address + BitVec.ofNat 32 i - address).toNat = i := by
  rw [BitVec.add_comm, BitVec.add_sub_cancel, BitVec.toNat_ofNat,
    Nat.mod_eq_of_lt small]

/-- Every address has an offset. -/
theorem add_offset (address other : BitVec 32) :
    address + BitVec.ofNat 32 (other - address).toNat = other := by
  rw [BitVec.ofNat_toNat, BitVec.setWidth_eq, BitVec.add_comm,
    BitVec.sub_add_cancel]

theorem offset_inj {j : Nat} (address : BitVec 32) (small : i < 2 ^ 32)
    (small' : j < 2 ^ 32) :
    address + BitVec.ofNat 32 i = address + BitVec.ofNat 32 j ↔ i = j := by
  constructor
  · intro equal
    rw [← offset_toNat address small, equal, offset_toNat address small']
  · rintro rfl
    rfl

/-- An address is outside a row when its offset is too large. -/
theorem outside_iff (other : BitVec 32) :
    (∀ i < n, other ≠ address + BitVec.ofNat 32 i) ↔
      n ≤ (other - address).toNat := by
  constructor
  · intro outside
    by_contra inside
    exact outside _ (Nat.lt_of_not_le inside) (add_offset address other).symm
  · rintro large i inside rfl
    rw [offset_toNat address (by omega)] at large
    omega

/-! ## Storing -/

/-- `*address++ = byte` for each byte. -/
def storeBytes (mem : BitVec 32 → α) (address : BitVec 32) :
    List α → (BitVec 32 → α)
  | [] => mem
  | byte :: bytes =>
      storeBytes (Function.update mem address byte) (address + 1) bytes

/-- The `n` bytes at `dst` are those that were at `src`. -/
def copyBytes (mem : BitVec 32 → α) (dst src : BitVec 32) (n : Nat) :
    BitVec 32 → α :=
  fun address =>
    if (address - dst).toNat < n then mem (src + (address - dst))
    else mem address

/-- The two rows of `n` bytes have no byte in common. -/
def RowsApart (n : Nat) (dst src : BitVec 32) : Prop :=
  ∀ i < n, ∀ j < n, dst + BitVec.ofNat 32 i ≠ src + BitVec.ofNat 32 j

theorem storeBytes_apply (bytes : List α) (fits : bytes.length ≤ 2 ^ 32)
    (other : BitVec 32) :
    storeBytes mem address bytes other =
      (bytes[(other - address).toNat]?).getD (mem other) := by
  induction bytes generalizing mem address with
  | nil => rfl
  | cons byte bytes ih =>
      rw [List.length_cons] at fits
      rw [storeBytes, ih (by omega)]
      by_cases first : other = address
      · have last : (other - (address + 1)).toNat = 2 ^ 32 - 1 := by
          rw [first]
          bv_omega
        rw [last, List.getElem?_eq_none (by omega), first, BitVec.sub_self,
          Function.update_self]
        rfl
      · have later : (other - address).toNat =
            (other - (address + 1)).toNat + 1 := by
          bv_omega
        rw [later, List.getElem?_cons_succ, Function.update_of_ne first]

theorem storeBytes_append (bytes bytes' : List α) :
    storeBytes mem address (bytes ++ bytes') =
      storeBytes (storeBytes mem address bytes)
        (address + BitVec.ofNat 32 bytes.length) bytes' := by
  induction bytes generalizing mem address with
  | nil =>
      rw [List.nil_append, List.length_nil, BitVec.add_zero]
      rfl
  | cons byte bytes ih =>
      rw [List.cons_append, storeBytes, storeBytes, ih, List.length_cons,
        address_succ]

theorem storeBytes_inside (bytes : List α) (fits : bytes.length ≤ 2 ^ 32)
    (inside : i < bytes.length) :
    storeBytes mem address bytes (address + BitVec.ofNat 32 i) = bytes[i] := by
  rw [storeBytes_apply bytes fits, offset_toNat address (by omega),
    List.getElem?_eq_getElem inside, Option.getD_some]

theorem storeBytes_outside {other : BitVec 32} (bytes : List α)
    (fits : bytes.length ≤ 2 ^ 32)
    (outside : bytes.length ≤ (other - address).toNat) :
    storeBytes mem address bytes other = mem other := by
  rw [storeBytes_apply bytes fits, List.getElem?_eq_none outside,
    Option.getD_none]

/-- Storing what has been read is copying. -/
theorem storeBytes_range (fits : n ≤ 2 ^ 32) :
    storeBytes mem dst
        ((List.range n).map fun i => mem (src + BitVec.ofNat 32 i)) =
      copyBytes mem dst src n := by
  funext other
  rw [storeBytes_apply _ (by simpa using fits), copyBytes]
  split
  case isTrue inside =>
    rw [List.getElem?_map, List.getElem?_range inside, Option.map_some,
      Option.getD_some, BitVec.ofNat_toNat, BitVec.setWidth_eq]
  case isFalse outside =>
    rw [List.getElem?_eq_none (by simpa using outside), Option.getD_none]

/-! ## Copying -/

theorem copyBytes_zero (mem : BitVec 32 → α) (dst src : BitVec 32) :
    copyBytes mem dst src 0 = mem :=
  rfl

/-- A copy, seen from its destination. -/
theorem copyBytes_offset (small : i < 2 ^ 32) :
    copyBytes mem dst src n (dst + BitVec.ofNat 32 i) =
      if i < n then mem (src + BitVec.ofNat 32 i)
      else mem (dst + BitVec.ofNat 32 i) := by
  rw [copyBytes, offset_toNat dst small, BitVec.add_comm dst,
    BitVec.add_sub_cancel]

theorem copyBytes_outside {other : BitVec 32}
    (outside : ∀ i < n, other ≠ dst + BitVec.ofNat 32 i) :
    copyBytes mem dst src n other = mem other := by
  rw [copyBytes, if_neg (Nat.not_lt.mpr ((outside_iff other).mp outside))]

/-- A row is copied in two parts. -/
theorem copyBytes_add (apart : RowsApart (k + m) dst src)
    (fits : k + m ≤ 2 ^ 32) :
    copyBytes (copyBytes mem dst src k) (dst + BitVec.ofNat 32 k)
        (src + BitVec.ofNat 32 k) m =
      copyBytes mem dst src (k + m) := by
  funext other
  obtain ⟨i, small, rfl⟩ : ∃ i < 2 ^ 32, other = dst + BitVec.ofNat 32 i :=
    ⟨_, (other - dst).isLt, (add_offset dst other).symm⟩
  rw [copyBytes_offset small]
  by_cases second : k ≤ i ∧ i < k + m
  · -- The second part reads the source where the first one has not written.
    have target : dst + BitVec.ofNat 32 i =
        dst + BitVec.ofNat 32 k + BitVec.ofNat 32 (i - k) := by
      rw [address_add, Nat.add_sub_of_le second.1]
    rw [target, copyBytes_offset (by omega), if_pos (by omega),
      if_pos second.2, address_add, Nat.add_sub_of_le second.1]
    refine copyBytes_outside fun j inside equal => ?_
    exact apart j (by omega) i second.2 equal.symm
  · have outside : ∀ j < m, dst + BitVec.ofNat 32 i ≠
        dst + BitVec.ofNat 32 k + BitVec.ofNat 32 j := by
      intro j inside
      rw [address_add, ne_eq, offset_inj dst small (by omega)]
      omega
    rw [copyBytes_outside outside, copyBytes_offset small]
    by_cases first : i < k
    · rw [if_pos first, if_pos (by omega)]
    · rw [if_neg first, if_neg (by omega)]

end Rows

end UsbBulk
