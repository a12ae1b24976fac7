import Mathlib.Order.Basic
import Mathlib.Data.Nat.Find
import UsbBulk.Kernel.State

/-!
# Processor dependent routines

`tn_stack_init` of `tn_port.c` and `ffs_asm` of `tn_port_asm.s`.  The second one
isolates the lowest set bit and finds its number by a multiplication and a table
look-up; the theorem below says that it does find it.
-/

namespace UsbBulk

/-- The constants that `tn_stack_init` leaves below the entry point, the
return address and above the argument, highest address first. -/
def stackFillers : List Word :=
  [0x12121212, 0x11111111, 0x10101010, 0x09090909, 0x08080808, 0x07070707,
    0x06060606, 0x05050505, 0x04040404, 0x03030303, 0x02020202, 0x01010101]

/-- Store the words of a list at `stk` and at the words below it. -/
def storeDown (mem : Word → Word) : Word → List Word → (Word → Word)
  | _, [] => mem
  | stk, value :: values =>
      storeDown (Function.update mem stk value) (stk - 4) values

/-- The address of `tn_task_exit`, the return address of every new task, is a
parameter: where the linker puts a function is not known here. -/
def tnStackInit (tnTaskExit : Word) (mem : Word → Word)
    (taskFunc stackStart param : Word) : (Word → Word) × Word :=
  (storeDown mem stackStart
    (taskFunc :: tnTaskExit :: stackFillers ++ [param, 0x13, 0x13]),
    stackStart - 64)

def ffsTable : List Nat :=
  [0, 1, 2, 13, 3, 7, 0, 14,
    4, 0, 8, 0, 0, 0, 0, 15,
    11, 5, 0, 0, 9, 0, 0, 26,
    0, 0, 0, 0, 0, 22, 28, 16,
    32, 12, 6, 0, 0, 0, 0, 0,
    10, 0, 0, 25, 0, 0, 21, 27,
    31, 0, 0, 0, 0, 24, 0, 20,
    30, 0, 23, 19, 29, 18, 17, 0]

/-- The part of `ffs_asm` that runs when a bit has been isolated. -/
def ffsLookup (r0 : Word) : Nat :=
  let r0 := r0 ||| (r0 <<< 4)
  let r0 := r0 ||| (r0 <<< 6)
  let r0 := (r0 <<< 16) - r0
  ffsTable.getD (r0 >>> 26).toNat 0

def ffsAsm (val : Word) : Nat :=
  let r1 := 0#32 - val
  let r0 := val &&& r1
  if r0 = 0 then 0 else ffsLookup r0

/-- Bit `p` is set and no lower bit is. -/
def LowestBit (bmp : Word) (p : Nat) : Prop :=
  bmp.getLsbD p = true ∧ ∀ q < p, bmp.getLsbD q = false

theorem exists_lowestBit {bmp : Word} (nonzero : bmp ≠ 0) :
    ∃ p, p < 32 ∧ LowestBit bmp p := by
  have some : ∃ p, bmp.getLsbD p = true := by
    by_contra none
    push Not at none
    exact nonzero (BitVec.eq_of_getLsbD_eq fun p _ => by simpa using none p)
  refine ⟨Nat.find some, ?_, Nat.find_spec some, fun q below => by
    simpa using Nat.find_min some below⟩
  by_contra large
  have set := Nat.find_spec some
  rw [BitVec.getLsbD_of_ge _ _ (by omega)] at set
  exact absurd set (by decide)

/-- `val & -val` keeps the lowest set bit only. -/
theorem isolate_lowestBit {bmp : Word} {p : Nat} (small : p < 32)
    (lowest : LowestBit bmp p) :
    bmp &&& (0#32 - bmp) = BitVec.twoPow 32 p := by
  obtain ⟨set, clear⟩ := lowest
  refine BitVec.eq_of_getLsbD_eq fun i below => ?_
  rw [BitVec.zero_sub, BitVec.getLsbD_and, BitVec.getLsbD_neg,
    BitVec.getLsbD_twoPow]
  rcases Nat.lt_trichotomy i p with less | rfl | greater
  · simp [clear i less, Nat.ne_of_gt less]
  · have noLower : ¬ ∃ j < i, bmp.getLsbD j = true := by
      rintro ⟨j, lower, bit⟩
      simp [clear j lower] at bit
    simp [set, small, noLower]
  · have lower : ∃ j < i, bmp.getLsbD j = true := ⟨p, greater, set⟩
    simp [lower, below, Nat.ne_of_lt greater]

theorem ffsAsm_zero : ffsAsm 0 = 0 := by decide

/-- `ffs_asm` numbers the lowest set bit, from 1. -/
theorem ffsAsm_lowestBit {bmp : Word} {p : Nat} (small : p < 32)
    (lowest : LowestBit bmp p) : ffsAsm bmp = p + 1 := by
  have table : ∀ bit : Fin 32, BitVec.twoPow 32 bit ≠ 0 ∧
      ffsLookup (BitVec.twoPow 32 bit) = bit + 1 := by
    decide
  obtain ⟨nonzero, entry⟩ := table ⟨p, small⟩
  simp only [ffsAsm, isolate_lowestBit small lowest]
  rw [if_neg nonzero]
  exact entry

end UsbBulk
