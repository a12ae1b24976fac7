import UsbBulk.Kernel.Tasks

/-!
# Finding the first set bit

`find_next_task_to_run` without `USE_ASM_FFS` scans the bitmap bit by bit.  The
scan and the table of `ffs_asm` find the same ready list.
-/

namespace UsbBulk

/-- `TN_BITS_IN_INT`. -/
def tnBitsInInt : Nat := 32

/-- The loop over the bits from `i` on.  `tmp` stays 0 when no bit is set. -/
def scanBits (bmp : Word) : Nat → Nat → Word → Nat
  | 0, _, _ => 0
  | rounds + 1, i, mask =>
      if bmp &&& mask ≠ 0 then i
      else scanBits bmp rounds (i + 1) (mask <<< 1)

/-- The value of `tmp` without `USE_ASM_FFS`. -/
def portableScan (bmp : Word) : Nat :=
  scanBits bmp tnBitsInInt 0 1

def findNextTaskToRunPortable (k : Kernel) : Option Kernel := do
  let tmp := portableScan k.tnReadyToRunBmp
  let task ← getTaskByTskQueue (k.taskLinks.next (.head (.ready tmp)))
  some { k with tnNextTaskToRun := some task }

section Scan

variable {bmp : Word} {p : Nat}

theorem twoPow_ne_zero (small : p < 32) : BitVec.twoPow 32 p ≠ 0 := by
  intro zero
  have bit := congrArg (fun word => word.getLsbD p) zero
  simp [small] at bit

theorem and_twoPow_ne_zero (small : p < 32) :
    bmp &&& BitVec.twoPow 32 p ≠ 0 ↔ bmp.getLsbD p = true := by
  rw [BitVec.and_twoPow]
  cases bmp.getLsbD p with
  | false => simp
  | true => simpa using twoPow_ne_zero small

/-- The scan passes the clear bits below the lowest set bit. -/
theorem scanBits_lowestBit (lowest : LowestBit bmp p) (rounds i : Nat)
    (below : i ≤ p) (inside : p < i + rounds) (small : i + rounds ≤ 32) :
    scanBits bmp rounds i (BitVec.twoPow 32 i) = p := by
  induction rounds generalizing i with
  | zero => omega
  | succ rounds ih =>
      rw [scanBits]
      by_cases found : i = p
      · subst found
        rw [if_pos ((and_twoPow_ne_zero (by omega)).mpr lowest.1)]
      · have clear : ¬ bmp &&& BitVec.twoPow 32 i ≠ 0 := by
          rw [and_twoPow_ne_zero (by omega), lowest.2 i (by omega)]
          exact Bool.false_ne_true
        have next : BitVec.twoPow 32 i <<< 1 = BitVec.twoPow 32 (i + 1) := by
          rw [BitVec.twoPow_eq, BitVec.twoPow_eq, BitVec.shiftLeft_add]
        rw [if_neg clear, next]
        exact ih (i + 1) (by omega) (by omega) (by omega)

theorem portableScan_lowestBit (small : p < 32) (lowest : LowestBit bmp p) :
    portableScan bmp = p :=
  scanBits_lowestBit lowest 32 0 (Nat.zero_le p) (by omega) (Nat.le_refl 32)

/-- The shifts of `ffs_asm` multiply an isolated bit by `0x0450fbaf`. -/
theorem ffsLookup_twoPow (small : p < 32) :
    ffsLookup (BitVec.twoPow 32 p) = ffsTable.getD
      ((BitVec.twoPow 32 p * 0x0450fbaf) >>> 26).toNat 0 := by
  have every : ∀ bit : Fin 32, ffsLookup (BitVec.twoPow 32 bit) =
      ffsTable.getD ((BitVec.twoPow 32 bit * 0x0450fbaf) >>> 26).toNat 0 := by
    decide
  exact every ⟨p, small⟩

theorem ffsAsm_product (small : p < 32) (lowest : LowestBit bmp p) :
    ffsAsm bmp = ffsTable.getD
      (((bmp &&& -bmp) * 0x0450fbaf) >>> 26).toNat 0 := by
  have isolated := isolate_lowestBit small lowest
  simp only [ffsAsm, isolated]
  rw [if_neg (twoPow_ne_zero small), ffsLookup_twoPow small, ← isolated, BitVec.zero_sub]

end Scan

/-- Both ways to find the ready list give the lowest set bit. -/
theorem findFirst_agrees (bmp : Word) (nonzero : bmp ≠ 0) :
    ffsAsm 0 = 0 ∧
      (∃ p < 32, LowestBit bmp p ∧ (ffsAsm bmp : Int) - 1 = p ∧
        portableScan bmp = p) ∧
      ffsAsm bmp = ffsTable.getD
        (((bmp &&& -bmp) * 0x0450fbaf) >>> 26).toNat 0 ∧
      ∀ k : Kernel, k.tnReadyToRunBmp = bmp →
        findNextTaskToRun k = findNextTaskToRunPortable k := by
  obtain ⟨p, small, lowest⟩ := exists_lowestBit nonzero
  have assembler := ffsAsm_lowestBit small lowest
  have scan := portableScan_lowestBit small lowest
  refine ⟨ffsAsm_zero, ⟨p, small, lowest, ?_, scan⟩,
    ffsAsm_product small lowest, fun k isBmp => ?_⟩
  · rw [assembler]
    omega
  · rw [findNextTaskToRun, findNextTaskToRunPortable, isBmp, assembler, scan]

/-- A bitmap with the bits 4, 6 and 31. -/
theorem findFirst_agrees_four :
    (0x80000050 : Word) ≠ 0 ∧ ffsAsm 0x80000050 = 5 ∧
      portableScan 0x80000050 = 4 ∧
      ∀ k : Kernel, k.tnReadyToRunBmp = 0x80000050 →
        findNextTaskToRun k = findNextTaskToRunPortable k :=
  ⟨by decide, by decide, by decide,
    (findFirst_agrees 0x80000050 (by decide)).2.2.2⟩

end UsbBulk
