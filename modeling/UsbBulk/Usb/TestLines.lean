import UsbBulk.Usb.Utils

/-!
# The lines of the second test (`task_ep2_tx_func`)

Each packet of the IN pipe is a line of text with its number.
-/

namespace UsbBulk

/-- `ptr[i] = ' '` for `i` from here on. -/
def blankLoop (mem : Word → Byte) (ptr : Word) : Nat → Nat → (Word → Byte)
  | _, 0 => mem
  | i, rounds + 1 =>
      blankLoop (Function.update mem (ptr + BitVec.ofNat 32 i) 0x20) ptr (i + 1)
        rounds

/-- "Fill buf by user's data". -/
def fillBlock (fuel : Nat) (mem : Word → Byte) (ptr : Word) (cnt : Int) :
    Option (Word → Byte) := do
  let (mem, _) := sMemset mem ptr 0x30 12
  let (mem, _) ← sItoa fuel mem ptr cnt
  let mem := blankLoop mem ptr 12 50
  let mem := Function.update mem (ptr + 62) 0x0d
  some (Function.update mem (ptr + 63) 0x0a)

/-- The counter of the task, and the blocks that it has passed to `tn_queue_send`. -/
structure Ep2Tx where
  cnt : Word
  sent : List (List Byte)

/-- A round of the loop, from what `tn_fmem_get` has answered and the memory then. -/
def ep2TxRound (fuel : Nat) (task : Ep2Tx)
    (got : Option Word × (Word → Byte)) : Option Ep2Tx :=
  match got with
  | (none, _) => some task
  | (some ptr, mem) => do
      let mem ← fillBlock fuel mem ptr task.cnt.toInt
      some ⟨task.cnt + 1, task.sent ++ [readBytes mem ptr 64]⟩

/-- Rounds of the loop, whatever happens to the memory between them. -/
def taskEp2TxFunc (fuel : Nat) (rounds : List (Option Word × (Word → Byte))) :
    Option Ep2Tx :=
  rounds.foldlM (ep2TxRound fuel) ⟨0, []⟩

/-- The number in front, blanks up to the line end. -/
def testLine (i : Nat) : List Byte :=
  decimalDigits 12 i ++ (List.replicate 50 0x20 ++ [0x0d, 0x0a])

section Fill

variable {fuel : Nat} {mem : Word → Byte} {ptr : Word}

theorem blankLoop_eq (i rounds : Nat) :
    blankLoop mem ptr i rounds =
      storeBytes mem (ptr + BitVec.ofNat 32 i) (List.replicate rounds 0x20) := by
  induction rounds generalizing mem i with
  | zero => rfl
  | succ rounds ih =>
      have next : ptr + BitVec.ofNat 32 (i + 1) =
          ptr + BitVec.ofNat 32 i + 1 :=
        (address_add ptr i 1).symm
      rw [blankLoop, ih, next]
      rfl

theorem blanks_eq :
    Function.update (Function.update (blankLoop mem ptr 12 50) (ptr + 62) 0x0d)
        (ptr + 63) 0x0a =
      storeBytes mem (ptr + BitVec.ofNat 32 12)
        (List.replicate 50 0x20 ++ [0x0d, 0x0a]) := by
  have second : ptr + 62 + 1 = ptr + 63 := by bv_omega
  rw [storeBytes_append, ← blankLoop_eq, address_add, List.length_replicate]
  show _ = storeBytes _ (ptr + 62) [0x0d, 0x0a]
  rw [storeBytes, storeBytes, storeBytes, second]

theorem sMemset_eq (length : Nat) :
    (sMemset mem ptr 0x30 length).1 =
      storeBytes mem ptr (List.replicate length (digitByte 0)) :=
  memsetLoop_eq _ length

theorem readBytes_behind (bytes : List Byte) (width : Nat)
    (fits : width + bytes.length ≤ 2 ^ 32) :
    readBytes (storeBytes mem (ptr + BitVec.ofNat 32 width) bytes) ptr
        (width + bytes.length) =
      readBytes mem ptr width ++ bytes := by
  rw [readBytes_add, readBytes_storeBytes bytes (by omega)]
  refine congrArg (· ++ bytes) (readBytes_congr fun j inside => ?_)
  refine storeBytes_outside bytes (by omega) ?_
  bv_omega

/-- The block becomes the line of the counter, and nothing else is written. -/
theorem fillBlock_line (enough : 12 ≤ fuel) {i : Nat} (fits : i < 10 ^ 12) :
    ∃ after, fillBlock fuel mem ptr i = some after ∧
      readBytes after ptr 64 = testLine i ∧
      ∀ address, (∀ j < 64, address ≠ ptr + BitVec.ofNat 32 j) →
        after address = mem address := by
  let zeros := List.replicate 12 (digitByte 0)
  let zeroed := storeBytes mem ptr zeros
  let started := Function.update zeroed (ptr + BitVec.ofNat 32 12) 0
  let rest : List Byte := List.replicate 50 0x20 ++ [0x0d, 0x0a]
  have startedZeros : readBytes started ptr 12 = zeros :=
    (readBytes_update_end (by omega) _).trans
      (readBytes_storeBytes zeros (by simp [zeros]))
  obtain ⟨numbered, first, ran, digits, kept⟩ :=
    itoaLoop_digits enough (by omega) (by omega) fits startedZeros
  refine ⟨storeBytes numbered (ptr + BitVec.ofNat 32 12) rest, ?_, ?_,
    fun address outside => ?_⟩
  · have ran : sItoa fuel (sMemset mem ptr 0x30 12).1 ptr i =
        some (numbered, first) := by
      rw [sMemset_eq]
      exact ran
    rw [← blanks_eq]
    simp [fillBlock, ran]
  · exact (readBytes_behind rest 12 (by simp [rest])).trans
      (congrArg (· ++ rest) digits)
  · have far := (outside_iff address).mp outside
    have behind : rest.length ≤
        (address - (ptr + BitVec.ofNat 32 12)).toNat := by
      simp only [rest, List.length_append, List.length_replicate,
        List.length_cons, List.length_nil]
      bv_omega
    calc
      _ = numbered address := storeBytes_outside rest (by simp [rest]) behind
      _ = started address := kept address (by omega)
      _ = zeroed address := update_end_outside (show 12 < 2 ^ 32 by decide) _ (by omega)
      _ = mem address :=
        storeBytes_outside zeros (by simp [zeros])
          (Nat.le_trans (show zeros.length ≤ 64 by simp [zeros]) far)

end Fill

/-! ## The number of a line -/

/-- What a reader of the file takes from a line. -/
def lineNumber (line : List Byte) : Nat :=
  decimalValue (line.take 12)

theorem lineNumber_testLine {i : Nat} (fits : i < 10 ^ 12) :
    lineNumber (testLine i) = i := by
  rw [lineNumber, testLine, List.take_left' (length_decimalDigits 12 i),
    decimalValue_decimalDigits fits]

theorem zero_notMem_testLine (i : Nat) : (0 : Byte) ∉ testLine i := by
  intro member
  rcases List.mem_append.mp member with digit | rest
  · exact (isDigit_of_mem digit).ne_zero rfl
  · exact absurd rest (by decide)

/-! ## The whole run -/

section Run

variable {fuel : Nat} {rounds : List (Option Word × (Word → Byte))}

/-- The blocks that `tn_fmem_get` has handed out. -/
def blockCount (rounds : List (Option Word × (Word → Byte))) : Nat :=
  rounds.countP (·.1.isSome)

/-- After `n` packets. -/
def Ep2Tx.after (n : Nat) : Ep2Tx where
  cnt := BitVec.ofNat 32 n
  sent := (List.range n).map testLine

theorem Ep2Tx.after_numbers {n : Nat} (small : n ≤ 2 ^ 31) :
    (Ep2Tx.after n).sent.map lineNumber = List.range n := by
  have each : ∀ i ∈ List.range n, (lineNumber ∘ testLine) i = id i := by
    intro i member
    have below := List.mem_range.mp member
    rw [Function.comp_apply, lineNumber_testLine (by omega)]
    rfl
  calc
    _ = (List.range n).map (lineNumber ∘ testLine) := List.map_map
    _ = (List.range n).map id := List.map_congr_left each
    _ = _ := List.map_id _

theorem ep2TxRound_line (enough : 12 ≤ fuel) {n : Nat} (small : n < 2 ^ 31)
    (mem : Word → Byte) (ptr : Word) :
    ep2TxRound fuel (.after n) (some ptr, mem) = some (.after (n + 1)) := by
  have toNat : (BitVec.ofNat 32 n).toNat = n := by
    rw [BitVec.toNat_ofNat, Nat.mod_eq_of_lt (by omega)]
  have counter : (BitVec.ofNat 32 n).toInt = n := by
    rw [BitVec.toInt_eq_toNat_of_lt (by omega), toNat]
  obtain ⟨filled, ran, line, -⟩ :
      ∃ filled, fillBlock fuel mem ptr n = some filled ∧
        readBytes filled ptr 64 = testLine n ∧ _ :=
    fillBlock_line enough (by omega)
  simp only [ep2TxRound, Ep2Tx.after, counter, ran, List.range_succ]
  simp [line, BitVec.ofNat_add]

theorem ep2TxRounds_lines (enough : 12 ≤ fuel) (n : Nat)
    (small : n + blockCount rounds ≤ 2 ^ 31) :
    rounds.foldlM (ep2TxRound fuel) (.after n) =
      some (.after (n + blockCount rounds)) := by
  induction rounds generalizing n with
  | nil => rfl
  | cons round rounds ih =>
      obtain ⟨got, mem⟩ := round
      rw [List.foldlM_cons]
      cases got with
      | none => exact ih n small
      | some ptr =>
          have more : blockCount ((some ptr, mem) :: rounds) =
              blockCount rounds + 1 := by
            simp [blockCount]
          rw [more] at small ⊢
          rw [ep2TxRound_line enough (by omega)]
          refine (ih (n + 1) (by omega)).trans ?_
          rw [Nat.add_right_comm, Nat.add_assoc]

end Run

/-- The lines carry the packet counter. -/
theorem testLines_count (fuel : Nat) (enough : 12 ≤ fuel) :
    (∀ (mem : Word → Byte) (ptr : Word) (i : Int), 0 ≤ i → i < 2 ^ 31 →
      ∃ after digits, fillBlock fuel mem ptr i = some after ∧
        readBytes after ptr 64 =
          digits ++ (List.replicate 50 0x20 ++ [0x0d, 0x0a]) ∧
        digits.length = 12 ∧ (∀ digit ∈ digits, IsDigit digit) ∧
        (decimalValue digits : Int) = i ∧
        (∀ address, (∀ j < 64, address ≠ ptr + BitVec.ofNat 32 j) →
          after address = mem address) ∧
        0 ∉ readBytes after ptr 64) ∧
    ∀ rounds, blockCount rounds ≤ 2 ^ 31 →
      ∃ task, taskEp2TxFunc fuel rounds = some task ∧
        task.sent.map lineNumber = List.range (blockCount rounds) := by
  refine ⟨fun mem ptr i nonneg isInt => ?_, fun rounds small => ?_⟩
  · obtain ⟨n, rfl⟩ := Int.eq_ofNat_of_zero_le nonneg
    have fits : n < 10 ^ 12 := by omega
    obtain ⟨after, filled, line, outside⟩ :
        ∃ after, fillBlock fuel mem ptr n = some after ∧
          readBytes after ptr 64 = testLine n ∧ _ :=
      fillBlock_line enough fits
    refine ⟨after, decimalDigits 12 n, filled, line, length_decimalDigits 12 n,
      fun digit => isDigit_of_mem, ?_, outside, ?_⟩
    · rw [decimalValue_decimalDigits fits]
    · rw [line]
      exact zero_notMem_testLine n
  · have ran := ep2TxRounds_lines enough 0
      (show 0 + blockCount rounds ≤ 2 ^ 31 by omega)
    rw [Nat.zero_add] at ran
    refine ⟨_, ran, ?_⟩
    exact Ep2Tx.after_numbers small

/-- Two packets, with a failed call between them. -/
theorem testLines_count_two :
    12 ≤ 12 ∧ ∃ task, taskEp2TxFunc 12 [(some 0x40002000, fun _ => 0),
        (none, fun _ => 0), (some 0x40002040, fun _ => 0xff)] = some task ∧
      task.sent.map lineNumber = [0, 1] := by
  obtain ⟨task, ran, lines⟩ := (testLines_count 12 (Nat.le_refl 12)).2
    [(some 0x40002000, fun _ => 0), (none, fun _ => 0),
      (some 0x40002040, fun _ => 0xff)] (show 2 ≤ 2 ^ 31 by omega)
  exact ⟨Nat.le_refl 12, task, ran, lines.trans rfl⟩

end UsbBulk
