import Mathlib.Algebra.Group.Int.Defs
import UsbBulk.ByteMemory
import UsbBulk.Decimal
import UsbBulk.Usb.Ep0

/-!
# Memory and string routines (`utils.c`)

The two builds have the same text.  The copy records every access that it makes:
the processor reads and writes a half-word or a word only at a multiple of its size.
-/

namespace UsbBulk

/-! ## Copying -/

/-- A load or a store of `size` bytes. -/
structure Access where
  address : Word
  size : Nat

def Access.Aligned (access : Access) : Prop :=
  access.size ∣ access.address.toNat

instance (access : Access) : Decidable access.Aligned :=
  inferInstanceAs (Decidable (_ ∣ _))

/-- The memory, and the accesses so far. -/
structure MemoryRun where
  mem : Word → Byte
  accesses : List Access

/-- `*dst = *src` on elements of `size` bytes. -/
def MemoryRun.assign (run : MemoryRun) (size : Nat) (dst src : Word) :
    MemoryRun where
  mem := storeBytes run.mem dst (readBytes run.mem src size)
  accesses := run.accesses ++ [⟨src, size⟩, ⟨dst, size⟩]

/-- `do *dst++ = *src++; while (n -= size);` -/
def copyLoop (size : Nat) : Nat → MemoryRun → Word → Word → Int →
    Option MemoryRun
  | 0, _, _, _, _ => none
  | rounds + 1, run, dst, src, n =>
      let run := run.assign size dst src
      let n := n - size
      if n = 0 then some run
      else
        copyLoop size rounds run (dst + BitVec.ofNat 32 size)
          (src + BitVec.ofNat 32 size) n

def sMemcpy (fuel : Nat) (mem : Word → Byte) (s1 s2 : Word) (n : Int) :
    Option (MemoryRun × Word) :=
  let mask := s1 ||| s2 ||| BitVec.ofInt 32 n
  let run : MemoryRun := ⟨mem, []⟩
  if n = 0 then some (run, s1)
  else if mask &&& 1 ≠ 0 then do
    let run ← copyLoop 1 fuel run s1 s2 n
    some (run, s1)
  else if mask &&& 2 ≠ 0 then do
    let run ← copyLoop 2 fuel run s1 s2 n
    some (run, s1)
  else do
    let run ← copyLoop 4 fuel run s1 s2 n
    some (run, s1)

section Copy

variable {mem : Word → Byte} {s1 s2 dst src : Word}
variable {size rounds count : Nat} {n : Int}

theorem MemoryRun.assign_mem (run : MemoryRun) (fits : size ≤ 2 ^ 32) :
    (run.assign size dst src).mem = copyBytes run.mem dst src size :=
  storeBytes_range fits

theorem aligned_next (divides : size ∣ 2 ^ 32) {address : Word}
    (aligned : size ∣ address.toNat) :
    size ∣ (address + BitVec.ofNat 32 size).toNat := by
  rw [BitVec.toNat_add, BitVec.toNat_ofNat, Nat.add_mod_mod]
  exact (Nat.dvd_mod_iff divides).mpr (Nat.dvd_add aligned (Nat.dvd_refl size))

/-- A loop whose elements divide the length copies all of it and stops. -/
theorem copyLoop_copies (run : MemoryRun) (divides : size ∣ 2 ^ 32) (positive : 0 < count)
    (enough : count ≤ rounds) (fits : size * count ≤ 2 ^ 32)
    (apart : RowsApart (size * count) dst src)
    (dstAligned : size ∣ dst.toNat) (srcAligned : size ∣ src.toNat) :
    ∃ accesses, (∀ access ∈ accesses, access.Aligned) ∧
      copyLoop size rounds run dst src (size * count : Nat) =
        some ⟨copyBytes run.mem dst src (size * count),
          run.accesses ++ accesses⟩ := by
  induction rounds generalizing run count dst src with
  | zero => omega
  | succ rounds ih =>
      obtain ⟨rest, rfl⟩ : ∃ rest, count = rest + 1 :=
        Nat.exists_eq_succ_of_ne_zero (Nat.ne_of_gt positive)
      have sizePositive : 0 < size := Nat.pos_of_dvd_of_pos divides (by decide)
      have total : size * (rest + 1) = size + size * rest := by
        rw [Nat.mul_succ, Nat.add_comm]
      have left : ((size + size * rest : Nat) : Int) - size =
          (size * rest : Nat) := by
        omega
      have here : ∀ access ∈ [⟨src, size⟩, ⟨dst, size⟩],
          Access.Aligned access := by
        intro access member
        simp only [List.mem_cons, List.not_mem_nil, or_false] at member
        rcases member with rfl | rfl
        · exact srcAligned
        · exact dstAligned
      rw [total] at fits apart ⊢
      rw [copyLoop, left]
      by_cases last : rest = 0
      · refine ⟨_, here, ?_⟩
        simp only [last, Nat.mul_zero, Int.natCast_zero, if_pos, Nat.add_zero]
        rw [← run.assign_mem (by omega)]
        rfl
      · have more : ((size * rest : Nat) : Int) ≠ 0 := by
          rw [Int.natCast_ne_zero]
          exact Nat.mul_ne_zero (Nat.ne_of_gt sizePositive) last
        have smaller : RowsApart (size * rest) (dst + BitVec.ofNat 32 size)
            (src + BitVec.ofNat 32 size) := by
          intro i inside j inside'
          rw [address_add, address_add]
          exact apart _ (by omega) _ (by omega)
        obtain ⟨later, aligned, ran⟩ := ih (run.assign size dst src)
          (Nat.pos_of_ne_zero last) (Nat.le_of_succ_le_succ enough) (by omega)
          smaller (aligned_next divides dstAligned) (aligned_next divides srcAligned)
        refine ⟨[⟨src, size⟩, ⟨dst, size⟩] ++ later, ?_, ?_⟩
        · intro access member
          rcases List.mem_append.mp member with first | second
          · exact here access first
          · exact aligned access second
        · rw [if_neg more, ran, run.assign_mem (by omega),
            copyBytes_add apart fits, MemoryRun.assign, List.append_assoc]

theorem dvd_of_and (k : Nat) (small : k ≤ 32) {word : Word}
    (clear : word &&& BitVec.ofNat 32 (2 ^ k - 1) = 0#32) : 2 ^ k ∣ word.toNat := by
  have bits := congrArg BitVec.toNat clear
  have bound : 2 ^ k ≤ 2 ^ 32 := Nat.pow_le_pow_right (by decide) small
  rw [BitVec.toNat_and, BitVec.toNat_ofNat, Nat.mod_eq_of_lt (by omega),
    Nat.and_two_pow_sub_one_eq_mod] at bits
  exact Nat.dvd_of_mod_eq_zero bits

theorem copyLoop_masked (k : Nat) (small : k ≤ 2) (isSize : 2 ^ k = size)
    (positive : 0 < n)
    (isInt : n < 2 ^ 31) (apart : RowsApart n.toNat s1 s2)
    (enough : n ≤ rounds)
    (clear : (s1 ||| s2 ||| BitVec.ofInt 32 n) &&&
      BitVec.ofNat 32 (2 ^ k - 1) = 0#32) :
    ∃ run, copyLoop size rounds ⟨mem, []⟩ s1 s2 n = some run ∧
      (∀ access ∈ run.accesses, access.Aligned) ∧
      run.mem = copyBytes mem s1 s2 n.toNat := by
  subst isSize
  obtain ⟨length, rfl⟩ := Int.eq_ofNat_of_zero_le (Int.le_of_lt positive)
  rw [BitVec.and_or_distrib_right, BitVec.and_or_distrib_right,
    BitVec.or_eq_zero_iff, BitVec.or_eq_zero_iff] at clear
  obtain ⟨⟨clear1, clear2⟩, clearLength⟩ := clear
  obtain ⟨count, isCount⟩ := dvd_of_and k (by omega) clearLength
  rw [BitVec.ofInt_natCast, BitVec.toNat_ofNat, Nat.mod_eq_of_lt (by omega)]
    at isCount
  subst isCount
  have power : 1 ≤ 2 ^ k := Nat.one_le_two_pow
  have shorter : count ≤ 2 ^ k * count := Nat.le_mul_of_pos_left count power
  have nonempty : 0 < count := Nat.pos_of_ne_zero (by rintro rfl; simp at positive)
  obtain ⟨accesses, aligned, ran⟩ := copyLoop_copies ⟨mem, []⟩
    (Nat.pow_dvd_pow 2 (show k ≤ 32 by omega)) nonempty
    (show count ≤ rounds by omega) (by omega) apart
    (dvd_of_and k (by omega) clear1) (dvd_of_and k (by omega) clear2)
  exact ⟨_, ran, aligned, rfl⟩

theorem readBytes_copyBytes (length : Nat) (small : length ≤ 2 ^ 32) :
    readBytes (copyBytes mem dst src length) dst length =
      readBytes mem src length := by
  refine List.map_congr_left fun i member => ?_
  have inside := List.mem_range.mp member
  rw [copyBytes_offset (by omega), if_pos inside]

theorem sMemcpy_masked {fuel : Nat} (nonneg : 0 ≤ n) (isInt : n < 2 ^ 31)
    (apart : RowsApart n.toNat s1 s2) (enough : n ≤ fuel) :
    ∃ run, sMemcpy fuel mem s1 s2 n = some (run, s1) ∧
      (∀ access ∈ run.accesses, access.Aligned) ∧
      run.mem = copyBytes mem s1 s2 n.toNat := by
  unfold sMemcpy
  by_cases nothing : n = 0
  · subst nothing
    exact ⟨_, rfl, by simp, (copyBytes_zero ..).symm⟩
  have positive : 0 < n := by omega
  simp only [if_neg nothing]
  split
  case isTrue odd =>
    obtain ⟨run, ran, aligned, copied⟩ := copyLoop_masked 0 (by omega)
      (show 2 ^ 0 = 1 from rfl) positive isInt apart enough BitVec.and_zero
    exact ⟨run, by simp [ran], aligned, copied⟩
  case isFalse even =>
    have even := not_not.mp even
    split
    case isTrue half =>
      obtain ⟨run, ran, aligned, copied⟩ := copyLoop_masked 1 (by omega)
        (show 2 ^ 1 = 2 from rfl) positive isInt apart enough even
      exact ⟨run, by simp [ran], aligned, copied⟩
    case isFalse whole =>
      have whole := not_not.mp whole
      have both : (s1 ||| s2 ||| BitVec.ofInt 32 n) &&&
          BitVec.ofNat 32 (2 ^ 2 - 1) = 0#32 := by
        rw [show BitVec.ofNat 32 (2 ^ 2 - 1) = 1 ||| 2 by decide,
          BitVec.and_or_distrib_left, even, whole]
        rfl
      obtain ⟨run, ran, aligned, copied⟩ := copyLoop_masked 2 (by omega)
        (show 2 ^ 2 = 4 from rfl) positive isInt apart enough both
      exact ⟨run, by simp [ran], aligned, copied⟩

/-- The word-wise copy agrees with the byte-wise copy. -/
theorem sMemcpy_copies (fuel : Nat) (mem : Word → Byte) (s1 s2 : Word) (n : Int)
    (nonneg : 0 ≤ n) (isInt : n < 2 ^ 31) (apart : RowsApart n.toNat s1 s2)
    (enough : n ≤ fuel) :
    ∃ run, sMemcpy fuel mem s1 s2 n = some (run, s1) ∧
      (∀ access ∈ run.accesses, access.Aligned) ∧
      readBytes run.mem s1 n.toNat = readBytes mem s2 n.toNat ∧
      (∀ address, (∀ i < n.toNat, address ≠ s1 + BitVec.ofNat 32 i) →
        run.mem address = mem address) ∧
      (0 < n → ∃ bytewise, copyLoop 1 fuel ⟨mem, []⟩ s1 s2 n = some bytewise ∧
        run.mem = bytewise.mem) := by
  obtain ⟨run, ran, aligned, copied⟩ := sMemcpy_masked nonneg isInt apart enough
  refine ⟨run, ran, aligned, ?_, fun address outside => ?_, fun positive => ?_⟩
  · rw [copied]
    exact readBytes_copyBytes _ (by omega)
  · rw [copied]
    exact copyBytes_outside outside
  · obtain ⟨bytewise, ranToo, -, copiedToo⟩ := copyLoop_masked 0 (by omega)
      (show 2 ^ 0 = 1 from rfl) positive isInt apart enough BitVec.and_zero
    exact ⟨bytewise, ranToo, copied.trans copiedToo.symm⟩

/-- Six bytes between two half-words. -/
theorem sMemcpy_copies_six :
    (0 : Int) ≤ 6 ∧ (6 : Int) < 2 ^ 31 ∧ RowsApart 6 0x40001002 0x40002004 ∧
      ∃ run, sMemcpy 6 (fun address => address.setWidth 8) 0x40001002
          0x40002004 6 = some (run, 0x40001002) ∧
        (∀ access ∈ run.accesses, access.Aligned) ∧
        readBytes run.mem 0x40001002 6 = [4, 5, 6, 7, 8, 9] := by
  have apart : RowsApart 6 0x40001002 0x40002004 := by
    unfold RowsApart
    decide
  obtain ⟨run, ran, aligned, copied, -⟩ := sMemcpy_copies 6
    (fun address => address.setWidth 8) 0x40001002 0x40002004 6 (by decide)
    (by decide) apart (by decide)
  exact ⟨by decide, by decide, apart, run, ran, aligned,
    copied.trans (by decide)⟩

end Copy

/-! ## Filling -/

/-- `while (length--) *++ptr = ch;` -/
def memsetLoop (mem : Word → Byte) (ptr : Word) (ch : Byte) :
    Nat → (Word → Byte)
  | 0 => mem
  | length + 1 =>
      let ptr := ptr + 1
      memsetLoop (Function.update mem ptr ch) ptr ch length

/-- The length is not negative where the routine is called. -/
def sMemset (mem : Word → Byte) (dst : Word) (ch : Int) (length : Nat) :
    (Word → Byte) × Word :=
  (memsetLoop mem (dst - 1) (BitVec.ofInt 8 ch) length, dst)

/-- The loop of `s_itoa`.  It writes the digits backwards. -/
def itoaLoop : Nat → (Word → Byte) → Word → Int →
    Option ((Word → Byte) × Word)
  | 0, _, _, _ => none
  | rounds + 1, mem, ptr, i =>
      let ptr := ptr - 1
      let mem := Function.update mem ptr (BitVec.ofInt 8 (i.tmod 10 + 0x30))
      let i := i.tdiv 10
      if i > 0 then itoaLoop rounds mem ptr i else some (mem, ptr)

def sItoa (fuel : Nat) (mem : Word → Byte) (buffer : Word) (i : Int) :
    Option ((Word → Byte) × Word) :=
  let ptr := buffer + 12
  let mem := Function.update mem ptr 0
  itoaLoop fuel mem ptr i

section Fill

variable {mem : Word → Byte} {address buffer : Word} {rounds width i : Nat}

theorem memsetLoop_eq (ch : Byte) (length : Nat) :
    memsetLoop mem (address - 1) ch length =
      storeBytes mem address (List.replicate length ch) := by
  induction length generalizing mem address with
  | zero => rfl
  | succ length ih =>
      have next : address - 1 + 1 = address + 1 - 1 := by bv_omega
      have here : address + 1 - 1 = address := by bv_omega
      rw [memsetLoop, next, ih, here]
      rfl

theorem readBytes_succ (mem : Word → Byte) (address : Word) (n : Nat) :
    readBytes mem address (n + 1) =
      readBytes mem address n ++ [mem (address + BitVec.ofNat 32 n)] := by
  rw [readBytes, List.range_succ, List.map_append]
  rfl

theorem readBytes_congr {mem' : Word → Byte} {n : Nat}
    (same : ∀ i < n, mem' (address + BitVec.ofNat 32 i) =
      mem (address + BitVec.ofNat 32 i)) :
    readBytes mem' address n = readBytes mem address n :=
  List.map_congr_left fun i member => same i (List.mem_range.mp member)

theorem readBytes_add (mem : Word → Byte) (address : Word) (m n : Nat) :
    readBytes mem address (m + n) = readBytes mem address m ++
      readBytes mem (address + BitVec.ofNat 32 m) n := by
  rw [readBytes, List.range_add, List.map_append, List.map_map]
  refine congrArg _ (List.map_congr_left fun i _ => ?_)
  rw [Function.comp_apply, ← address_add]

theorem readBytes_storeBytes (bytes : List Byte)
    (fits : bytes.length ≤ 2 ^ 32) :
    readBytes (storeBytes mem address bytes) address bytes.length = bytes := by
  refine List.ext_getElem (by simp [readBytes]) fun i _ inside => ?_
  simp only [readBytes, List.getElem_map, List.getElem_range]
  exact storeBytes_inside bytes fits inside

theorem readBytes_update_end (small : width < 2 ^ 32) (byte : Byte) :
    readBytes (Function.update mem (buffer + BitVec.ofNat 32 width) byte)
      buffer width = readBytes mem buffer width := by
  refine readBytes_congr fun j inside => Function.update_of_ne ?_ _ _
  rw [ne_eq, offset_inj buffer (by omega) small]
  omega

theorem update_end_outside (small : width < 2 ^ 32) (byte : Byte) {other : Word}
    (outside : width + 1 ≤ (other - buffer).toNat) :
    Function.update mem (buffer + BitVec.ofNat 32 width) byte other =
      mem other := by
  refine Function.update_of_ne ?_ _ _
  rintro rfl
  rw [offset_toNat buffer small] at outside
  omega

/-- `(i % 10) + '0'`. -/
theorem lastDigit_eq (i : Nat) :
    BitVec.ofInt 8 ((i : Int).tmod 10 + 0x30) = digitByte (i % 10) := by
  rw [Int.tmod_eq_emod_of_nonneg (Int.natCast_nonneg i)]
  exact BitVec.ofInt_natCast 8 (i % 10 + 0x30)

theorem quotient_eq (i : Nat) : (i : Int).tdiv 10 = (i / 10 : Nat) := by
  rw [Int.tdiv_eq_ediv_of_nonneg (Int.natCast_nonneg i)]
  rfl

/-- The digits replace the last zeros of the row in front of `ptr`, and the zeros that
are left are digits as well. -/
theorem itoaLoop_digits (enough : width ≤ rounds) (room : 0 < width)
    (small : width < 2 ^ 32) (fits : i < 10 ^ width)
    (zeros : readBytes mem buffer width =
      List.replicate width (digitByte 0)) :
    ∃ after ptr,
      itoaLoop rounds mem (buffer + BitVec.ofNat 32 width) i =
        some (after, ptr) ∧
      readBytes after buffer width = decimalDigits width i ∧
      ∀ other, width ≤ (other - buffer).toNat → after other = mem other := by
  induction width generalizing rounds mem i with
  | zero => omega
  | succ width ih =>
      obtain ⟨rounds, rfl⟩ : ∃ left, rounds = left + 1 :=
        Nat.exists_eq_succ_of_ne_zero (by omega)
      have ptr : buffer + BitVec.ofNat 32 (width + 1) - 1 =
          buffer + BitVec.ofNat 32 width := by
        rw [← address_succ]
        bv_omega
      let last := buffer + BitVec.ofNat 32 width
      let stored := Function.update mem last (digitByte (i % 10))
      have storedDigit : stored last = digitByte (i % 10) :=
        Function.update_self _ _ _
      have storedZeros : readBytes stored buffer width =
          List.replicate width (digitByte 0) := by
        rw [readBytes_succ, List.replicate_succ'] at zeros
        exact (readBytes_update_end (by omega) _).trans
          (List.append_inj' zeros rfl).1
      simp only [itoaLoop, ptr, lastDigit_eq, quotient_eq]
      by_cases more : 0 < i / 10
      · have fewer : i / 10 < 10 ^ width := by
          rw [Nat.pow_succ] at fits
          omega
        have room' : 0 < width := by
          refine Nat.pos_of_ne_zero ?_
          rintro rfl
          omega
        obtain ⟨after, first, ran, digits, outside⟩ := ih
          (Nat.le_of_succ_le_succ enough) room' (by omega) fewer storedZeros
        have kept : after last = stored last :=
          outside last (Nat.le_of_eq (offset_toNat buffer (by omega)).symm)
        refine ⟨after, first, ?_, ?_, fun other far => ?_⟩
        · rw [if_pos (Int.natCast_pos.mpr more)]
          exact ran
        · rw [readBytes_succ, digits, kept, storedDigit]
          rfl
        · rw [outside other (by omega)]
          exact update_end_outside (by omega) _ far
      · have none : i / 10 = 0 := by omega
        refine ⟨stored, last, ?_, ?_, fun other far => ?_⟩
        · rw [if_neg (by omega)]
        · rw [readBytes_succ, storedZeros, storedDigit, decimalDigits, none,
            decimalDigits_zero]
        · exact update_end_outside (by omega) _ far

end Fill

end UsbBulk
