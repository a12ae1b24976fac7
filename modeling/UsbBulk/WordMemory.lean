import UsbBulk.BlockPool
import UsbBulk.ByteMemory

/-!
# Words in memory

A memory holds one word at every fourth address.  Reading and writing a row of
words, and what a write leaves alone.
-/

namespace UsbBulk

section Rows

variable {α : Type} {mem mem' : BitVec 32 → α}
variable {address block other size : BitVec 32} {words : List α} {n i : Nat}

/-- The `n` words from an address on. -/
def readWords (mem : BitVec 32 → α) (address : BitVec 32) : Nat → List α
  | 0 => []
  | n + 1 => mem address :: readWords mem (address + 4) n

/-- `*address++ = word` for each word. -/
def writeWords (mem : BitVec 32 → α) (address : BitVec 32) :
    List α → (BitVec 32 → α)
  | [] => mem
  | word :: words =>
      writeWords (Function.update mem address word) (address + 4) words

/-- The address of the `i`-th word. -/
def wordAt (address : BitVec 32) (i : Nat) : BitVec 32 :=
  address + BitVec.ofNat 32 (4 * i)

theorem wordAt_zero (address : BitVec 32) : wordAt address 0 = address := by
  simp [wordAt]

theorem wordAt_succ (address : BitVec 32) (i : Nat) :
    wordAt (address + 4) i = wordAt address (i + 1) := by
  have step : (4 : BitVec 32) + BitVec.ofNat 32 (4 * i) =
      BitVec.ofNat 32 (4 * (i + 1)) := by
    rw [Nat.mul_succ, Nat.add_comm, BitVec.ofNat_add]
    rfl
  rw [wordAt, wordAt, BitVec.add_assoc, step]

theorem wordAt_wordAt (address : BitVec 32) (i j : Nat) :
    wordAt (wordAt address i) j = wordAt address (i + j) := by
  rw [wordAt, wordAt, wordAt, address_add, ← Nat.mul_add]

theorem wordAt_sub (address : BitVec 32) (small : 4 * i < 2 ^ 32) :
    (wordAt address i - address).toNat = 4 * i :=
  offset_toNat address small

/-- The first word of a row, and the words above it. -/
theorem writeWords_cons (word : α) (words : List α) :
    writeWords mem address (word :: words) =
      writeWords (Function.update mem address word) (wordAt address 1) words := by
  rw [writeWords, ← wordAt_succ, wordAt_zero]

/-- Words with different numbers have different addresses. -/
theorem wordAt_inj {address : BitVec 32} {i j : Nat} (small : 4 * i < 2 ^ 32)
    (small' : 4 * j < 2 ^ 32) :
    wordAt address i = wordAt address j ↔ i = j := by
  rw [wordAt, wordAt, offset_inj address small small']
  omega

/-- The words of a block are inside it. -/
theorem inBlock_wordAt (inside : 4 * i < size.toNat) :
    InBlock size block (wordAt block i) := by
  have := size.isLt
  rw [InBlock, wordAt_sub block (by omega)]
  exact inside

@[simp] theorem length_readWords (mem : BitVec 32 → α)
    (address : BitVec 32) (n : Nat) : (readWords mem address n).length = n := by
  induction n generalizing address with
  | zero => rfl
  | succ n ih => simp [readWords, ih]

theorem getElem_readWords (mem : BitVec 32 → α) (address : BitVec 32)
    (inside : i < (readWords mem address n).length) :
    (readWords mem address n)[i] = mem (wordAt address i) := by
  induction n generalizing address i with
  | zero => exact absurd inside (Nat.not_lt_zero i)
  | succ n ih =>
      cases i with
      | zero => exact congrArg mem (wordAt_zero address).symm
      | succ i =>
          rw [← wordAt_succ]
          exact ih (address + 4) (Nat.lt_of_succ_lt_succ inside)

/-- Two rows are the same if their words are. -/
theorem readWords_eq_iff {address' : BitVec 32} :
    readWords mem' address' n = readWords mem address n ↔
      ∀ i < n, mem' (wordAt address' i) = mem (wordAt address i) := by
  constructor
  · intro same i small
    rw [← getElem_readWords mem' address' (by simpa using small),
      ← getElem_readWords mem address (by simpa using small)]
    exact List.getElem_of_eq same _
  · intro same
    refine List.ext_getElem (by simp) fun i small _ => ?_
    rw [getElem_readWords, getElem_readWords]
    exact same i (by simpa using small)

theorem readWords_congr
    (same : ∀ i < n, mem' (wordAt address i) = mem (wordAt address i)) :
    readWords mem' address n = readWords mem address n := by
  induction n generalizing address with
  | zero => rfl
  | succ n ih =>
      have first := same 0 (Nat.zero_lt_succ n)
      rw [wordAt_zero] at first
      have rest : readWords mem' (address + 4) n =
          readWords mem (address + 4) n := ih fun i small => by
        rw [wordAt_succ]
        exact same (i + 1) (Nat.succ_lt_succ small)
      rw [readWords, readWords, first, rest]

theorem writeWords_outside
    (outside : ∀ i < words.length, other ≠ wordAt address i) :
    writeWords mem address words other = mem other := by
  induction words generalizing mem address with
  | nil => rfl
  | cons word words ih =>
      have first := outside 0 (Nat.zero_lt_succ _)
      rw [wordAt_zero] at first
      rw [writeWords, ih, Function.update_of_ne first]
      intro i small
      rw [wordAt_succ]
      exact outside (i + 1) (Nat.succ_lt_succ small)

/-- What has been written is read again, and more words after it. -/
theorem readWords_writeWords (fits : words.length ≤ n)
    (small : 4 * n ≤ 2 ^ 32) :
    words <+: readWords (writeWords mem address words) address n := by
  induction words generalizing mem address n with
  | nil => exact List.nil_prefix
  | cons word words ih =>
      obtain ⟨n, rfl⟩ : ∃ m, n = m + 1 :=
        Nat.exists_eq_succ_of_ne_zero (by rintro rfl; simp at fits)
      simp only [List.length_cons] at fits
      have first : writeWords mem address (word :: words) address = word := by
        rw [writeWords, writeWords_outside, Function.update_self]
        intro i inside equal
        rw [wordAt_succ] at equal
        have distance :=
          wordAt_sub address (show 4 * (i + 1) < 2 ^ 32 by omega)
        rw [← equal, BitVec.sub_self] at distance
        simp at distance
      rw [readWords, first, List.cons_prefix_cons]
      exact ⟨rfl, ih (by omega) (by omega)⟩

theorem readWords_writeWords_self (length : words.length = n)
    (small : 4 * n ≤ 2 ^ 32) :
    readWords (writeWords mem address words) address n = words := by
  subst length
  exact ((readWords_writeWords (Nat.le_refl _) small).eq_of_length
    (by simp)).symm

/-- Writing a row of words changes nothing outside the block. -/
theorem writeWords_inside (fits : 4 * words.length ≤ size.toNat)
    (changed : writeWords mem block words address ≠ mem address) :
    InBlock size block address := by
  by_contra outside
  refine changed (writeWords_outside fun i small equal => outside ?_)
  subst equal
  exact inBlock_wordAt (by omega)

/-- The row does not go through the other address. -/
theorem writeWords_update {word : α}
    (outside : ∀ i < words.length, other ≠ wordAt address i) :
    writeWords (Function.update mem other word) address words =
      Function.update (writeWords mem address words) other word := by
  induction words generalizing mem address with
  | nil => rfl
  | cons first words ih =>
      have apart := outside 0 (Nat.zero_lt_succ _)
      rw [wordAt_zero] at apart
      rw [writeWords, writeWords, Function.update_comm apart, ih]
      intro i small
      rw [wordAt_succ]
      exact outside (i + 1) (Nat.succ_lt_succ small)

/-- A row that is written below another one makes one row with it. -/
theorem writeWords_append {top : BitVec 32} {above : List α}
    (isTop : wordAt address words.length = top)
    (small : 4 * (words.length + above.length) ≤ 2 ^ 32) :
    writeWords (writeWords mem top above) address words =
      writeWords mem address (words ++ above) := by
  induction words generalizing mem address with
  | nil =>
      rw [List.length_nil, wordAt_zero] at isTop
      rw [isTop]
      rfl
  | cons word words ih =>
      simp only [List.length_cons] at small isTop
      rw [← wordAt_succ] at isTop
      have later : writeWords (Function.update mem address word) top above =
          Function.update (writeWords mem top above) address word := by
        refine writeWords_update fun i inside => ?_
        rw [← isTop, wordAt_wordAt, wordAt_succ, ne_eq]
        nth_rewrite 1 [← wordAt_zero address]
        rw [wordAt_inj (by omega) (by omega)]
        omega
      rw [List.cons_append, writeWords, writeWords, ← ih isTop (by omega), later]

end Rows

end UsbBulk
