import UsbBulk.Kernel.PoolRun

/-!
# The blocks that `tn_fmem_create` makes

The start of the memory and the size of a block are rounded up, so that the last
blocks may not fit any more.  The loop gives up exactly these, and the chain that
is written afterwards stays inside the memory.
-/

namespace UsbBulk

/-- The largest number of blocks, up to `count`, that end at `limit` or before. -/
structure Largest (start size limit count n : Nat) : Prop where
  most : n ≤ count
  fits : start + size * n ≤ limit
  best : ∀ other ≤ count, start + size * other ≤ limit → other ≤ n

section Create

variable {k : Kernel} {f : FmpId} {startAddr blockSize i j : Word}
variable {start size limit n count : Nat} {numBlocks : Int}

theorem Largest.unique {other : Nat} (largest : Largest start size limit count n)
    (largest' : Largest start size limit count other) : n = other :=
  Nat.le_antisymm (largest'.best n largest.most largest.fits)
    (largest.best other largest'.most largest'.fits)

/-- The loop that gives up blocks ends with the largest number that fits. -/
theorem dropBlocks_largest {start size : Word} (inside : start.toNat ≤ i.toNat)
    (count : Nat) (placed : j.toNat = start.toNat + size.toNat * count)
    {fuel : Nat} (enough : count < fuel) :
    ∃ n : Nat, dropBlocks i size fuel j count = some n ∧
      Largest start.toNat size.toNat i.toNat count n := by
  induction count generalizing j fuel with
  | zero =>
      obtain ⟨fuel, rfl⟩ := Nat.exists_eq_add_of_lt enough
      have below : ¬j > i := by
        change ¬i.toNat < j.toNat
        omega
      exact ⟨0, if_neg below, Nat.le_refl 0, by omega,
        fun other most _ => most⟩
  | succ count ih =>
      obtain ⟨fuel, rfl⟩ := Nat.exists_eq_succ_of_ne_zero
        (Nat.ne_of_gt (Nat.zero_lt_of_lt enough))
      by_cases above : j > i
      · -- The end of the blocks is above the limit: one block less.
        have past : i.toNat < j.toNat := above
        rw [Nat.mul_succ] at placed
        have less : size ≤ j := by
          rw [BitVec.le_def]
          omega
        obtain ⟨n, run, most, fits, best⟩ := @ih (j - size)
          (by rw [BitVec.toNat_sub_of_le less]; omega) fuel (by omega)
        refine ⟨n, ?_, by omega, fits, fun other small room => ?_⟩
        · rw [dropBlocks, if_pos above, ← run]
          congr 1
          omega
        · refine best other (Nat.lt_succ_iff.mp (Nat.lt_of_le_of_ne small ?_))
            room
          rintro rfl
          rw [Nat.mul_succ] at room
          omega
      · have under : ¬i.toNat < j.toNat := above
        exact ⟨count + 1, if_neg above, Nat.le_refl _, by omega,
          fun other most _ => most⟩

/-- Rounding makes a block less than twice as large, so that the blocks do not
reach the end of the address space if twice their size does not. -/
theorem fits_of_double (four : 4 ≤ blockSize.toNat) (two : 2 ≤ count)
    (bounded : startAddr.toNat + 2 * blockSize.toNat * count < 2 ^ 32) :
    roundUp startAddr.toNat + roundUp blockSize.toNat * count < 2 ^ 32 := by
  have start : roundUp startAddr.toNat ≤ startAddr.toNat + 3 := by
    unfold roundUp
    omega
  have size : roundUp blockSize.toNat = blockSize.toNat ∨
      roundUp blockSize.toNat + 2 ≤ 2 * blockSize.toNat := by
    unfold roundUp
    omega
  rcases size with same | smaller
  · have twice : 2 * blockSize.toNat * count =
        blockSize.toNat * count + blockSize.toNat * count := by
      rw [Nat.mul_assoc, Nat.two_mul]
    have eight : 4 * 2 ≤ blockSize.toNat * count := Nat.mul_le_mul four two
    rw [same]
    omega
  · have room : (roundUp blockSize.toNat + 2) * count ≤
        2 * blockSize.toNat * count := Nat.mul_le_mul_right _ smaller
    rw [Nat.add_mul] at room
    omega

/-- The blocks of a pool: side by side from the rounded start on, inside the
memory, and in the chain of free blocks. -/
structure Carved (mem : Word → Word) (pool : Fmp) (start size limit n : Nat) :
    Prop where
  startAddr : pool.startAddr.toNat = roundUp start
  blockSize : pool.blockSize.toNat = roundUp size
  numBlocks : pool.numBlocks = n ∧ pool.fblkcnt = n
  distinct : (blocks pool.startAddr pool.blockSize n).Nodup
  chain : Chain mem 0 pool.freeList (blocks pool.startAddr pool.blockSize n)
  inside : ∀ block ∈ blocks pool.startAddr pool.blockSize n,
    4 ∣ block.toNat ∧ start ≤ block.toNat ∧
      block.toNat + roundUp size ≤ limit
  disjoint : ∀ block ∈ blocks pool.startAddr pool.blockSize n,
    ∀ other ∈ blocks pool.startAddr pool.blockSize n, ∀ address,
      InBlock pool.blockSize block address →
        InBlock pool.blockSize other address → block = other

theorem roundUp_dvd (value : Nat) : 4 ∣ roundUp value :=
  Nat.dvd_mul_left 4 _

theorem carved_chainBlocks (pool : Fmp) (mem : Word → Word)
    (largest : Largest (roundUp start) (roundUp size) limit count n)
    (some : 0 < n) (small : limit < 2 ^ 32)
    (startAddr : pool.startAddr.toNat = roundUp start)
    (blockSize : pool.blockSize.toNat = roundUp size) (positive : 0 < size)
    (notNull : start ≠ 0) (free : pool.freeList = pool.startAddr)
    (numBlocks : pool.numBlocks = n ∧ pool.fblkcnt = n) :
    Carved (chainBlocks pool.blockSize (n - 1) mem pool.startAddr) pool start
        size limit n ∧
      ∀ address, chainBlocks pool.blockSize (n - 1) mem pool.startAddr address ≠
        mem address → start ≤ address.toNat ∧ address.toNat + 4 ≤ limit := by
  obtain ⟨n, rfl⟩ := Nat.exists_eq_add_of_lt some
  rw [Nat.zero_add] at *
  have low : start ≤ roundUp start ∧ size ≤ roundUp size := by
    constructor <;> · unfold roundUp; omega
  have four : 4 ≤ roundUp size := by
    unfold roundUp
    omega
  have fits := largest.fits
  have bounded : pool.startAddr.toNat + pool.blockSize.toNat * (n + 1) ≤
      2 ^ 32 := by
    rw [startAddr, blockSize]
    omega
  have positive' : 0 < pool.blockSize.toNat := by omega
  have notNull' : pool.startAddr ≠ 0 := by
    intro zero
    rw [zero, show (0 : Word).toNat = 0 from rfl] at startAddr
    omega
  obtain ⟨chain, frame⟩ := chainBlocks_spec n mem
    (nodup_blocks bounded positive')
    fun member => ne_zero_of_mem_blocks bounded positive' notNull' member rfl
  have inside : ∀ block ∈ blocks pool.startAddr pool.blockSize (n + 1),
      4 ∣ block.toNat ∧ start ≤ block.toNat ∧
        block.toNat + roundUp size ≤ limit := by
    intro block member
    obtain ⟨i, below, place⟩ := (mem_blocks bounded positive').mp member
    rw [startAddr, blockSize] at place
    have after : roundUp size * (i + 1) ≤ roundUp size * (n + 1) :=
      Nat.mul_le_mul_left _ (by omega)
    rw [Nat.mul_succ] at after
    rw [place]
    exact ⟨Nat.dvd_add (roundUp_dvd start)
      (Nat.dvd_trans (roundUp_dvd size) (Nat.dvd_mul_right _ i)), by omega,
      by omega⟩
  refine ⟨⟨startAddr, blockSize, numBlocks, nodup_blocks bounded positive',
    free ▸ chain, inside, fun block member other member' address =>
      InBlock.unique bounded member member'⟩, fun address changed => ?_⟩
  by_contra outside
  refine changed (frame address fun member => outside ?_)
  obtain ⟨-, above, below⟩ := inside address member
  exact ⟨above, by omega⟩

/-- `tn_fmem_create` on a control block that is no pool yet, with memory that is
not at `NULL`. -/
theorem tnFmemCreate_carves (k : Kernel) (unused : k.isFmp f = false)
    (notNull : startAddr ≠ 0) (four : 4 ≤ blockSize.toNat)
    (two : 2 ≤ numBlocks)
    (bounded : startAddr.toNat + 2 * blockSize.toNat * numBlocks.toNat <
      2 ^ 32) :
    let limit := startAddr.toNat + blockSize.toNat * numBlocks.toNat
    ∃ n, Largest (roundUp startAddr.toNat) (roundUp blockSize.toNat) limit
        numBlocks.toNat n ∧
      ∀ fuel, numBlocks.toNat < fuel → ∃ k' rc,
        tnFmemCreate fuel k (some f) startAddr blockSize numBlocks =
            some (k', .ret rc) ∧
          (n < 2 → rc = .wrongParam ∧ k'.isFmp f = false ∧
            k'.mem = k.mem) ∧
          (2 ≤ n → rc = .noErr ∧ k'.isFmp f = true ∧
            Carved k'.mem (k'.fmp f) startAddr.toNat blockSize.toNat limit n ∧
            ∀ address, k'.mem address ≠ k.mem address →
              startAddr.toNat ≤ address.toNat ∧
                address.toNat + 4 ≤ limit) := by
  intro limit
  obtain ⟨count, rfl⟩ := Int.eq_ofNat_of_zero_le (show 0 ≤ numBlocks by omega)
  have two : 2 ≤ count := by omega
  have bounded : startAddr.toNat + 2 * blockSize.toNat * count < 2 ^ 32 :=
    bounded
  have notZero : startAddr.toNat ≠ 0 := fun zero =>
    notNull (BitVec.eq_of_toNat_eq zero)
  have fits := fits_of_double four two bounded
  have once : roundUp blockSize.toNat * 1 ≤ roundUp blockSize.toNat * count :=
    Nat.mul_le_mul_left _ (by omega)
  have start := alignUp_toNat startAddr (by omega)
  have size := alignUp_toNat blockSize (by omega)
  have eight : 4 * 2 ≤ blockSize.toNat * count := Nat.mul_le_mul four two
  have low : roundUp startAddr.toNat ≤ startAddr.toNat + 3 ∧
      blockSize.toNat ≤ roundUp blockSize.toNat := by
    constructor <;> · unfold roundUp; omega
  have product : blockSize.toNat * count ≤ roundUp blockSize.toNat * count :=
    Nat.mul_le_mul_right _ low.2
  have startLow : startAddr.toNat ≤ roundUp startAddr.toNat := by
    unfold roundUp
    omega
  have memory : (startAddr + blockSize * BitVec.ofInt 32 count).toNat =
      limit := regionEnd_toNat startAddr blockSize count (by omega)
  have placed := regionEnd_toNat (alignUp startAddr) (alignUp blockSize) count
    (by rw [start, size]; exact fits)
  have small : limit < 2 ^ 32 := by
    rw [← memory]
    exact BitVec.isLt _
  have inside : (alignUp startAddr).toNat ≤
      (startAddr + blockSize * BitVec.ofInt 32 count).toNat := by
    rw [memory, start]
    change _ ≤ startAddr.toNat + blockSize.toNat * count
    omega
  have drops : ∀ fuel, count < fuel → ∃ n : Nat,
      dropBlocks (startAddr + blockSize * BitVec.ofInt 32 count)
          (alignUp blockSize) fuel
          (alignUp startAddr + alignUp blockSize * BitVec.ofInt 32 count)
          count = some (n : Int) ∧
        Largest (roundUp startAddr.toNat) (roundUp blockSize.toNat) limit
          count n := by
    intro fuel enough
    have dropped := dropBlocks_largest inside count placed enough
    rwa [start, size, memory] at dropped
  obtain ⟨n, -, largest⟩ := drops (count + 1) (Nat.lt_succ_self _)
  refine ⟨n, largest, fun fuel enough => ?_⟩
  obtain ⟨n', run, largest'⟩ := drops fuel enough
  obtain rfl := largest'.unique largest
  have params : ¬(startAddr = 0 ∨ (count : Int) < 2 ∨ blockSize < 4) := by
    have notSmall : ¬blockSize < 4 := Nat.not_lt.mpr four
    rintro (null | few | less)
    · exact notNull null
    · omega
    · exact notSmall less
  rw [tnFmemCreate]
  simp only [unused, Bool.false_eq_true, if_false, if_neg params,
    Option.bind_eq_bind, run, Option.bind_some]
  by_cases few : n' < 2
  · rw [if_pos (by omega)]
    refine ⟨_, _, rfl, fun _ => ⟨rfl, ?_, rfl⟩, fun more => by omega⟩
    simpa [Kernel.isFmp, Kernel.setFmp] using unused
  · rw [if_neg (by omega)]
    have chained : ((n' : Int) - 1).toNat = n' - 1 := by omega
    rw [chained]
    refine ⟨_, _, rfl, fun less => absurd less few, fun _ => ⟨rfl, ?_, ?_⟩⟩
    · simp [Kernel.isFmp, Kernel.setFmp, Kernel.setMem]
    · simp only [Kernel.setMem, Kernel.setFmp, Function.update_self]
      exact carved_chainBlocks
        { blockSize := alignUp blockSize, numBlocks := n'
          startAddr := alignUp startAddr, freeList := alignUp startAddr
          fblkcnt := n', idFmp := tnIdFsmemorypool }
        k.mem largest' (by omega) small start size (by omega) notZero rfl
        ⟨rfl, rfl⟩

/-- Memory that starts one byte after a multiple of 4. -/
theorem tnFmemCreate_carves_misaligned : ∃ n k' rc,
    Largest (roundUp 0x40002001) (roundUp 6) (0x40002001 + 6 * 8) 8 n ∧
      tnFmemCreate 9 .zeroed (some 0) 0x40002001 6 8 = some (k', .ret rc) ∧
      n = 5 ∧ rc = .noErr ∧ k'.isFmp 0 = true ∧
      Carved k'.mem (k'.fmp 0) 0x40002001 6 (0x40002001 + 6 * 8) n := by
  obtain ⟨n, largest, runs⟩ := @tnFmemCreate_carves 0 0x40002001 6 8 .zeroed
    (by decide) (by decide) (by decide) (by decide) (by decide)
  have five : Largest (roundUp 0x40002001) (roundUp 6) (0x40002001 + 6 * 8) 8
      5 := ⟨by decide, by decide, by decide⟩
  obtain rfl := largest.unique five
  obtain ⟨k', rc, run, -, made⟩ := runs 9 (by decide)
  obtain ⟨noErr, isFmp, carved, -⟩ := made (by decide)
  exact ⟨_, k', rc, largest, run, rfl, noErr, isFmp, carved⟩

/-- Memory at `NULL` is refused, and so is a control block that is a pool
already, although blocks would fit. -/
theorem tnFmemCreate_refuses :
    Largest (roundUp 0) (roundUp 4) (0 + 4 * 4) 4 4 ∧
      (tnFmemCreate 5 .zeroed (some 0) 0 4 4).map Prod.snd =
        some (.ret .wrongParam) ∧
      Largest (roundUp 4) (roundUp 4) (4 + 4 * 4) 4 4 ∧
      ((tnFmemCreate 5 .zeroed (some 0) 4 4 4).bind fun made =>
        tnFmemCreate 5 made.1 (some 0) 4 4 4).map Prod.snd =
        some (.ret .wrongParam) :=
  ⟨⟨by decide, by decide, by decide⟩, by decide,
    ⟨by decide, by decide, by decide⟩, by decide⟩

end Create

end UsbBulk
