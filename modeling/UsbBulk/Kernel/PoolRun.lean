import UsbBulk.Kernel.PoolOrder
import UsbBulk.Kernel.QueueRun

/-!
# Every block of a memory pool is free or owned

What the services do to the stock of a memory pool, put together over whole runs
in which tasks and interrupts take and release blocks without timeouts, and
write into the blocks they own.
-/

namespace UsbBulk

/-! ## Creation -/

/-- The next multiple of `TN_ALIG`, without overflow. -/
def roundUp (value : Nat) : Nat := (value + 3) / 4 * 4

/-- The memory that `tn_fmem_create` is given, rounded up, does not run past the end
of the address space. -/
def Fits (startAddr blockSize : Word) (numBlocks : Int) : Prop :=
  roundUp startAddr.toNat + roundUp blockSize.toNat * numBlocks.toNat ≤ 2 ^ 32

instance (startAddr blockSize : Word) (numBlocks : Int) :
    Decidable (Fits startAddr blockSize numBlocks) := Nat.decLe _ _

section Create

variable {k k' : Kernel} {f : FmpId} {startAddr blockSize i j : Word}
variable {numBlocks result : Int}

theorem alignUp_toNat (value : Word) (small : roundUp value.toNat < 2 ^ 32) :
    (alignUp value).toNat = roundUp value.toNat := by
  have below := value.isLt
  have room : value.toNat + 3 < 2 ^ 32 := by
    unfold roundUp at small
    omega
  have sum : (value + (tnAlig - 1)).toNat = value.toNat + 3 := by
    rw [BitVec.toNat_add]
    exact Nat.mod_eq_of_lt room
  unfold alignUp
  rw [BitVec.toNat_mul, BitVec.toNat_udiv, sum]
  exact Nat.mod_eq_of_lt small

/-- What the loop leaves is between 0 and what it started with, as long as the
blocks start inside the memory. -/
theorem dropBlocks_bounds (fuel : Nat) {start size : Word}
    (inside : start.toNat ≤ i.toNat) (count : Nat)
    (placed : j.toNat = start.toNat + size.toNat * count)
    (run : dropBlocks i size fuel j count = some result) :
    0 ≤ result ∧ result ≤ count := by
  induction fuel generalizing j count with
  | zero => cases run
  | succ fuel ih =>
      unfold dropBlocks at run
      split at run
      · next above =>
          -- The end of the blocks is above their start, so one can go.
          have above : i.toNat < j.toNat := above
          obtain ⟨count, rfl⟩ : ∃ left, count = left + 1 := by
            refine Nat.exists_eq_succ_of_ne_zero fun zero => ?_
            subst zero
            omega
          rw [Nat.mul_succ] at placed
          have less : size ≤ j := by
            rw [BitVec.le_def]
            omega
          have next := ih (j := j - size) count
            (by rw [BitVec.toNat_sub_of_le less]; omega)
            (by simpa using run)
          omega
      · cases run
        omega

/-- The chain runs through all blocks, and nothing else is written. -/
theorem chainBlocks_spec {start size : Word} (count : Nat)
    (mem : Word → Word) (apart : (blocks start size (count + 1)).Nodup)
    (notNull : 0 ∉ blocks start size (count + 1)) :
    Chain (chainBlocks size count mem start) 0 start
        (blocks start size (count + 1)) ∧
      ∀ address, address ∉ blocks start size (count + 1) →
        chainBlocks size count mem start address = mem address := by
  induction count generalizing start mem with
  | zero =>
      refine ⟨⟨rfl, fun null => notNull (by simp [blocks, null]), ?_⟩,
        fun address outside => ?_⟩
      · simp [chainBlocks, blocks, Chain]
      · have other : address ≠ start := by simpa [blocks] using outside
        simp [chainBlocks, other]
  | succ count ih =>
      rw [blocks] at apart notNull
      obtain ⟨fresh, later⟩ := List.nodup_cons.mp apart
      simp only [List.mem_cons, not_or] at notNull
      obtain ⟨chain, frame⟩ :=
        ih (Function.update mem start (start + size)) later notNull.2
      refine ⟨⟨rfl, Ne.symm notNull.1, ?_⟩, fun address outside => ?_⟩
      · change Chain _ 0 (chainBlocks size count _ (start + size) start) _
        rw [frame start fresh, Function.update_self]
        exact chain
      · rw [blocks, List.mem_cons, not_or] at outside
        change chainBlocks size count _ (start + size) address = _
        rw [frame address outside.2, Function.update_of_ne outside.1]

/-- The end of a region that does not reach the end of the address space. -/
theorem regionEnd_toNat (base size : Word) (count : Nat)
    (fits : base.toNat + size.toNat * count < 2 ^ 32) :
    (base + size * BitVec.ofInt 32 count).toNat =
      base.toNat + size.toNat * count := by
  rw [BitVec.ofInt_natCast, BitVec.toNat_add, BitVec.toNat_mul,
    BitVec.toNat_ofNat, Nat.mul_mod_mod, Nat.add_mod_mod]
  exact Nat.mod_eq_of_lt fits

theorem tnFmemCreate_made {fuel : Nat}
    (run : tnFmemCreate fuel k (some f) startAddr blockSize numBlocks =
      some (k', .ret .noErr)) :
    k.isFmp f = false ∧ startAddr ≠ 0 ∧ 2 ≤ numBlocks ∧
      4 ≤ blockSize.toNat ∧ ∃ count : Nat,
        dropBlocks (startAddr + blockSize * BitVec.ofInt 32 numBlocks)
            (alignUp blockSize) fuel (alignUp startAddr +
              alignUp blockSize * BitVec.ofInt 32 numBlocks) numBlocks =
          some ((count + 2 : Nat) : Int) ∧
        k' = (Kernel.setFmp { k with
            taskLinks :=
              queueReset k.taskLinks (.head (.wait (.fmp f))) } f {
            blockSize := alignUp blockSize
            numBlocks := (count + 2 : Nat)
            startAddr := alignUp startAddr
            freeList := alignUp startAddr
            fblkcnt := (count + 2 : Nat)
            idFmp := tnIdFsmemorypool }).setMem
          (chainBlocks (alignUp blockSize) (count + 1) k.mem
            (alignUp startAddr)) := by
  unfold tnFmemCreate at run
  dsimp only at run
  split at run
  · cases run
  next notPool =>
  split at run
  · cases run
  next params =>
  obtain ⟨left, dropped, run⟩ := Option.bind_eq_some_iff.mp run
  split at run
  · cases run
  next enough =>
  simp only [not_or] at params
  obtain ⟨startNotNull, twoBlocks, fourBytes⟩ := params
  obtain ⟨count, rfl⟩ : ∃ count : Nat, left = (count + 2 : Nat) :=
    ⟨(left - 2).toNat, by omega⟩
  have chained : (((count + 2 : Nat) : Int) - 1).toNat = count + 1 := by omega
  rw [chained] at run
  cases run
  exact ⟨by simpa using notPool, startNotNull, by omega,
    Nat.not_lt.mp fourBytes, count, dropped, rfl⟩

/-- A successful creation is about a pool that did not exist, and makes all its
blocks free. -/
theorem tnFmemCreate_spec {fuel : Nat}
    (fits : Fits startAddr blockSize numBlocks)
    (run : tnFmemCreate fuel k (some f) startAddr blockSize numBlocks =
      some (k', .ret .noErr)) :
    k.isFmp f = false ∧ k'.tcb = k.tcb ∧ k'.isFmp f = true ∧
      (k'.fmp f).Placed ∧ k'.PoolHolds f (k'.poolBlocks f) := by
  obtain ⟨notPool, startNotNull, twoBlocks, four, left, dropped, rfl⟩ :=
    tnFmemCreate_made run
  obtain ⟨count, rfl⟩ := Int.eq_ofNat_of_zero_le (show 0 ≤ numBlocks by omega)
  -- The roundings do not overflow.
  have larger : ∀ value, value ≤ roundUp value ∧ roundUp value ≤ value + 3 := by
    intro value
    unfold roundUp
    omega
  obtain ⟨startLow, startHigh⟩ := larger startAddr.toNat
  obtain ⟨sizeLow, _⟩ := larger blockSize.toNat
  have fits : roundUp startAddr.toNat + roundUp blockSize.toNat * count ≤
      2 ^ 32 := fits
  have twice : roundUp blockSize.toNat * 2 ≤ roundUp blockSize.toNat * count :=
    Nat.mul_le_mul_left _ (by omega)
  have start := alignUp_toNat startAddr (by omega)
  have size := alignUp_toNat blockSize (by omega)
  have product : blockSize.toNat * count ≤ roundUp blockSize.toNat * count :=
    Nat.mul_le_mul_right _ sizeLow
  have eight : 4 * 2 ≤ blockSize.toNat * count :=
    Nat.mul_le_mul four (by omega)
  have fewer : left + 2 ≤ count := by
    rcases Nat.lt_or_eq_of_le fits with inside | whole
    · have memory := regionEnd_toNat startAddr blockSize count (by omega)
      have placed := regionEnd_toNat (alignUp startAddr) (alignUp blockSize)
        count (by rw [start, size]; exact inside)
      have bounds := dropBlocks_bounds fuel (by rw [memory, start]; omega) count
        placed dropped
      exact Int.ofNat_le.mp bounds.2
    · -- The end of the blocks is 0, so that no block is given up.
      have wraps : alignUp startAddr +
          alignUp blockSize * BitVec.ofInt 32 count = 0 := by
        refine BitVec.eq_of_toNat_eq ?_
        rw [BitVec.ofInt_natCast, BitVec.toNat_add, BitVec.toNat_mul,
          BitVec.toNat_ofNat, Nat.mul_mod_mod, Nat.add_mod_mod, start, size,
          whole]
        rfl
      rw [wraps] at dropped
      cases fuel with
      | zero => cases dropped
      | succ fuel =>
          have none : ¬(0 : Word) >
              startAddr + blockSize * BitVec.ofInt 32 count :=
            Nat.not_lt_zero _
          rw [dropBlocks, if_neg none] at dropped
          exact (Int.ofNat_inj.mp (Option.some.inj dropped)).ge
  -- The blocks that are left are chained.
  have bounded : (alignUp startAddr).toNat +
      (alignUp blockSize).toNat * (left + 2) ≤ 2 ^ 32 := by
    have : roundUp blockSize.toNat * (left + 2) ≤
        roundUp blockSize.toNat * count := Nat.mul_le_mul_left _ fewer
    rw [start, size]
    omega
  have notNull : alignUp startAddr ≠ 0 := by
    intro zero
    rw [zero] at start
    refine startNotNull (BitVec.eq_of_toNat_eq ?_)
    have : (0 : Word).toNat = 0 := rfl
    omega
  have positive : 0 < (alignUp blockSize).toNat := by
    rw [size]
    omega
  obtain ⟨chain, _⟩ := chainBlocks_spec (left + 1) k.mem
    (nodup_blocks bounded positive)
    fun member => ne_zero_of_mem_blocks bounded positive notNull member rfl
  refine ⟨notPool, rfl, decide_eq_true ?_, ?_, ?_⟩
  · simp [Kernel.setFmp, Kernel.setMem]
  · simp only [Kernel.setFmp, Kernel.setMem, Function.update_self]
    exact ⟨bounded, positive, notNull, Int.natCast_nonneg _⟩
  · refine ⟨?_, ?_⟩ <;>
      simp only [Kernel.poolBlocks, Kernel.setFmp, Kernel.setMem,
        Function.update_self, Int.toNat_natCast]
    · exact chain
    · simp

end Create

/-! ## Steps -/

/-- The calls of a run on one pool: taking a block in every way, without a
timeout, releasing an owned block, and suspending and resuming the tasks other
than the idle task. -/
def Image.OnPool (image : Image) (f : FmpId) (owned : List Word)
    (_ : Kernel) : Call → Prop
  | .fmemGet fmp _ timeout => fmp = some f ∧ timeout = tnWaitInfinite
  | .fmemGetPolling fmp _ | .fmemGetIpolling fmp _ => fmp = some f
  | .fmemRelease fmp pData => fmp = some f ∧ pData ∈ owned
  | .fmemIrelease fmp pData => fmp = some f ∧ pData ∈ owned
  | .taskSuspend task => task ≠ some image.idleTask
  | .taskResume _ => True
  | _ => False

def Action.ownedAfter (f : FmpId) (k k' : Kernel) (owned : List Word) :
    Action → List Word
  | .call service reply | .interrupt service reply =>
      UsbBulk.ownedAfter f k k' reply owned service.poolUse
  | .dispatch => owned

def Action.joined (k : Kernel) : Action → List TaskId
  | .call service reply | .interrupt service reply =>
      UsbBulk.joined k reply service.poolUse
  | .dispatch => []

def Action.served (f : FmpId) (k : Kernel) : Action → List TaskId
  | .call service reply | .interrupt service reply =>
      UsbBulk.served f k reply service.poolUse
  | .dispatch => []

section Steps

variable {image : Image} {f : FmpId} {k k' : Kernel} {lists : Lists}
variable {free owned : List Word}

theorem Call.exec_supplies
    (sound : PoolSound image.untimedRule f k lists free owned) {call : Call}
    (may : image.OnPool f owned k call)
    (running : call.fromInterrupt = false →
      (k.tcb k.tnCurrRunTask).taskState = .runnable ∧
        k.tnCurrRunTask ≠ image.idleTask) (fuel : Nat) :
    Supplies image.untimedRule f call.poolUse k lists free owned
      (call.exec image.tnTaskExit fuel k) := by
  cases call with
  | fmemGet fmp pData timeout =>
      obtain ⟨this, rfl⟩ := may
      refine sound.checked this (sound.getBody ?_)
      exact sound.sleep (running rfl).1 (running rfl).2 (.inr rfl)
  | fmemGetPolling fmp pData =>
      exact sound.checked may (sound.getBody fun _ => sound.refuse)
  | fmemGetIpolling fmp pData =>
      exact sound.checked may (sound.getBody fun _ => sound.refuse)
  | fmemRelease fmp pData =>
      exact sound.checked may.1 (sound.releaseBody may.2 fuel)
  | fmemIrelease fmp pData =>
      exact sound.checked may.1 (sound.releaseBody may.2 fuel).fromInterrupt
  | taskSuspend task =>
      intro k' reply run
      obtain ⟨lists', quiet⟩ := tnTaskSuspend_quiet sound.kept
        (fun t isTask idle => may (by rw [isTask, idle])) run
      exact ⟨lists', free, quiet.supplied sound⟩
  | taskResume task =>
      intro k' reply run
      obtain ⟨lists', quiet⟩ := tnTaskResume_quiet sound.kept run
      exact ⟨lists', free, quiet.supplied sound⟩
  | _ => cases may

theorem PoolSound.of_same {rule : Rule}
    (sound : PoolSound rule f k lists free owned)
    (kept : Kept rule none k' lists) (fmp : k'.fmp = k.fmp)
    (mem : k'.mem = k.mem) : PoolSound rule f k' lists free owned where
  kept := kept
  isFmp := by
    rw [Kernel.isFmp, fmp]
    exact sound.isFmp
  placed := fmp ▸ sound.placed
  holds := ⟨by simpa [fmp, mem] using sound.holds.chain,
    by simpa [fmp] using sound.holds.count⟩
  stock := by
    rw [Kernel.poolBlocks, fmp]
    exact sound.stock

theorem PoolSound.step
    (sound : PoolSound image.untimedRule f k lists free owned)
    {action : Action} (step : Step image (image.OnPool f owned) k action k') :
    ∃ lists' free', PoolSound image.untimedRule f k' lists' free'
        (action.ownedAfter f k k' owned) ∧
      Stock.Transfer ⟨free, owned, lists.task (.wait (.fmp f))⟩
        (action.joined k) (action.served f k)
        ⟨free', action.ownedAfter f k k' owned,
          lists'.task (.wait (.fmp f))⟩ := by
  cases step with
  | call fuel task running notIdle may run =>
      obtain ⟨lists', free', supplied⟩ := Call.exec_supplies sound may
        (fun _ => ⟨running, notIdle⟩) fuel _ _ run
      exact ⟨lists', free', supplied.sound sound, supplied.transfer⟩
  | interrupt fuel irq may run =>
      have entered := sound.of_same sound.kept.enterIrq rfl rfl
      obtain ⟨lists', free', supplied⟩ := Call.exec_supplies entered may
        (fun task => absurd (irq.symm.trans task) (by decide)) fuel _ _ run
      have after := supplied.sound entered
      exact ⟨lists', free', after.of_same after.kept.leaveIrq rfl rfl,
        supplied.transfer⟩
  | dispatch run =>
      have kept := sound.kept.dispatch run
      obtain ⟨next, _, result⟩ := Option.bind_eq_some_iff.mp run
      cases result
      exact ⟨lists, free, sound.of_same kept rfl rfl, .idle⟩

/-- What changes is inside the owned blocks. -/
def WritesInside (size : Word) (owned : List Word) (mem mem' : Word → Word) :
    Prop :=
  ∀ address, mem' address ≠ mem address →
    ∃ block ∈ owned, InBlock size block address

/-- The owners' writes do not reach the chain of free blocks. -/
theorem PoolSound.write {rule : Rule}
    (sound : PoolSound rule f k lists free owned) {mem : Word → Word}
    (inside : WritesInside (k.fmp f).blockSize owned k.mem mem) :
    PoolSound rule f (k.setMem mem) lists free owned where
  kept := sound.kept.setMem mem
  isFmp := sound.isFmp
  placed := sound.placed
  holds := by
    refine ⟨sound.holds.chain.congr fun block member => ?_,
      sound.holds.count⟩
    by_contra changed
    obtain ⟨other, owns, covers⟩ := inside block changed
    have same := InBlock.unique sound.placed.bounded
      (sound.mem_blocks.mpr (.inl member)) (sound.mem_blocks.mpr (.inr owns))
      (inBlock_self sound.placed.positive) covers
    exact (List.nodup_append.mp sound.nodup).2.2 block member other owns same
  stock := sound.stock

/-- All blocks of a new pool are free, and nobody waits for one. -/
theorem PoolSound.of_create {rule : Rule} (kept : Kept rule none k lists)
    {startAddr blockSize : Word} {numBlocks : Int}
    (fits : Fits startAddr blockSize numBlocks) {fuel : Nat}
    (run : tnFmemCreate fuel k (some f) startAddr blockSize numBlocks =
      some (k', .ret .noErr)) :
    ∃ lists', PoolSound rule f k' lists' (k'.poolBlocks f) [] ∧
      lists'.task (.wait (.fmp f)) = [] := by
  obtain ⟨lists', after⟩ :=
    tnFmemCreate_keeps kept fuel startAddr blockSize numBlocks _ _ run
  obtain ⟨absent, tcb, isFmp, placed, holds⟩ := tnFmemCreate_spec fits run
  have nobody := kept.nobody (.fmp f) after tcb absent
  refine ⟨lists', ⟨after, isFmp, placed, holds, ?_, ?_⟩, nobody⟩
  · simp
  · simp [nobody]

end Steps

/-! ## Runs -/

/-- A run that starts with the creation of the pool, in any state that an
untimed run reaches, with the owned blocks, the tasks that have started to wait
for a block, and those that have been served. -/
inductive PoolRun (image : Image) (f : FmpId) (startAddr blockSize : Word)
    (numBlocks : Int) :
    Kernel → List Word → List TaskId → List TaskId → Prop where
  | create {k k' : Kernel} (reachable : Reachable image image.Untimed k)
      (step : Step image image.Untimed k
        (.call (.fmemCreate (some f) startAddr blockSize numBlocks)
          (.ret .noErr)) k') :
      PoolRun image f startAddr blockSize numBlocks k' [] [] []
  | next {k k' : Kernel} {action : Action} {owned : List Word}
      {joined served : List TaskId}
      (before : PoolRun image f startAddr blockSize numBlocks k owned joined
        served)
      (step : Step image (image.OnPool f owned) k action k') :
      PoolRun image f startAddr blockSize numBlocks k'
        (action.ownedAfter f k k' owned) (joined ++ action.joined k)
        (served ++ action.served f k)
  | write {k : Kernel} {owned : List Word} {joined served : List TaskId}
      (before : PoolRun image f startAddr blockSize numBlocks k owned joined
        served) (mem : Word → Word)
      (inside : WritesInside (k.fmp f).blockSize owned k.mem mem) :
      PoolRun image f startAddr blockSize numBlocks (k.setMem mem) owned
        joined served

section Runs

variable {image : Image} {f : FmpId} {startAddr blockSize : Word}
variable {numBlocks : Int} {k : Kernel} {owned : List Word}
variable {joined served : List TaskId}

/-- A run of the pool is a run of the stock. -/
theorem PoolRun.stock (fits : Fits startAddr blockSize numBlocks)
    (run : PoolRun image f startAddr blockSize numBlocks k owned joined
      served) :
    ∃ lists free start, PoolSound image.untimedRule f k lists free owned ∧
      start.waiters = [] ∧
      Stock.Run start joined served
        ⟨free, owned, lists.task (.wait (.fmp f))⟩ := by
  induction run with
  | create reachable step =>
      obtain ⟨lists, kept⟩ := reachable.kept
      cases step with
      | call fuel task running notIdle may run =>
          obtain ⟨lists', sound, nobody⟩ := PoolSound.of_create kept fits run
          exact ⟨lists', _, _, sound, nobody, .start⟩
  | next _ step ih =>
      obtain ⟨lists, free, start, sound, nobody, run⟩ := ih
      obtain ⟨lists', free', after, transfer⟩ := sound.step step
      exact ⟨lists', free', start, after, nobody, run.next transfer⟩
  | write _ mem inside ih =>
      obtain ⟨lists, free, start, sound, nobody, run⟩ := ih
      exact ⟨lists, free, start, sound.write inside, nobody, run⟩

end Runs

end UsbBulk
