import UsbBulk.Kernel.QueueOrder

/-!
# Who owns the blocks of a memory pool

A memory pool with its wait list is a stock of blocks: the free ones are chained
through their first words, and the others are owned by whoever took them.  Every
service on the pool is one transition of the stock.
-/

namespace UsbBulk

/-! ## The stock of a pool -/

/-- All blocks of a pool, free or not. -/
def Kernel.poolBlocks (k : Kernel) (f : FmpId) : List Word :=
  blocks (k.fmp f).startAddr (k.fmp f).blockSize (k.fmp f).numBlocks.toNat

/-- What a call means for a memory pool. -/
inductive PoolUse where
  | get
  | release (block : Word)
  | other

def Call.poolUse : Call → PoolUse
  | fmemGet .. | fmemGetPolling .. | fmemGetIpolling .. => .get
  | fmemRelease _ pData => .release pData
  | fmemIrelease _ pData => .release pData
  | _ => .other

/-- The owned blocks after a call.  A successful `get` answers with a block.  A
released block has no owner any more, and the first waiting task, if there is
one, then owns what it finds in its `data_elem`. -/
def ownedAfter (f : FmpId) (k k' : Kernel) (reply : Reply)
    (owned : List Word) : PoolUse → List Word
  | .get =>
      if reply.rc = some .noErr then owned ++ reply.value.toList else owned
  | .release block =>
      if reply.rc = some .noErr then
        owned.erase block ++ (k.firstWaiter (.fmp f)).toList.map fun t =>
          (k'.tcb t).dataElem
      else owned
  | .other => owned

/-- The task that starts to wait for a block. -/
def joined (k : Kernel) (reply : Reply) : PoolUse → List TaskId
  | .get => if reply.rc = none then [k.tnCurrRunTask] else []
  | .release _ | .other => []

/-- The waiting task that is given a block. -/
def served (f : FmpId) (k : Kernel) (reply : Reply) : PoolUse → List TaskId
  | .release _ =>
      if reply.rc = some .noErr then (k.firstWaiter (.fmp f)).toList else []
  | .get | .other => []

/-- The blocks lie side by side in the address space, not at `NULL`. -/
structure Fmp.Placed (pool : Fmp) : Prop where
  bounded : pool.startAddr.toNat +
    pool.blockSize.toNat * pool.numBlocks.toNat ≤ 2 ^ 32
  positive : 0 < pool.blockSize.toNat
  notNull : pool.startAddr ≠ 0
  nonneg : 0 ≤ pool.numBlocks

/-- The pool exists and is in order, with the given free and owned blocks. -/
structure PoolSound (rule : Rule) (f : FmpId) (k : Kernel) (lists : Lists)
    (free owned : List Word) : Prop where
  kept : Kept rule none k lists
  isFmp : k.isFmp f = true
  placed : (k.fmp f).Placed
  holds : k.PoolHolds f free
  stock : Stock.Sound (k.poolBlocks f)
    ⟨free, owned, lists.task (.wait (.fmp f))⟩

/-- A call has done one transition of the stock. -/
structure Supplied (rule : Rule) (f : FmpId) (use : PoolUse) (reply : Reply)
    (k k' : Kernel) (lists lists' : Lists) (free free' owned : List Word) :
    Prop where
  kept : Kept rule none k' lists'
  same : Fmp.SameShape (k.fmp f) (k'.fmp f)
  holds : k'.PoolHolds f free'
  transfer : Stock.Transfer ⟨free, owned, lists.task (.wait (.fmp f))⟩
    (joined k reply use) (served f k reply use)
    ⟨free', ownedAfter f k k' reply owned use,
      lists'.task (.wait (.fmp f))⟩

section Pool

variable {rule : Rule} {f : FmpId} {k k' : Kernel} {lists lists' : Lists}
variable {free free' owned : List Word} {use : PoolUse} {reply : Reply}
variable {block : Word} {t : TaskId} {rest : List TaskId}

theorem Fmp.SameShape.refl (pool : Fmp) : SameShape pool pool :=
  ⟨rfl, rfl, rfl, rfl⟩

theorem Fmp.SameShape.placed {before after : Fmp}
    (same : SameShape before after) (placed : before.Placed) :
    after.Placed := by
  obtain ⟨bounded, positive, notNull, nonneg⟩ := placed
  constructor
  · rwa [same.startAddr, same.blockSize, same.numBlocks]
  · rwa [same.blockSize]
  · rwa [same.startAddr]
  · rwa [same.numBlocks]

theorem Supplied.sound (sound : PoolSound rule f k lists free owned)
    (supplied : Supplied rule f use reply k k' lists lists' free free'
      owned) :
    PoolSound rule f k' lists' free'
      (ownedAfter f k k' reply owned use) where
  kept := supplied.kept
  isFmp := by
    have valid := sound.isFmp
    simp only [Kernel.isFmp, decide_eq_true_eq] at valid ⊢
    rw [supplied.same.idFmp, valid]
  placed := supplied.same.placed sound.placed
  holds := supplied.holds
  stock := by
    have blocks : k'.poolBlocks f = k.poolBlocks f := by
      rw [Kernel.poolBlocks, supplied.same.startAddr,
        supplied.same.blockSize, supplied.same.numBlocks, Kernel.poolBlocks]
    rw [blocks]
    exact supplied.transfer.sound sound.stock

theorem PoolSound.nodup (sound : PoolSound rule f k lists free owned) :
    (free ++ owned).Nodup :=
  sound.stock.partition.nodup_iff.mpr
    (nodup_blocks sound.placed.bounded sound.placed.positive)

theorem PoolSound.mem_blocks
    (sound : PoolSound rule f k lists free owned) :
    block ∈ k.poolBlocks f ↔ block ∈ free ∨ block ∈ owned := by
  rw [← sound.stock.partition.mem_iff, List.mem_append]

theorem PoolSound.notNull (sound : PoolSound rule f k lists free owned)
    (member : block ∈ k.poolBlocks f) : block ≠ 0 :=
  ne_zero_of_mem_blocks sound.placed.bounded sound.placed.positive
    sound.placed.notNull member

theorem PoolSound.room (sound : PoolSound rule f k lists free owned)
    (owns : block ∈ owned) : (free.length : Int) < (k.fmp f).numBlocks := by
  have total := sound.stock.partition.length_eq
  have some := List.length_pos_of_mem owns
  have nonneg := sound.placed.nonneg
  simp only [List.length_append, Kernel.poolBlocks, length_blocks] at total
  omega

theorem PoolSound.idle (sound : PoolSound rule f k lists free owned)
    (kept : Kept rule none k' lists') (fmp : k'.fmp = k.fmp)
    (mem : k'.mem = k.mem)
    (waits : lists'.task (.wait (.fmp f)) = lists.task (.wait (.fmp f)))
    (owned' : ownedAfter f k k' reply owned use = owned)
    (joined : joined k reply use = []) (served : served f k reply use = []) :
    Supplied rule f use reply k k' lists lists' free free owned where
  kept := kept
  same := by
    rw [fmp]
    exact .refl _
  holds := ⟨by simpa [fmp, mem] using sound.holds.chain,
    by simpa [fmp] using sound.holds.count⟩
  transfer := by
    rw [owned', joined, served, waits]
    exact .idle

theorem PoolSound.take
    (sound : PoolSound rule f k lists (block :: free) owned) {pool : Fmp}
    (same : Fmp.SameShape (k.fmp f) pool)
    (holds : (k.setFmp f pool).PoolHolds f free) :
    Supplied rule f .get (.retValue block false) k (k.setFmp f pool) lists
      lists (block :: free) free owned where
  kept := sound.kept.setFmp (by rw [same.idFmp]; rfl)
  same := by simpa [Kernel.setFmp] using same
  holds := holds
  transfer := by
    simp only [joined, served, ownedAfter, Reply.retValue, reduceCtorEq,
      if_false, if_true, Option.toList_some]
    exact .take

theorem PoolSound.wait (sound : PoolSound rule f k lists [] owned)
    {timeout : Word}
    (changed : Changed rule (.fmp f)
      (lists.task (.wait (.fmp f)) ++ [k.tnCurrRunTask]) k.tnCurrRunTask
      ((k.tcb k.tnCurrRunTask).asleep (some (.fmp f)) .wfixmem timeout) k k'
      lists lists') :
    Supplied rule f .get .block k k' lists lists' [] [] owned where
  kept := changed.kept
  same := by
    rw [changed.same.fmp]
    exact .refl _
  holds := ⟨by simpa [changed.same.fmp, changed.same.mem] using
    sound.holds.chain, by simpa [changed.same.fmp] using sound.holds.count⟩
  transfer := by
    rw [changed.members]
    simp only [joined, served, ownedAfter, Reply.block, reduceCtorEq,
      if_false, if_true]
    exact .wait

theorem PoolSound.pass (sound : PoolSound rule f k lists free owned)
    (owns : block ∈ owned)
    (waiting : lists.task (.wait (.fmp f)) = t :: rest)
    (changed : Changed rule (.fmp f) rest t ((k.tcb t).given block).awake k
      k' lists lists') (switch : Bool) :
    Supplied rule f (.release block) (.retSwitch .noErr switch) k k' lists
      lists' free free owned where
  kept := changed.kept
  same := by
    rw [changed.same.fmp]
    exact .refl _
  holds := ⟨by simpa [changed.same.fmp, changed.same.mem] using
    sound.holds.chain, by simpa [changed.same.fmp] using sound.holds.count⟩
  transfer := by
    have first := sound.kept.firstWaiter (.fmp f) sound.isFmp
    rw [waiting] at first
    have elem : (k'.tcb t).dataElem = block := changed.own_elem
    simp only [joined, served, ownedAfter, Reply.retSwitch, first,
      List.head?_cons, Option.toList_some, List.map_cons, List.map_nil, elem,
      changed.members, waiting, if_true]
    exact .pass owns

theorem PoolSound.giveBack (sound : PoolSound rule f k lists free owned)
    (owns : block ∈ owned) (nobody : lists.task (.wait (.fmp f)) = [])
    {pool : Fmp} (same : Fmp.SameShape (k.fmp f) pool) {mem : Word → Word}
    (holds : ((k.setFmp f pool).setMem mem).PoolHolds f (block :: free)) :
    Supplied rule f (.release block) (.ret .noErr) k
      ((k.setFmp f pool).setMem mem) lists lists free (block :: free)
      owned where
  kept := (sound.kept.setFmp (by rw [same.idFmp]; rfl)).setMem _
  same := by simpa [Kernel.setFmp, Kernel.setMem] using same
  holds := holds
  transfer := by
    have first := sound.kept.firstWaiter (.fmp f) sound.isFmp
    rw [nobody] at first
    simp only [joined, served, ownedAfter, Reply.ret, first, List.head?_nil,
      Option.toList_none, List.map_nil, List.append_nil, nobody, if_true]
    exact .giveBack owns

/-- Every answer of a service is one transition. -/
def Supplies (rule : Rule) (f : FmpId) (use : PoolUse) (k : Kernel)
    (lists : Lists) (free owned : List Word) (outcome : Outcome) : Prop :=
  outcome.Ensures fun k' reply => ∃ lists' free',
    Supplied rule f use reply k k' lists lists' free free' owned

theorem Supplies.fromInterrupt {outcome : Outcome}
    (supplies : Supplies rule f use k lists free owned outcome) :
    Supplies rule f use k lists free owned outcome.fromInterrupt :=
  Outcome.Ensures.fromInterrupt supplies
    fun _ _ ⟨lists', free', kept, same, holds, transfer⟩ =>
      ⟨lists', free', kept.request, same, ⟨holds.chain, holds.count⟩,
        transfer⟩

theorem PoolSound.refused (sound : PoolSound rule f k lists free owned)
    {reply : Reply} (refuses : reply.Refuses) :
    ∃ lists' free',
      Supplied rule f use reply k k lists lists' free free' owned := by
  obtain ⟨noErr, answered, value⟩ := refuses
  refine ⟨lists, free, sound.idle sound.kept rfl rfl rfl ?_ ?_ ?_⟩ <;>
    cases use <;> simp [ownedAfter, joined, served, noErr, answered]

theorem PoolSound.checked (sound : PoolSound rule f k lists free owned)
    {fmp : Option FmpId} (this : fmp = some f) {badParam : Nat → Bool}
    {wrongContext : Bool} {body : Nat → Outcome}
    (supplies : Supplies rule f use k lists free owned (body f)) :
    Supplies rule f use k lists free owned
      (checked k fmp badParam k.isFmp wrongContext body) :=
  ensures_checked this (fun _ => sound.refused) supplies

theorem PoolSound.getBody (sound : PoolSound rule f k lists free owned)
    {taken : Kernel → FmpId → Outcome}
    (supplies : free = [] →
      Supplies rule f .get k lists free owned (taken k f)) :
    Supplies rule f .get k lists free owned (fmemGetBody k taken f) := by
  cases free with
  | nil =>
      rw [fmemGetBody_none taken sound.holds]
      exact supplies rfl
  | cons block free =>
      obtain ⟨pool, run, same, holds⟩ := fmemGetBody_take block taken sound.holds
      rw [run]
      exact ensures_some ⟨lists, free, sound.take same holds⟩

theorem PoolSound.releaseBody
    (sound : PoolSound rule f k lists free owned) (owns : block ∈ owned)
    (fuel : Nat) :
    Supplies rule f (.release block) k lists free owned
      (fmemReleaseBody fuel k block f) := by
  cases waiting : lists.task (.wait (.fmp f)) with
  | cons t rest =>
      obtain ⟨k', lists', run, changed⟩ :=
        fmemReleaseBody_pass fuel block sound.kept sound.isFmp waiting
      rw [run]
      exact ensures_some ⟨lists', free, sound.pass owns waiting changed _⟩
  | nil =>
      have fresh : block ∉ free := fun member =>
        (List.nodup_append.mp sound.nodup).2.2 block member block owns rfl
      obtain ⟨pool, run, same, holds⟩ := fmemReleaseBody_put fuel block
        sound.kept sound.isFmp waiting sound.holds
        (sound.notNull (sound.mem_blocks.mpr (.inr owns))) fresh
        (sound.room owns)
      rw [run]
      exact ensures_some
        ⟨lists, block :: free, sound.giveBack owns waiting same holds⟩

/-- A polling service that finds no block answers `TERR_TIMEOUT`. -/
theorem PoolSound.refuse (sound : PoolSound rule f k lists free owned) :
    Supplies rule f use k lists free owned (some (k, .ret .timeout)) :=
  ensures_some (sound.refused ⟨by simp [Reply.ret], by simp [Reply.ret], rfl⟩)

theorem PoolSound.sleep (sound : PoolSound rule f k lists free owned)
    (running : (k.tcb k.tnCurrRunTask).taskState = .runnable)
    (stop : rule.stop k.tnCurrRunTask) {timeout : Word}
    (waits : rule.waits (some (.fmp f)) timeout) (none : free = []) :
    Supplies rule f .get k lists free owned (do
      let k ← taskCurrToWaitAction k (some (.fmp f)) .wfixmem timeout
      some (k, .block)) := by
  subst none
  obtain ⟨k₁, lists', result, changed⟩ := sound.kept.sleep running stop waits
    (show WaitReason.fits .wfixmem (some (.fmp f)) = true from rfl)
    sound.isFmp
  rw [result]
  exact ensures_some ⟨lists', [], sound.wait changed⟩

theorem Quiet.supplied (sound : PoolSound rule f k lists free owned)
    (quiet : Quiet rule k k' lists lists') :
    Supplied rule f .other reply k k' lists lists' free free owned :=
  sound.idle quiet.kept quiet.same.fmp quiet.same.mem (quiet.waits _) rfl rfl
    rfl

end Pool

end UsbBulk
