import UsbBulk.Kernel.Clients
import UsbBulk.Usb.Ep0
import UsbBulk.WordMemory

/-!
# Packets in the blocks of a pool

A pool whose blocks have the size of a packet, and a queue of such blocks.  What
is written into one block cannot be seen in another one.
-/

namespace UsbBulk

/-- The payload in the block or buffer at an address. -/
def payloadAt (mem : Word → Word) (address : Word) : List Word :=
  readWords mem address (usbMaxPacket0 / 4)

theorem UsbPacket.length_words (packet : UsbPacket) :
    packet.words.length ≤ usbMaxPacket0 / 4 := by
  have bounded := packet.bounded
  rw [packet.whole]
  simp only [usbMaxPacket0] at *
  omega

/-- The blocks of a pool are where `tn_fmem_create` has put them. -/
structure Region where
  start : Word
  count : Nat
  bounded : start.toNat + (BitVec.ofNat 32 usbMaxPacket0 : Word).toNat * count
    ≤ 2 ^ 32
  notNull : start ≠ 0

def Region.blocks (region : Region) : List Word :=
  UsbBulk.blocks region.start (BitVec.ofNat 32 usbMaxPacket0) region.count

section Blocks

variable {region : Region} {block other : Word} {mem mem' : Word → Word}

theorem Region.nodup (region : Region) : region.blocks.Nodup :=
  nodup_blocks region.bounded (by decide)

/-- What is written inside one block cannot be seen in another one. -/
theorem payloadAt_congr
    (inside : WritesInside (BitVec.ofNat 32 usbMaxPacket0) [block] mem mem')
    (member : block ∈ region.blocks) (member' : other ∈ region.blocks)
    (different : other ≠ block) : payloadAt mem' other = payloadAt mem other := by
  refine readWords_congr fun i small => ?_
  by_contra changed
  obtain ⟨writer, isBlock, covers⟩ := inside _ changed
  obtain rfl := List.mem_singleton.mp isBlock
  have own : InBlock (BitVec.ofNat 32 usbMaxPacket0) other (wordAt other i) :=
    inBlock_wordAt (by simp [usbMaxPacket0] at *; omega)
  exact different (InBlock.unique region.bounded member' member own covers)

/-- What is written inside an owned block leaves the chain of free blocks
alone. -/
theorem free_congr
    (inside : WritesInside (BitVec.ofNat 32 usbMaxPacket0) [block] mem mem')
    (member : block ∈ region.blocks) (member' : other ∈ region.blocks)
    (different : other ≠ block) : mem' other = mem other := by
  by_contra changed
  obtain ⟨writer, isBlock, covers⟩ := inside _ changed
  obtain rfl := List.mem_singleton.mp isBlock
  exact different (InBlock.unique region.bounded member' member
    (inBlock_self (by decide)) covers)

/-- The blocks of a pool in two groups, and a write inside a block of the second
group. -/
theorem Region.frame {free used : List Word}
    (stock : (free ++ used).Perm region.blocks)
    (inside : WritesInside (BitVec.ofNat 32 usbMaxPacket0) [block] mem mem')
    (owns : block ∈ used) :
    (∀ other ∈ free, mem' other = mem other) ∧
      ∀ other ∈ used, other ≠ block →
        payloadAt mem' other = payloadAt mem other := by
  have member : ∀ {other}, other ∈ free ∨ other ∈ used →
      other ∈ region.blocks := fun isBlock =>
    stock.mem_iff.mp (List.mem_append.mpr isBlock)
  have apart := (List.nodup_append.mp
    (stock.nodup_iff.mpr region.nodup)).2.2
  refine ⟨fun other isFree => ?_, fun other isUsed different => ?_⟩
  · exact free_congr inside (member (.inr owns)) (member (.inl isFree))
      (apart other isFree block owns)
  · exact payloadAt_congr inside (member (.inr owns)) (member (.inr isUsed))
      different

theorem writesInside_update (block link : Word) (mem : Word → Word) :
    WritesInside (BitVec.ofNat 32 usbMaxPacket0) [block] mem
      (Function.update mem block link) := by
  intro address changed
  obtain rfl : address = block := by
    by_contra other
    exact changed (Function.update_of_ne other _ _)
  exact ⟨address, by simp, inBlock_self (by decide)⟩

theorem Region.ne_zero (member : block ∈ region.blocks) : block ≠ 0 :=
  ne_zero_of_mem_blocks region.bounded (by decide) region.notNull member

@[simp] theorem Region.length_blocks (region : Region) :
    region.blocks.length = region.count :=
  UsbBulk.length_blocks _ _ _

end Blocks

/-! ## Creation -/

/-- The queue and the pool have been created and not been used. -/
structure FreshPipe (image : Image) (d : DqueId) (f : FmpId) (n : Nat)
    (region : Region) (k : Kernel) (lists : Lists) (s : Shared) : Prop where
  shares : Shares image.untimedRule (· = d) (· = f) k lists s
  two : 2 ≤ n
  count : region.count = n
  free : s.free f = region.blocks
  total : s.total f = n
  items : s.items d = []
  capacity : s.capacity d = n - 1
  senders : s.waiting (.dqueSend d) = []
  receivers : s.waiting (.dqueReceive d) = []
  takers : s.waiting (.fmp f) = []

/-- After `tn_queue_create` and `tn_fmem_create`. -/
theorem FreshPipe.of_creations {image : Image} {d : DqueId} {f : FmpId} {n : Nat}
    {k k₁ k₂ : Kernel} {cells : Int → Word} {startAddr : Word}
    (reachable : Reachable image image.Untimed k)
    (queue : Step image image.Untimed k
      (.call (.queueCreate (some d) (some cells) n) (.ret .noErr)) k₁)
    (pool : Step image image.Untimed k₁
      (.call (.fmemCreate (some f) startAddr
        (BitVec.ofNat 32 usbMaxPacket0) n) (.ret .noErr)) k₂)
    (fits : Fits startAddr (BitVec.ofNat 32 usbMaxPacket0) n)
    (all : (k₂.fmp f).numBlocks = n) :
    k₂.InSystem ∧ ∃ region lists s, FreshPipe image d f n region k₂ lists s ∧
      region.start = alignUp startAddr := by
  refine ⟨(reachable.inSystem.step queue).step pool, ?_⟩
  obtain ⟨lists, kept⟩ := reachable.kept
  obtain ⟨s, shares, unused⟩ := Shares.of_kept kept
  cases queue with
  | call _ _ _ _ _ create =>
  obtain ⟨lists₁, s₁, shares₁, unused₁, capacity, _⟩ :=
    shares.queueCreate unused create
  cases pool with
  | call _ _ _ _ _ make =>
  obtain ⟨lists₂, s₂, shares₂, unused₂, free, total, capacity₂, placed, _⟩ :=
    shares₁.fmemCreate unused₁ fits make fun _ absurd => absurd.elim
  obtain ⟨_, _, _, start, size, two, _⟩ := tnFmemCreate_frame make placed
  obtain ⟨bounded, _, notNull, _⟩ := placed
  rw [size, all] at bounded
  rw [all] at two
  refine ⟨⟨_, n, bounded, notNull⟩, lists₂, s₂,
    ⟨shares₂.mono (fun _ => .inr) (fun _ => .inr), by omega, rfl, ?_, ?_,
      unused₂.items d (.inr rfl), ?_, unused₂.senders d (.inr rfl),
      unused₂.receivers d (.inr rfl), unused₂.takers f (.inr rfl)⟩, start⟩
  · rw [free, Function.update_self, Kernel.poolBlocks, size, all]
    rfl
  · rw [total, Function.update_self, all]
    rfl
  · rw [capacity₂, capacity, Function.update_self]
    omega

end UsbBulk
