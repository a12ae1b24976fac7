import UsbBulk.Usb.Dma

/-!
# Reception with DMA drops no packet

At most one descriptor is active, and while it is, or while its packet waits to
be copied, the queue has room for two elements or the consumer waits.  So there
is a free block for the packet and a place for the block.
-/

namespace UsbBulk

/-! ## The descriptors -/

section Descriptors

variable {edi : EpDmaInfo} {ram ram' : Word → Word} {c i j : Nat}
variable {value : Word}

/-- The `c`-th descriptor is in the UDCA slot, and all others are retired. -/
structure Descriptors (edi : EpDmaInfo) (ram : Word → Word) (c : Nat) :
    Prop where
  bounded : c < edi.epDmaAddr.nbuffers
  current : ram edi.pUdcaPos = edi.epDmaAddr.dd c
  retired : ∀ i < edi.epDmaAddr.nbuffers, i ≠ c →
    ddRetired ram (edi.epDmaAddr.dd i) = true
  buffer : ∀ i < edi.epDmaAddr.nbuffers,
    ram (wordAt (edi.epDmaAddr.dd i) 5) = edi.epDmaAddr.buffer i
  start : ddRetired ram (edi.epDmaAddr.dd c) = false →
    ram (wordAt (edi.epDmaAddr.dd c) 2) = edi.epDmaAddr.buffer c

theorem EpDmaInfo.buffer_word_ne (edi : EpDmaInfo) {i' m : Nat}
    (small : i < edi.epDmaAddr.nbuffers) (inside : m < usbMaxPacket0 / 4)
    (small' : i' < edi.epDmaAddr.nbuffers) (word : j < epDdTotalSize) :
    wordAt (edi.epDmaAddr.buffer i) m ≠
      wordAt (edi.epDmaAddr.dd i') j := by
  rw [EpDmaAddr.dd_word]
  refine (edi.bufferApart i small m inside).2 _ ?_
  simp only [epDdTotalSize] at *
  omega

/-- Of a descriptor and the slot only the words 2, 3 and 5 count. -/
theorem Descriptors.congr (sound : Descriptors edi ram c)
    (slot : ram' edi.pUdcaPos = ram edi.pUdcaPos)
    (same : ∀ i < edi.epDmaAddr.nbuffers, ∀ j < epDdTotalSize,
      ram' (wordAt (edi.epDmaAddr.dd i) j) =
        ram (wordAt (edi.epDmaAddr.dd i) j)) :
    Descriptors edi ram' c where
  bounded := sound.bounded
  current := slot.trans sound.current
  retired i small other := by
    rw [ddRetired_congr (same i small 3 (by decide))]
    exact sound.retired i small other
  buffer i small :=
    (same i small 5 (by decide)).trans (sound.buffer i small)
  start active := by
    rw [ddRetired_congr (same c sound.bounded 3 (by decide))] at active
    exact (same c sound.bounded 2 (by decide)).trans (sound.start active)

/-- After `tn_usb_dma_rx_init` the first descriptor is active. -/
theorem tnUsbDmaRxInit_spec (some : 0 < edi.epDmaAddr.nbuffers)
    (ram : Word → Word) :
    Descriptors edi (tnUsbDmaRxInit edi.toEpDmaTable ram) 0 := by
  have all := tnUsbDmaRxInit_initialised edi.toEpDmaTable ram
  refine ⟨some, all.current some, fun i small other => ?_, all.buffer,
    fun _ => all.start 0 some⟩
  rw [all.retired i small]
  simpa using other

/-! ### A transfer -/

/-- The packet is at the start of the buffer of a descriptor. -/
def Arrived (edi : EpDmaInfo) (ram : Word → Word) (c : Nat)
    (packet : UsbPacket) : Prop :=
  packet.words <+:
    readWords ram (edi.epDmaAddr.buffer c) (usbMaxPacket0 / 4)

/-- Writing a packet into a buffer does not touch the descriptors. -/
theorem Descriptors.write (sound : Descriptors edi ram c) {words : List Word}
    (short : words.length ≤ usbMaxPacket0 / 4) :
    Descriptors edi (writeWords ram (edi.epDmaAddr.buffer c) words) c ∧
      ∀ i < edi.epDmaAddr.nbuffers,
        ddRetired (writeWords ram (edi.epDmaAddr.buffer c) words)
          (edi.epDmaAddr.dd i) = ddRetired ram (edi.epDmaAddr.dd i) := by
  have same : ∀ i < edi.epDmaAddr.nbuffers, ∀ j < epDdTotalSize,
      writeWords ram (edi.epDmaAddr.buffer c) words
          (wordAt (edi.epDmaAddr.dd i) j) =
        ram (wordAt (edi.epDmaAddr.dd i) j) := fun i small j word =>
    writeWords_outside fun m inside =>
      (edi.buffer_word_ne sound.bounded (by omega) small word).symm
  refine ⟨sound.congr ?_ same, fun i small => ?_⟩
  · exact writeWords_outside fun m inside =>
      (edi.bufferApart c sound.bounded m (by omega)).1.symm
  · exact ddRetired_congr (same i small 3 (by decide))

theorem Descriptors.retire (sound : Descriptors edi ram c) (position : Word)
    {status : Word} (retires : status &&& 1 ≠ 0) :
    let after := Function.update
      (Function.update ram (wordAt (edi.epDmaAddr.dd c) 2) position)
      (wordAt (edi.epDmaAddr.dd c) 3) status
    Descriptors edi after c ∧
      ddRetired after (edi.epDmaAddr.dd c) = true ∧
      ∀ m < usbMaxPacket0 / 4,
        after (wordAt (edi.epDmaAddr.buffer c) m) =
          ram (wordAt (edi.epDmaAddr.buffer c) m) := by
  intro after
  have other : ∀ address, address ≠ wordAt (edi.epDmaAddr.dd c) 2 →
      address ≠ wordAt (edi.epDmaAddr.dd c) 3 →
      after address = ram address := fun address two three =>
    (Function.update_of_ne three _ _).trans (Function.update_of_ne two _ _)
  have word : ∀ i < edi.epDmaAddr.nbuffers, ∀ j < epDdTotalSize,
      (i = c → j ≠ 2 ∧ j ≠ 3) → after (wordAt (edi.epDmaAddr.dd i) j) =
        ram (wordAt (edi.epDmaAddr.dd i) j) := by
    intro i small j short away
    refine other _ ?_ ?_ <;> rw [Ne, edi.dd_word_inj small short
      sound.bounded (by decide)] <;> grind
  have own : ddRetired after (edi.epDmaAddr.dd c) = true := by
    simpa [ddRetired, after] using retires
  refine ⟨⟨sound.bounded, ?_, fun i small different => ?_,
    fun i small => ?_, fun active => ?_⟩, own, fun m inside => ?_⟩
  · rw [other _ (edi.dd_word_ne_slot sound.bounded (by decide)).symm
      (edi.dd_word_ne_slot sound.bounded (by decide)).symm]
    exact sound.current
  · rw [ddRetired_congr (word i small 3 (by decide) fun same =>
      absurd same different)]
    exact sound.retired i small different
  · rw [word i small 5 (by decide) fun _ => by decide]
    exact sound.buffer i small
  · rw [own] at active
    cases active
  · exact other _
      (edi.buffer_word_ne sound.bounded inside sound.bounded (by decide))
      (edi.buffer_word_ne sound.bounded inside sound.bounded (by decide))

theorem DmaEp.transfer_spec {ep : DmaEp} (sound : Descriptors edi ep.ram c)
    (active : ddRetired ep.ram (edi.epDmaAddr.dd c) = false)
    (packet : UsbPacket) (position : Word) {status : Word}
    (retires : status &&& 1 ≠ 0) (enabled : Bool) :
    let after := (ep.transfer edi packet position status enabled).ram
    Descriptors edi after c ∧
      ddRetired after (edi.epDmaAddr.dd c) = true ∧
      Arrived edi after c packet := by
  have there : ep.current edi = edi.epDmaAddr.dd c := sound.current
  have short := packet.length_words
  obtain ⟨written, _⟩ := sound.write short
  obtain ⟨retired, own, data⟩ := written.retire position retires
  simp only [DmaEp.transfer, there, sound.start active]
  refine ⟨retired, own, ?_⟩
  rw [Arrived, readWords_congr data]
  exact readWords_writeWords short (by decide)

/-! ### A request -/

/-- The loop finds a retired descriptor that is not current, if there is one. -/
theorem activateFrom_spec (sound : Descriptors edi ram c) (left : Nat)
    (all : i + left = edi.epDmaAddr.nbuffers)
    (some : ∃ other, i ≤ other ∧ other < edi.epDmaAddr.nbuffers ∧
      other ≠ c) :
    ∃ next, next < edi.epDmaAddr.nbuffers ∧ next ≠ c ∧
      activateFrom edi left ram (edi.epDmaAddr.dd i) =
        Function.update (Function.update (Function.update (Function.update
          ram (wordAt (edi.epDmaAddr.dd next) 0) 0)
          (wordAt (edi.epDmaAddr.dd next) 3) 0)
          (wordAt (edi.epDmaAddr.dd next) 2) (edi.epDmaAddr.buffer next))
          edi.pUdcaPos (edi.epDmaAddr.dd next) := by
  induction left generalizing i with
  | zero =>
      obtain ⟨other, below, above, _⟩ := some
      omega
  | succ left ih =>
      have small : i < edi.epDmaAddr.nbuffers := by omega
      rw [activateFrom, sound.current]
      by_cases this : i = c
      · subst this
        rw [if_neg (by simp), EpDmaAddr.dd_succ]
        obtain ⟨other, below, above, different⟩ := some
        exact ih (by omega) ⟨other, by omega, above, different⟩
      · refine ⟨i, small, this, ?_⟩
        have different : edi.epDmaAddr.dd i ≠ edi.epDmaAddr.dd c := by
          rwa [Ne, edi.dd_inj small sound.bounded]
        rw [if_pos ⟨different, sound.retired i small this⟩]
        -- Word 5 has not been written to.
        have away : ∀ j < epDdTotalSize, j ≠ 5 →
            wordAt (edi.epDmaAddr.dd i) 5 ≠ wordAt (edi.epDmaAddr.dd i) j := by
          intro j word not
          rw [Ne, edi.dd_word_inj small (by decide) small word]
          omega
        dsimp only
        rw [Function.update_of_ne (away 3 (by decide) (by decide)),
          Function.update_of_ne (away 0 (by decide) (by decide)),
          sound.buffer i small]

/-- Activating a descriptor changes its words 0, 2 and 3 only. -/
theorem activated_other {next : Nat} {start dd : Word}
    (small : i < edi.epDmaAddr.nbuffers) (word : j < epDdTotalSize)
    (away : i = next → j = 1 ∨ j = 4 ∨ j = 5)
    (below : next < edi.epDmaAddr.nbuffers := by assumption) :
    Function.update (Function.update (Function.update (Function.update
        ram (wordAt (edi.epDmaAddr.dd next) 0) 0)
        (wordAt (edi.epDmaAddr.dd next) 3) 0)
        (wordAt (edi.epDmaAddr.dd next) 2) start)
        edi.pUdcaPos dd (wordAt (edi.epDmaAddr.dd i) j) =
      ram (wordAt (edi.epDmaAddr.dd i) j) := by
  have different : ∀ j' < epDdTotalSize, j' = 0 ∨ j' = 2 ∨ j' = 3 →
      wordAt (edi.epDmaAddr.dd i) j ≠ wordAt (edi.epDmaAddr.dd next) j' := by
    intro j' word' written
    rw [Ne, edi.dd_word_inj small word below word']
    rintro ⟨rfl, rfl⟩
    have := away rfl
    omega
  rw [Function.update_of_ne (edi.dd_word_ne_slot small word),
    Function.update_of_ne (different 2 (by decide) (by simp)),
    Function.update_of_ne (different 3 (by decide) (by simp)),
    Function.update_of_ne (different 0 (by decide) (by simp))]

/-- `ep_rx_DD_request` leaves one active descriptor, the one in the slot. -/
theorem Descriptors.activate (sound : Descriptors edi ram c)
    (idle : ddRetired ram (edi.epDmaAddr.dd c) = true)
    (two : 2 ≤ edi.epDmaAddr.nbuffers) :
    ∃ next, Descriptors edi (activateFrom edi edi.epDmaAddr.nbuffers ram
      edi.epDmaAddr.pDD) next := by
  have first : edi.epDmaAddr.dd 0 = edi.epDmaAddr.pDD := by
    rw [EpDmaAddr.dd, Nat.mul_zero, wordAt_zero]
  have another : ∃ other, 0 ≤ other ∧ other < edi.epDmaAddr.nbuffers ∧
      other ≠ c := by
    by_cases zero : c = 0
    · exact ⟨1, by omega, by omega, by omega⟩
    · exact ⟨0, by omega, by omega, by omega⟩
  obtain ⟨next, small, different, result⟩ :=
    activateFrom_spec sound edi.epDmaAddr.nbuffers (Nat.zero_add _) another
  rw [first] at result
  rw [result]
  refine ⟨next, small, Function.update_self _ _ _, fun i below other => ?_,
    fun i below => ?_, fun _ => ?_⟩
  · rw [ddRetired_congr (activated_other below (by decide)
      fun same => absurd same other)]
    by_cases old : i = c
    · rw [old]
      exact idle
    · exact sound.retired i below old
  · rw [activated_other below (by decide) fun _ => by decide]
    exact sound.buffer i below
  · rw [Function.update_of_ne (edi.dd_word_ne_slot small (by decide)),
      Function.update_self]

end Descriptors

/-! ## The invariant -/

/-- The test of `ep_rx_DD_request` is right. -/
theorem Kernel.QueueHolds.fifoFull_iff {k : Kernel} {d : DqueId}
    {items : List Word} {capacity : Nat}
    (holds : k.QueueHolds d items capacity) (some : 0 < capacity) :
    (k.dque d).fifoFull = true ↔ items.length = capacity := by
  obtain ⟨_, shape, rfl, rfl⟩ := holds
  have positive : 0 < (k.dque d).numEntries := by
    simp only [Dque.capacity] at some
    omega
  have bounded := shape.bounded positive
  have length := bounded.length_contents (k.dque d).cell
  have test := bounded.full_iff
  simp only [Dque.fifoFull, Bool.or_eq_true, Bool.and_eq_true,
    decide_eq_true_eq, test, Dque.items, Dque.capacity,
    if_neg (Int.not_le.mpr positive)]
  omega

/-- The words of a packet are at the start of a payload. -/
def Carries (packet : UsbPacket) (payload : List Word) : Prop :=
  packet.words <+: payload

/-- The blocks that the consumer owns, and those among them that it has not looked
at. -/
inductive Holding (task : TaskId) (d : DqueId) (s : Shared) :
    Consumer → List Word → List Word → Prop where
  | receive (nobody : s.waiting (.dqueReceive d) = []) :
      Holding task d s .receive [] []
  | asleep (waiting : s.waiting (.dqueReceive d) = [task])
      (empty : s.items d = []) : Holding task d s .receiving [] []
  | served (nobody : s.waiting (.dqueReceive d) = [])
      (noErr : s.waitRc task = .noErr) :
      Holding task d s .receiving [s.elem task] [s.elem task]
  | processing {ptr : Word} (nobody : s.waiting (.dqueReceive d) = []) :
      Holding task d s (.processing ptr) [ptr] []
  | enable (nobody : s.waiting (.dqueReceive d) = []) :
      Holding task d s .enable [] []

/-- The payload of the transfer that waits to be copied. -/
def DmaEp.pending (ep : DmaEp) (edi : EpDmaInfo) (c : Nat) :
    List (List Word) :=
  if ep.eotIntSt then [payloadAt ep.ram (edi.epDmaAddr.buffer c)] else []

/-- The reception is in order: `c` is the current descriptor, `owned` are the blocks
of the consumer, and `unread` those it has not looked at. -/
structure Reception (image : Image) (edi : EpDmaInfo) (task : TaskId)
    (region : Region) (st : DmaRx) (lists : Lists) (s : Shared) (c : Nat)
    (owned unread : List Word) : Prop where
  shares : Shares image.untimedRule (· = edi.queue) (· = edi.memPool)
    st.kernel lists s
  descriptors : Descriptors edi st.ep.ram c
  two : 2 ≤ edi.epDmaAddr.nbuffers
  capacity : s.capacity edi.queue = edi.epDmaAddr.nbuffers - 1
  total : s.total edi.memPool = edi.epDmaAddr.nbuffers
  count : region.count = edi.epDmaAddr.nbuffers
  stock : (s.free edi.memPool ++ (s.items edi.queue ++ owned)).Perm
    region.blocks
  senders : s.waiting (.dqueSend edi.queue) = []
  takers : s.waiting (.fmp edi.memPool) = []
  holding : Holding task edi.queue s st.consumer owned unread
  room : ddRetired st.ep.ram (edi.epDmaAddr.dd c) = false ∨
    st.ep.eotIntSt = true →
      (s.items edi.queue).length + 2 ≤ edi.epDmaAddr.nbuffers
  transferred : st.ep.eotIntSt = true →
    ddRetired st.ep.ram (edi.epDmaAddr.dd c) = true
  requested : st.ep.nddrIntSt = true →
    ddRetired st.ep.ram (edi.epDmaAddr.dd c) = true
  delivered : List.Forall₂ Carries st.acknowledged
    (st.received ++ (unread ++ s.items edi.queue).map (payloadAt s.mem) ++
      st.ep.pending edi c)

section Invariant

variable {image : Image} {edi : EpDmaInfo} {task : TaskId} {region : Region}
variable {st : DmaRx} {lists : Lists} {s : Shared} {c : Nat}
variable {owned unread : List Word} {block other : Word}
variable {mem mem' : Word → Word}

theorem Holding.owned_short {d : DqueId} {consumer : Consumer}
    (holding : Holding task d s consumer owned unread) :
    owned.length ≤ 1 := by
  cases holding <;> simp

theorem Holding.unread_owned {d : DqueId} {consumer : Consumer}
    (holding : Holding task d s consumer owned unread)
    (member : block ∈ unread) : block ∈ owned := by
  cases holding <;> simp_all

/-- Unless the consumer waits for an element, its blocks stay the same. -/
theorem Holding.congr {d : DqueId} {consumer : Consumer} {s' : Shared}
    (holding : Holding task d s consumer owned unread)
    (nobody : s.waiting (.dqueReceive d) = [])
    (waiting : s'.waiting (.dqueReceive d) = [])
    (elem : s'.elem task = s.elem task)
    (waitRc : s'.waitRc task = s.waitRc task) :
    Holding task d s' consumer owned unread := by
  cases holding with
  | receive _ => exact .receive waiting
  | asleep someone _ =>
      rw [nobody] at someone
      cases someone
  | served _ noErr =>
      rw [← elem]
      exact .served waiting (waitRc.trans noErr)
  | processing _ => exact .processing waiting
  | enable _ => exact .enable waiting

namespace Reception

theorem mem_blocks (sound : Reception image edi task region st lists s c owned
    unread) :
    block ∈ region.blocks ↔ block ∈ s.free edi.memPool ∨
      block ∈ s.items edi.queue ∨ block ∈ owned := by
  rw [← sound.stock.mem_iff, List.mem_append, List.mem_append]

theorem apart (sound : Reception image edi task region st lists s c owned
    unread) (free : block ∈ s.free edi.memPool)
    (used : other ∈ s.items edi.queue ∨ other ∈ owned) : other ≠ block := by
  have nodup := sound.stock.nodup_iff.mpr region.nodup
  rintro rfl
  exact (List.nodup_append.mp nodup).2.2 other free other
    (List.mem_append.mpr used) rfl

theorem total_count (sound : Reception image edi task region st lists s c
    owned unread) :
    (s.free edi.memPool).length +
      ((s.items edi.queue).length + owned.length) =
        edi.epDmaAddr.nbuffers := by
  have total := sound.stock.length_eq
  simpa [Region.blocks, sound.count] using total

/-- While a packet may arrive, there is a free block for it. -/
theorem free_block (sound : Reception image edi task region st lists s c owned
    unread)
    (room : (s.items edi.queue).length + 2 ≤ edi.epDmaAddr.nbuffers) :
    ∃ ptr rest, s.free edi.memPool = ptr :: rest := by
  have total := sound.total_count
  have short := sound.holding.owned_short
  cases free : s.free edi.memPool with
  | nil =>
      rw [free] at total
      simp only [List.length_nil] at total
      omega
  | cons ptr rest => exact ⟨ptr, rest, rfl⟩

/-! ### A packet is copied into the first free block, and the block is sent -/

section Copied

variable (sound : Reception image edi task region st lists s c owned unread)
variable {ptr : Word} {rest : List Word} (free : s.free edi.memPool = ptr :: rest)
variable (inside : WritesInside (BitVec.ofNat 32 usbMaxPacket0) [ptr] s.mem mem)

include sound free inside

theorem copied_free (left : other ∈ rest) : mem other = s.mem other := by
  have isFree : other ∈ s.free edi.memPool := by simp [free, left]
  have nodup := (sound.stock.nodup_iff.mpr region.nodup).of_append_left
  rw [free] at nodup
  refine free_congr inside (sound.mem_blocks.mpr (.inl (by simp [free])))
    (sound.mem_blocks.mpr (.inl isFree)) ?_
  rintro rfl
  exact (List.nodup_cons.mp nodup).1 left

/-- The packet is behind the data that is on its way. -/
theorem copied_delivered (arrived : st.ep.eotIntSt = true)
    (copied : payloadAt mem ptr =
      payloadAt st.ep.ram (edi.epDmaAddr.buffer c)) :
    List.Forall₂ Carries st.acknowledged (st.received ++
      (unread ++ (s.items edi.queue ++ [ptr])).map (payloadAt mem)) := by
  have isFree : ptr ∈ s.free edi.memPool := by simp [free]
  have others : (unread ++ s.items edi.queue).map (payloadAt mem) =
      (unread ++ s.items edi.queue).map (payloadAt s.mem) := by
    refine List.map_congr_left fun other member => ?_
    have used : other ∈ s.items edi.queue ∨ other ∈ owned :=
      (List.mem_append.mp member).symm.imp_right sound.holding.unread_owned
    exact payloadAt_congr inside (sound.mem_blocks.mpr (.inl isFree))
      (sound.mem_blocks.mpr (.inr used)) (sound.apart isFree used)
  have before := sound.delivered
  rw [DmaEp.pending, if_pos arrived, ← copied, ← others] at before
  simpa using before

omit free inside in
theorem copied_idle (arrived : st.ep.eotIntSt = true) :
    ¬(ddRetired st.ep.ram (edi.epDmaAddr.dd c) = false ∨ false = true) := by
  rw [sound.transferred arrived]
  decide

theorem stored {k : Kernel} {lists' : Lists} (arrived : st.ep.eotIntSt = true)
    (copied : payloadAt mem ptr =
      payloadAt st.ep.ram (edi.epDmaAddr.buffer c))
    (nobody : s.waiting (.dqueReceive edi.queue) = [])
    (shares : Shares image.untimedRule (· = edi.queue) (· = edi.memPool) k
      lists' (((s.setFree edi.memPool rest).setMem mem).setItems edi.queue
        (s.items edi.queue ++ [ptr]))) :
    Reception image edi task region
      { st with ep := { st.ep.setKernel k with eotIntSt := false } } lists'
      (((s.setFree edi.memPool rest).setMem mem).setItems edi.queue
        (s.items edi.queue ++ [ptr])) c owned unread := by
  have delivered := sound.copied_delivered free inside arrived copied
  refine ⟨shares, sound.descriptors, sound.two, sound.capacity, sound.total,
    sound.count, ?_, sound.senders, sound.takers,
    sound.holding.congr nobody nobody rfl rfl,
    fun may => absurd may (sound.copied_idle arrived), by simp,
    sound.requested, ?_⟩
  · refine List.Perm.trans ?_ sound.stock
    simp only [Shared.setItems, Shared.setMem, Shared.setFree,
      Function.update_self, free]
    grind
  · simpa [DmaEp.pending, Shared.setItems, Shared.setMem, Shared.setFree]
      using delivered

theorem handed {k : Kernel} {lists' : Lists} {s' : Shared}
    (arrived : st.ep.eotIntSt = true)
    (copied : payloadAt mem ptr =
      payloadAt st.ep.ram (edi.epDmaAddr.buffer c))
    (waiting : s.waiting (.dqueReceive edi.queue) = [task])
    (isAfter : s' = (((s.setFree edi.memPool rest).setMem mem).give task
      ptr).wake (.dqueReceive edi.queue) task [])
    (shares : Shares image.untimedRule (· = edi.queue) (· = edi.memPool) k
      lists' s') :
    Reception image edi task region
      { st with ep := { st.ep.setKernel k with eotIntSt := false } } lists' s'
      c [ptr] [ptr] := by
  obtain ⟨empty, isReceiving, rfl, rfl⟩ : s.items edi.queue = [] ∧
      st.consumer = .receiving ∧ owned = [] ∧ unread = [] := by
    have holding := sound.holding
    generalize isConsumer : st.consumer = consumer at holding
    cases holding with
    | asleep _ empty => exact ⟨empty, rfl, rfl, rfl⟩
    | receive gone | served gone _ | processing gone | enable gone =>
        rw [waiting] at gone
        cases gone
  have delivered := sound.copied_delivered free inside arrived copied
  have elem : s'.elem task = ptr := by
    simp [isAfter, Shared.wake, Shared.give]
  refine ⟨shares, sound.descriptors, sound.two, isAfter ▸ sound.capacity,
    isAfter ▸ sound.total, sound.count, ?_, ?_, ?_, ?_,
    fun may => absurd may (sound.copied_idle arrived), by simp,
    sound.requested, ?_⟩
  · refine List.Perm.trans ?_ sound.stock
    simp only [isAfter, Shared.wake, Shared.give, Shared.setMem,
      Shared.setFree, Function.update_self, free, empty]
    grind
  · simpa [isAfter, Shared.wake, Shared.give, Shared.setMem,
      Shared.setFree] using sound.senders
  · simpa [isAfter, Shared.wake, Shared.give, Shared.setMem,
      Shared.setFree] using sound.takers
  · change Holding task edi.queue s' st.consumer [ptr] [ptr]
    rw [isReceiving, ← elem]
    refine .served ?_ ?_ <;> simp [isAfter, Shared.wake]
  · simpa [DmaEp.pending, isAfter, Shared.wake, Shared.give, Shared.setMem,
      Shared.setFree, empty] using delivered

end Copied

theorem copyPacket (sound : Reception image edi task region st lists s c owned
    unread) {k : Kernel} (same : k.mem = s.mem) (ptr : Word) :
    ∃ mem, (st.ep.setKernel k).copyPacket ptr
        (st.ep.ram (wordAt (st.ep.current edi) 5)) = k.setMem mem ∧
      WritesInside (BitVec.ofNat 32 usbMaxPacket0) [ptr] s.mem mem ∧
      payloadAt mem ptr = payloadAt st.ep.ram (edi.epDmaAddr.buffer c) := by
  have current : st.ep.current edi = edi.epDmaAddr.dd c :=
    sound.descriptors.current
  rw [current, sound.descriptors.buffer c sound.descriptors.bounded, ← same]
  refine ⟨_, rfl, fun address changed => ⟨ptr, by simp, ?_⟩, ?_⟩
  · exact writeWords_inside (by simp [usbMaxPacket0]) changed
  · exact readWords_writeWords_self (length_readWords _ _ _) (by decide)

/-- The packet is copied into a free block, and the block is sent. -/
theorem endOfTransfer (sound : Reception image edi task region st lists s c
    owned unread) (context : st.kernel.wrongIntContext = false)
    (arrived : st.ep.eotIntSt = true) (fuel : Nat) :
    ∃ ptr k₁ r₁ k₂ r₂ lists' s' owned' unread',
      tnFmemGetIpolling st.kernel (some edi.memPool) true = some (k₁, r₁) ∧
      r₁.rc = some .noErr ∧ r₁.value = some ptr ∧
      tnQueueIsendPolling fuel
        ((st.ep.setKernel k₁).copyPacket ptr
          (st.ep.ram (wordAt (st.ep.current edi) 5)))
        (some edi.queue) ptr = some (k₂, r₂) ∧
      r₂.rc = some .noErr ∧ k₂.mode = st.kernel.mode ∧
      Reception image edi task region
        { st with ep := { st.ep.setKernel k₂ with eotIntSt := false } }
        lists' s' c owned' unread' := by
  have room := sound.room (.inr arrived)
  obtain ⟨ptr, rest, free⟩ := sound.free_block room
  -- A block is taken.
  obtain ⟨taken, _⟩ := sound.shares.tnFmemGetIpolling rfl context
  obtain ⟨k₁, r₁, lists₁, get, rc₁, value₁, same₁, shares₁⟩ :=
    taken ptr _ (by rw [Shared.get, free])
  -- The packet is copied into it.
  obtain ⟨mem, call, inside, copied⟩ := sound.copyPacket shares₁.mem ptr
  have shares₂ := shares₁.write mem (by
    rintro f rfl other isOther
    exact sound.copied_free free inside
      (by simpa [Shared.setFree] using isOther))
  refine ⟨ptr, k₁, r₁, ?_⟩
  rw [call]
  -- The block is sent.
  obtain ⟨sent, _⟩ := shares₂.tnQueueIsendPolling rfl
    (same₁.wrongIntContext context) fuel ptr
  have mode : ∀ k₂ r₂, tnQueueIsendPolling fuel (k₁.setMem mem)
      (some edi.queue) ptr = some (k₂, r₂) → k₂.mode = st.kernel.mode := by
    intro k₂ r₂ send
    have got : (k₁.setMem mem).mode = st.kernel.mode :=
      Call.exec_mode fuel rfl 0 (.fmemGetIpolling (some edi.memPool) true) _
        get
    exact Call.exec_mode fuel got 0
      (.queueIsendPolling (some edi.queue) ptr) (k₂, r₂) send
  by_cases nobody : s.waiting (.dqueReceive edi.queue) = []
  · have notFull : (s.items edi.queue).length ≠ s.capacity edi.queue := by
      rw [sound.capacity]
      omega
    obtain ⟨k₂, r₂, lists₂, send, rc₂, _, _, shares₃⟩ := sent _
      (by simp [Shared.send, Shared.setFree, Shared.setMem, nobody, notFull]
          rfl)
    exact ⟨k₂, r₂, lists₂, _, owned, unread, get, rc₁, value₁, send, rc₂,
      mode k₂ r₂ send, sound.stored free inside arrived copied nobody shares₃⟩
  · have waiting : s.waiting (.dqueReceive edi.queue) = [task] := by
      have holding := sound.holding
      generalize st.consumer = consumer at holding
      cases holding with
      | asleep waiting _ => exact waiting
      | receive gone | served gone _ | processing gone | enable gone =>
          exact absurd gone nobody
    obtain ⟨s', isAfter⟩ : ∃ s', s' =
      (((s.setFree edi.memPool rest).setMem mem).give task ptr).wake
        (.dqueReceive edi.queue) task [] := ⟨_, rfl⟩
    obtain ⟨k₂, r₂, lists₂, send, rc₂, _, _, shares₃⟩ := sent s'
      (by simp [Shared.send, Shared.setFree, Shared.setMem, waiting, isAfter])
    exact ⟨k₂, r₂, lists₂, s', [ptr], [ptr], get, rc₁, value₁, send, rc₂,
      mode k₂ r₂ send, sound.handed free inside arrived copied waiting isAfter shares₃⟩

/-- `ep_rx_end_of_transfer` on a packet that has arrived. -/
theorem epRxEndOfTransfer (sound : Reception image edi task region st lists s
    c owned unread) (context : st.kernel.wrongIntContext = false)
    (arrived : st.ep.eotIntSt = true) {fuel : Nat} {ep : DmaEp}
    (run : UsbBulk.epRxEndOfTransfer fuel edi st.ep = some ep) :
    ep.eotIntSt = false ∧ ep.kernel.mode = st.kernel.mode ∧
      ∃ lists' s' owned' unread', Reception image edi task region
        { st with ep := ep } lists' s' c owned' unread' := by
  obtain ⟨ptr, k₁, r₁, k₂, r₂, lists', s', owned', unread', get, rc₁, value₁,
    send, rc₂, mode, after⟩ := sound.endOfTransfer context arrived fuel
  have result : UsbBulk.epRxEndOfTransfer fuel edi st.ep =
      some { st.ep.setKernel k₂ with eotIntSt := false } := by
    unfold UsbBulk.epRxEndOfTransfer
    change (tnFmemGetIpolling st.kernel _ _).bind _ = _
    rw [get]
    dsimp only [Option.bind_some]
    rw [if_pos rc₁, value₁]
    change (tnQueueIsendPolling fuel ((st.ep.setKernel k₁).copyPacket ptr
      (st.ep.ram (wordAt (st.ep.current edi) 5))) _ _).bind _ = _
    rw [send]
    rfl
  obtain rfl := Option.some.inj (run.symm.trans result)
  exact ⟨rfl, mode, lists', s', owned', unread', after⟩

/-- `ep_rx_DD_request` while no packet waits to be copied. -/
theorem epRxDdRequest (sound : Reception image edi task region st lists s c
    owned unread) (copied : st.ep.eotIntSt = false)
    (requested : st.ep.nddrIntSt = true) :
    ∃ c', Reception image edi task region
      { st with ep := UsbBulk.epRxDdRequest edi st.ep } lists s c' owned
      unread := by
  have two := sound.two
  have queue := sound.shares.queue edi.queue rfl
  have isFull := queue.fifoFull_iff (by rw [sound.capacity]; omega)
  rw [sound.capacity] at isFull
  unfold UsbBulk.epRxDdRequest
  by_cases full : (st.ep.kernel.dque edi.queue).fifoFull = true
  · rw [if_pos full]
    exact ⟨c, sound.shares, sound.descriptors, two, sound.capacity,
      sound.total, sound.count, sound.stock, sound.senders, sound.takers,
      sound.holding, sound.room, sound.transferred, by simp,
      sound.delivered⟩
  · rw [if_neg full]
    obtain ⟨c', activated⟩ := sound.descriptors.activate
      (sound.requested requested) two
    have bounded := queue.shape.length_items_le
    rw [queue.items, queue.capacity, sound.capacity] at bounded
    refine ⟨c', sound.shares, activated, two, sound.capacity, sound.total,
      sound.count, sound.stock, sound.senders, sound.takers, sound.holding,
      fun _ => ?_, ?_, by simp, ?_⟩
    · have := mt isFull.mpr full
      omega
    · simp [copied]
    · have before := sound.delivered
      simpa [DmaEp.pending, copied] using before

/-- Only the kernel changes, and the abstract state is the same. -/
theorem of_shares (sound : Reception image edi task region st lists s c owned
    unread) {k : Kernel} {lists' : Lists}
    (shares : Shares image.untimedRule (· = edi.queue) (· = edi.memPool) k
      lists' s) :
    Reception image edi task region (st.setKernel k) lists' s c owned
      unread :=
  ⟨shares, sound.descriptors, sound.two, sound.capacity, sound.total,
    sound.count, sound.stock, sound.senders, sound.takers, sound.holding,
    sound.room, sound.transferred, sound.requested, sound.delivered⟩

theorem intFunc (sound : Reception image edi task region st lists s c owned
    unread) (context : st.kernel.wrongIntContext = false) {fuel : Nat}
    {ep : DmaEp} (run : tnUsbIntFunc fuel edi st.ep = some ep) :
    ep.kernel.mode = st.kernel.mode ∧
      ∃ lists' s' c' owned' unread', Reception image edi task region
        { st with ep := ep } lists' s' c' owned' unread' := by
  obtain ⟨between, first, rfl⟩ := Option.map_eq_some_iff.mp run
  -- Afterwards no packet waits to be copied.
  obtain ⟨copied, mode, lists', s', owned', unread', after⟩ :
      between.eotIntSt = false ∧ between.kernel.mode = st.kernel.mode ∧
      ∃ lists' s' owned' unread', Reception image edi task region
        { st with ep := between } lists' s' c owned' unread' := by
    by_cases arrived : st.ep.eotIntSt = true
    · rw [if_pos arrived] at first
      exact sound.epRxEndOfTransfer context arrived first
    · rw [if_neg arrived] at first
      cases first
      exact ⟨by simpa using arrived, rfl, lists, s, owned, unread, sound⟩
  by_cases requested : between.nddrIntSt = true
  · rw [if_pos requested]
    obtain ⟨c', activated⟩ := after.epRxDdRequest copied requested
    refine ⟨?_, lists', s', c', owned', unread', activated⟩
    rw [← mode, UsbBulk.epRxDdRequest]
    split <;> rfl
  · rw [if_neg requested]
    exact ⟨mode, lists', s', c, owned', unread', after⟩

/-! ### The consumer -/

/-- The consumer calls `tn_queue_receive`. -/
theorem receive (sound : Reception image edi task region st lists s c owned
    unread) (here : st.consumer = .receive)
    (context : st.kernel.wrongNonIntContext = false)
    (may : MayWait image.untimedRule st.kernel)
    (current : st.kernel.tnCurrRunTask = task) {fuel : Nat} {k : Kernel}
    {reply : Reply} (run : tnQueueReceive fuel st.kernel (some edi.queue)
      true tnWaitInfinite = some (k, reply)) :
    SameContext st.kernel k ∧ ∃ lists' s' owned' unread',
      Reception image edi task region ((st.setKernel k).answered reply)
        lists' s' c owned' unread' := by
  obtain ⟨nobody, rfl, rfl⟩ : s.waiting (.dqueReceive edi.queue) = [] ∧
      owned = [] ∧ unread = [] := by
    have holding := sound.holding
    rw [here] at holding
    cases holding with
    | receive nobody => exact ⟨nobody, rfl, rfl⟩
  obtain ⟨answers, waits⟩ :=
    sound.shares.tnQueueReceive rfl context may fuel
  have before := sound.delivered
  cases items : s.items edi.queue with
  | cons first left =>
      obtain ⟨k', reply', lists', run', rc, value, same, shares⟩ :=
        answers first (s.setItems edi.queue left)
          (by simp [Shared.receive, items, sound.senders])
      cases run.symm.trans run'
      have mem : k.mem = s.mem := shares.mem
      have after : (st.setKernel k).answered reply =
          { st.setKernel k with
            consumer := .processing first
            received := st.received ++ [payloadAt s.mem first] } := by
        simp only [DmaRx.answered, rc, value, Option.getD_some, ← mem]
        rfl
      rw [after]
      refine ⟨same, lists', _, [first], [], shares, sound.descriptors,
        sound.two, sound.capacity, sound.total, sound.count, ?_,
        sound.senders, sound.takers, .processing nobody, fun may => ?_,
        sound.transferred, sound.requested, ?_⟩
      · refine List.Perm.trans ?_ sound.stock
        simp only [Shared.setItems, Function.update_self, items]
        grind
      · have room := sound.room may
        simp only [Shared.setItems, Function.update_self, items,
          List.length_cons] at room ⊢
        omega
      · change List.Forall₂ Carries st.acknowledged (_ ++ _ ++
          st.ep.pending edi c)
        simpa [Shared.setItems, items] using before
  | nil =>
      obtain ⟨k', reply', lists', run', rc, value, same, shares⟩ :=
        waits (by simp [Shared.receive, items, sound.senders])
      cases run.symm.trans run'
      rw [current] at shares
      have after : (st.setKernel k).answered reply =
          { st.setKernel k with consumer := .receiving } := by
        simp only [DmaRx.answered, rc]
      rw [after]
      refine ⟨same, lists', _, [], [], shares, sound.descriptors, sound.two,
        sound.capacity, sound.total, sound.count, sound.stock, ?_, ?_,
        .asleep ?_ items, sound.room, sound.transferred, sound.requested,
        before⟩
      · simpa [Shared.sleep] using sound.senders
      · simpa [Shared.sleep] using sound.takers
      · simp [Shared.sleep, nobody]

theorem resume (sound : Reception image edi task region st lists s c owned
    unread) (here : st.consumer = .receiving) (runs : st.Runs task) :
    ∃ owned' unread', Reception image edi task region
      (st.returns (st.kernel.tcb task).taskWaitRc
        (st.kernel.tcb task).dataElem) lists s c owned' unread' := by
  have holding := sound.holding
  rw [here] at holding
  have before := sound.delivered
  cases holding with
  | asleep waiting _ =>
      have member : task ∈ s.waiting (.dqueReceive edi.queue) := by
        simp [waiting]
      exact absurd runs.runnable (sound.shares.asleep member)
  | served nobody noErr =>
      have after : st.returns (st.kernel.tcb task).taskWaitRc
          (st.kernel.tcb task).dataElem =
          { st with
            consumer := .processing (s.elem task)
            received := st.received ++ [payloadAt s.mem (s.elem task)] } := by
        rw [sound.shares.waitRc, noErr, sound.shares.elem, ← sound.shares.mem]
        rfl
      rw [after]
      exact ⟨[s.elem task], [], sound.shares, sound.descriptors, sound.two,
        sound.capacity, sound.total, sound.count, sound.stock, sound.senders,
        sound.takers, .processing nobody, sound.room, sound.transferred,
        sound.requested, by simpa [DmaEp.pending] using before⟩

theorem processing (sound : Reception image edi task region st lists s c owned
    unread) {ptr : Word} (here : st.consumer = .processing ptr) :
    s.waiting (.dqueReceive edi.queue) = [] ∧ owned = [ptr] ∧
      unread = [] := by
  have holding := sound.holding
  rw [here] at holding
  cases holding with
  | processing nobody => exact ⟨nobody, rfl, rfl⟩

theorem frame (sound : Reception image edi task region st lists s c owned
    unread) {ptr : Word} (here : st.consumer = .processing ptr)
    {mem : Word → Word}
    (inside : WritesInside (BitVec.ofNat 32 usbMaxPacket0) [ptr] s.mem
      mem) :
    (∀ other ∈ s.free edi.memPool, mem other = s.mem other) ∧
      (s.items edi.queue).map (payloadAt mem) =
        (s.items edi.queue).map (payloadAt s.mem) := by
  obtain ⟨_, rfl, _⟩ := sound.processing here
  obtain ⟨free, used⟩ := Region.frame sound.stock inside (by simp)
  refine ⟨free, List.map_congr_left fun other stored =>
    used other (by simp [stored]) ?_⟩
  have nodup := (sound.stock.nodup_iff.mpr region.nodup).of_append_right
  rintro rfl
  exact (List.nodup_append.mp nodup).2.2 other stored other (by simp) rfl

theorem use (sound : Reception image edi task region st lists s c owned
    unread) {ptr : Word} (here : st.consumer = .processing ptr)
    {mem : Word → Word}
    (inside : WritesInside (BitVec.ofNat 32 usbMaxPacket0) [ptr]
      st.kernel.mem mem) :
    Reception image edi task region (st.setKernel (st.kernel.setMem mem))
      lists (s.setMem mem) c owned unread := by
  rw [sound.shares.mem] at inside
  obtain ⟨free, same⟩ := sound.frame here inside
  obtain ⟨nobody, rfl, rfl⟩ := sound.processing here
  have holding := sound.holding
  have before := sound.delivered
  refine ⟨sound.shares.write mem ?_, sound.descriptors, sound.two,
    sound.capacity, sound.total, sound.count, sound.stock, sound.senders,
    sound.takers, holding.congr nobody nobody rfl rfl, sound.room,
    sound.transferred, sound.requested, ?_⟩
  · rintro f rfl other isFree
    exact free other isFree
  · change List.Forall₂ Carries st.acknowledged (st.received ++
      ([] ++ s.items edi.queue).map (payloadAt mem) ++ st.ep.pending edi c)
    rwa [List.nil_append, same]

theorem release (sound : Reception image edi task region st lists s c owned
    unread) {ptr : Word} (here : st.consumer = .processing ptr)
    (context : st.kernel.wrongNonIntContext = false) {fuel : Nat}
    {k : Kernel} {reply : Reply}
    (run : tnFmemRelease fuel st.kernel (some edi.memPool) ptr =
      some (k, reply)) :
    SameContext st.kernel k ∧ ∃ lists' s',
      Reception image edi task region
        { st.setKernel k with consumer := .enable } lists' s' c [] [] := by
  obtain ⟨nobody, rfl, rfl⟩ := sound.processing here
  have member : ptr ∈ region.blocks := sound.mem_blocks.mpr (by simp)
  have total := sound.total_count
  have before := sound.delivered
  have fresh : ptr ∉ s.free edi.memPool := fun isFree =>
    sound.apart isFree (.inr (by simp)) rfl
  obtain ⟨k', reply', lists', run', _, _, same, shares⟩ :=
    sound.shares.tnFmemRelease rfl context fuel
      (Region.ne_zero member)
      (by
        rintro f rfl
        exact fresh)
      (by
        rw [sound.total]
        simp only [List.length_cons, List.length_nil] at total
        omega)
  cases run.symm.trans run'
  obtain ⟨_, same'⟩ := sound.frame here
    (writesInside_update ptr ((s.free edi.memPool).headD 0) s.mem)
  rw [Shared.release, sound.takers] at shares
  refine ⟨same, lists', _, shares, sound.descriptors, sound.two,
    sound.capacity, sound.total, sound.count, ?_, sound.senders, sound.takers,
    .enable nobody, sound.room, sound.transferred, sound.requested, ?_⟩
  · refine List.Perm.trans ?_ sound.stock
    simp only [Shared.setMem, Shared.setFree, Function.update_self]
    grind
  · change List.Forall₂ Carries st.acknowledged (st.received ++
      ([] ++ s.items edi.queue).map (payloadAt (Function.update s.mem ptr _))
        ++ st.ep.pending edi c)
    rwa [List.nil_append, same']

theorem transfer (sound : Reception image edi task region st lists s c owned
    unread) (active : ddRetired st.ep.ram (st.ep.current edi) = false)
    (packet : UsbPacket) (position : Word) {status : Word}
    (retires : status &&& 1 ≠ 0) (enabled : Bool) :
    Reception image edi task region { st with
      ep := st.ep.transfer edi packet position status enabled
      acknowledged := st.acknowledged ++ [packet] } lists s c owned
      unread := by
  have current : st.ep.current edi = edi.epDmaAddr.dd c :=
    sound.descriptors.current
  rw [current] at active
  obtain ⟨descriptors, retired, arrived⟩ := DmaEp.transfer_spec
    sound.descriptors active packet position retires enabled
  have nothing : st.ep.eotIntSt = false := by
    by_contra pending
    rw [sound.transferred (by simpa using pending)] at active
    cases active
  have before := sound.delivered
  rw [DmaEp.pending, if_neg (by simp [nothing]), List.append_nil] at before
  exact ⟨sound.shares, descriptors, sound.two, sound.capacity, sound.total,
    sound.count, sound.stock, sound.senders, sound.takers, sound.holding,
    fun _ => sound.room (.inl active), fun _ => retired, fun _ => retired,
    List.rel_append before (.cons arrived .nil)⟩

theorem request (sound : Reception image edi task region st lists s c owned
    unread) (retired : ddRetired st.ep.ram (st.ep.current edi) = true) :
    Reception image edi task region
      { st with ep := { st.ep with nddrIntSt := true } } lists s c owned
      unread := by
  have current : st.ep.current edi = edi.epDmaAddr.dd c :=
    sound.descriptors.current
  rw [current] at retired
  exact ⟨sound.shares, sound.descriptors, sound.two, sound.capacity,
    sound.total, sound.count, sound.stock, sound.senders, sound.takers,
    sound.holding, sound.room, sound.transferred, fun _ => retired,
    sound.delivered⟩

theorem enable (sound : Reception image edi task region st lists s c owned
    unread) (here : st.consumer = .enable) :
    Reception image edi task region { st with
      ep := { st.ep with dmaEnabled := true }
      consumer := .receive } lists s c owned unread := by
  obtain ⟨nobody, rfl, rfl⟩ : s.waiting (.dqueReceive edi.queue) = [] ∧
      owned = [] ∧ unread = [] := by
    have holding := sound.holding
    rw [here] at holding
    cases holding with
    | enable nobody => exact ⟨nobody, rfl, rfl⟩
  exact ⟨sound.shares, sound.descriptors, sound.two, sound.capacity,
    sound.total, sound.count, sound.stock, sound.senders, sound.takers,
    .receive nobody, sound.room, sound.transferred, sound.requested,
    sound.delivered⟩

theorem step (sound : Reception image edi task region st lists s c owned
    unread) (atTask : st.kernel.AtTask) (notIdle : task ≠ image.idleTask)
    {st' : DmaRx} (step : DmaStep image edi task st st') :
    st'.kernel.AtTask ∧ ∃ lists' s' c' owned' unread',
      Reception image edi task region st' lists' s' c' owned' unread' := by
  have context := atTask.wrongNonIntContext
  have mayWait : st.Runs task → MayWait image.untimedRule st.kernel := by
    rintro ⟨rfl, runnable⟩
    exact .untimed runnable notIdle
  cases step with
  | transfer packet position status enabled active retires =>
      exact ⟨atTask, lists, s, c, owned, unread,
        sound.transfer active packet position retires enabled⟩
  | request retired =>
      exact ⟨atTask, lists, s, c, owned, unread, sound.request retired⟩
  | interrupt fuel run =>
      obtain ⟨mode, lists', s', c', owned', unread', after⟩ :=
        (sound.of_shares sound.shares.enterIrq).intFunc
          atTask.wrongIntContext run
      exact ⟨atTask.interrupt mode, lists', s', c', owned', unread',
        after.of_shares after.shares.leaveIrq⟩
  | @receive k reply fuel here runs run =>
      obtain ⟨same, lists', s', owned', unread', after⟩ :=
        sound.receive here context (mayWait runs) runs.current run
      refine ⟨?_, lists', s', c, owned', unread', after⟩
      rw [DmaRx.answered_kernel]
      exact atTask.call (.queueReceive (some edi.queue) true tnWaitInfinite)
        run same
  | resume here runs =>
      obtain ⟨owned', unread', after⟩ := sound.resume here runs
      refine ⟨?_, lists, s, c, owned', unread', after⟩
      rw [DmaRx.returns_kernel]
      exact atTask
  | use here runs mem inside =>
      exact ⟨⟨⟨atTask.inSystem.tnSystemRunning, atTask.inSystem.tnIntCounter,
        atTask.inSystem.tnEnableSwitchContext⟩, atTask.irqDisabled⟩, lists,
        s.setMem mem, c, owned, unread, sound.use here inside⟩
  | @release ptr k reply fuel here runs run =>
      obtain ⟨same, lists', s', after⟩ := sound.release here context run
      exact ⟨atTask.call (.fmemRelease (some edi.memPool) ptr) run same,
        lists', s', c, [], [], after⟩
  | enable here runs =>
      exact ⟨atTask, lists, s, c, owned, unread, sound.enable here⟩
  | aside step =>
      obtain ⟨atTask', lists', shares⟩ := sound.shares.aside atTask step
      exact ⟨atTask', lists', s, c, owned, unread, sound.of_shares shares⟩

end Reception

theorem DmaRun.reception (run : DmaRun image edi task st) :
    task ≠ image.idleTask ∧ st.kernel.AtTask ∧
      ∃ region lists s c owned unread,
        Reception image edi task region st lists s c owned unread := by
  induction run with
  | start notIdle reachable queue pool fits all irqEnabled ram =>
      obtain ⟨inSystem, region, lists, s, fresh, _⟩ :=
        FreshPipe.of_creations reachable queue pool fits all
      have two := fresh.two
      refine ⟨notIdle, ⟨inSystem, irqEnabled⟩, region, lists, s, 0, [], [],
        fresh.shares, tnUsbDmaRxInit_spec (by omega) ram, two,
        fresh.capacity, fresh.total, fresh.count, ?_, fresh.senders,
        fresh.takers, .receive fresh.receivers, ?_, by simp, by simp, ?_⟩
      · simp [fresh.items, fresh.free]
      · rw [fresh.items, List.length_nil]
        omega
      · rw [fresh.items]
        exact .nil
  | next before step ih =>
      obtain ⟨notIdle, atTask, region, lists, s, c, owned, unread, sound⟩ := ih
      obtain ⟨atTask', lists', s', c', owned', unread', after⟩ :=
        sound.step atTask notIdle step
      exact ⟨notIdle, atTask', region, lists', s', c', owned', unread',
        after⟩

end Invariant

/-! ## No packet is dropped -/

/-- The queue takes an element at once. -/
def Kernel.Accepts (k : Kernel) (d : DqueId) : Prop :=
  k.noWaiters (.dqueReceive d) = false ∨
    ∀ value, (dqueFifoWrite (k.dque d) value).2 = .noErr

/-- `ep_rx_end_of_transfer` gets a block and sends it. -/
def DmaRx.CopiesPacket (st : DmaRx) (edi : EpDmaInfo) (fuel : Nat) : Prop :=
  ∃ ptr k₁ r₁ k₂ r₂,
    tnFmemGetIpolling st.kernel.enterIrq (some edi.memPool) true =
      some (k₁, r₁) ∧
    r₁.rc = some .noErr ∧ r₁.value = some ptr ∧
    tnQueueIsendPolling fuel ((st.ep.setKernel k₁).copyPacket ptr
      (st.ep.ram (wordAt (st.ep.current edi) 5))) (some edi.queue) ptr =
        some (k₂, r₂) ∧
    r₂.rc = some .noErr

/-- The payloads on their way: in the block that the consumer has been given in its
wait, in the queue, and in the buffer of the current DD. -/
def DmaRx.underway (st : DmaRx) (edi : EpDmaInfo) (given : List Word) :
    List (List Word) :=
  (given ++ (st.kernel.dque edi.queue).items).map (payloadAt st.kernel.mem) ++
    if st.ep.eotIntSt then
      [payloadAt st.ep.ram (st.ep.ram (wordAt (st.ep.current edi) 5))]
    else []

structure DmaRx.NeverDrops (st : DmaRx) (edi : EpDmaInfo) (task : TaskId) :
    Prop where
  one : ∀ i < edi.epDmaAddr.nbuffers,
    ddRetired st.ep.ram (edi.epDmaAddr.dd i) = false →
      st.ep.current edi = edi.epDmaAddr.dd i
  ready : (∃ i < edi.epDmaAddr.nbuffers,
      ddRetired st.ep.ram (edi.epDmaAddr.dd i) = false) ∨
        st.ep.eotIntSt = true →
    0 < (st.kernel.fmp edi.memPool).fblkcnt ∧ st.kernel.Accepts edi.queue
  copied : st.ep.eotIntSt = true → ∀ fuel, st.CopiesPacket edi fuel
  order : ∃ given : List Word,
    (given = [] ∨ st.consumer = .receiving ∧
      given = [(st.kernel.tcb task).dataElem]) ∧
    List.Forall₂ Carries st.acknowledged
      (st.received ++ st.underway edi given)

section Runs

variable {image : Image} {edi : EpDmaInfo} {task : TaskId} {st : DmaRx}

/-- Every acknowledged packet is received, once and in order, or is on its way. -/
theorem dmaReception_neverDrops (run : DmaRun image edi task st) :
    st.NeverDrops edi task := by
  obtain ⟨_, atTask, region, lists, s, c, owned, unread, sound⟩ :=
    run.reception
  have current : st.ep.current edi = edi.epDmaAddr.dd c :=
    sound.descriptors.current
  have one : ∀ i < edi.epDmaAddr.nbuffers,
      ddRetired st.ep.ram (edi.epDmaAddr.dd i) = false → i = c := by
    intro i small active
    by_contra other
    rw [sound.descriptors.retired i small other] at active
    cases active
  have queue := sound.shares.queue edi.queue rfl
  refine ⟨fun i small active => ?_, fun may => ?_, fun arrived fuel => ?_,
    unread, ?_, ?_⟩
  · rw [current, one i small active]
  · have room : (s.items edi.queue).length + 2 ≤ edi.epDmaAddr.nbuffers := by
      refine sound.room (may.imp_left ?_)
      rintro ⟨i, small, active⟩
      rwa [one i small active] at active
    obtain ⟨ptr, rest, free⟩ := sound.free_block room
    constructor
    · rw [(sound.shares.pool edi.memPool rfl).holds.count, free]
      simp
    · refine .inr fun value => (Dque.write_room queue.shape value ?_).1
      rw [queue.items, queue.capacity, sound.capacity]
      omega
  · have entered := sound.of_shares sound.shares.enterIrq
    obtain ⟨ptr, k₁, r₁, k₂, r₂, _, _, _, _, get, rc₁, value₁, send, rc₂, _⟩ :=
      entered.endOfTransfer atTask.wrongIntContext arrived fuel
    exact ⟨ptr, k₁, r₁, k₂, r₂, get, rc₁, value₁, send, rc₂⟩
  · have holding := sound.holding
    generalize isConsumer : st.consumer = consumer at holding
    cases holding with
    | served => exact .inr ⟨rfl, by rw [sound.shares.elem]⟩
    | _ => exact .inl rfl
  · have order := sound.delivered
    rw [List.append_assoc] at order
    rw [DmaRx.underway, queue.items, sound.shares.mem, current,
      sound.descriptors.buffer c sound.descriptors.bounded]
    exact order

theorem DmaRun.interrupted (run : DmaRun image edi task st) (fuel : Nat)
    (ends : (tnUsbIntFunc fuel edi
      (st.ep.setKernel st.kernel.enterIrq)).isSome = true) :
    DmaRun image edi task { st with
      ep := ((tnUsbIntFunc fuel edi _).get ends).setKernel
        ((tnUsbIntFunc fuel edi _).get ends).kernel.leaveIrq } :=
  run.next (.interrupt fuel (Option.some_get ends).symm)

set_option maxRecDepth 20000 in
/-- A packet of one word arrives, is copied, and is received. -/
theorem dmaReception_neverDrops_sample : ∃ st,
    DmaRun .sample (.ep2Rx 0 0) 0 st ∧
      st.received = [7 :: List.replicate 15 0] ∧
      st.NeverDrops (.ep2Rx 0 0) 0 := by
  have created : DmaRun .sample (.ep2Rx 0 0) 0 _ :=
    .start (by decide) (.start Kernel.fresh_zeroed tnStartSystem_started)
      (.answer (.queueCreate (some 0) (some fun _ => 0) 8) _ 9 rfl rfl rfl
        (by decide) ⟨rfl, by decide, by simp [Call.waits]⟩)
      (.answer (.fmemCreate (some 0) 0x40002000 64 8) _ 9 rfl rfl rfl
        (by decide) ⟨rfl, by decide, by simp [Call.waits]⟩)
      (by decide) rfl rfl (fun _ => 0)
  have arrived := created.next (.transfer ⟨4, [7], by decide, rfl⟩ 0 1 true
    rfl (by decide))
  have copied := arrived.interrupted 9 rfl
  have received := copied.next (.receive 9 rfl ⟨rfl, rfl⟩
    (@Outcome.eq_after _ ⟨some .noErr, some 0x40002000, false⟩ rfl))
  exact ⟨_, received, rfl, dmaReception_neverDrops received⟩

end Runs

end UsbBulk
