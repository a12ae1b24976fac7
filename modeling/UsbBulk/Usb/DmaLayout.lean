import UsbBulk.WordMemory

/-!
# The descriptors of the DMA engine (`tn_usb_ep_dma.c`)

The descriptors of an endpoint in the USB RAM, and their initialisation.  A pointer
to a descriptor is the address of its first word.
-/

namespace UsbBulk

/-! ## Descriptors -/

/-- `EP_DMA_ADDR`, without the field for isochronous transfers. -/
structure EpDmaAddr where
  word1 : BitVec 32
  nbuffers : Nat
  pDD : BitVec 32
  pDataBuffers : BitVec 32

/-- `EP_DD_TOTAL_SIZE`, in words. -/
def epDdTotalSize : Nat := 6

namespace EpDmaAddr

variable (addr : EpDmaAddr)

/-- Where the `i`-th descriptor is. -/
def dd (i : Nat) : BitVec 32 := wordAt addr.pDD (epDdTotalSize * i)

/-- The size of a packet in bytes, bits 31 to 16 of word 1. -/
def packetSize : BitVec 32 := (addr.word1 >>> 16) &&& 0xFFFF

/-- `buf_size` of the two initialisations. -/
def bufSize : BitVec 32 := addr.packetSize >>> 2

/-- The buffer that the initialisations give to the `i`-th descriptor. -/
def buffer (i : Nat) : BitVec 32 :=
  addr.pDataBuffers + BitVec.ofNat 32 i * addr.bufSize

end EpDmaAddr

/-- The part of `EP_DMA_INFO` that says where the descriptors of an endpoint are.
They fit into the address space, and the UDCA slot is none of their words. -/
structure EpDmaTable where
  epDmaAddr : EpDmaAddr
  pUdcaPos : BitVec 32
  small : 4 * (epDdTotalSize * epDmaAddr.nbuffers) ≤ 2 ^ 32
  slotApart : ∀ m < epDdTotalSize * epDmaAddr.nbuffers,
    wordAt epDmaAddr.pDD m ≠ pUdcaPos

/-- `*(dd_ptr+3) & 1`. -/
def ddRetired (ram : BitVec 32 → BitVec 32) (ddPtr : BitVec 32) : Bool :=
  ram (wordAt ddPtr 3) &&& 1 ≠ 0

/-- The body of the loop of `tn_usb_dma_rx_init`. -/
def rxInitDd (edi : EpDmaTable) (ram : BitVec 32 → BitVec 32) (i : Nat)
    (ddPtr bufPtr : BitVec 32) : BitVec 32 → BitVec 32 :=
  let ram := Function.update ram (wordAt ddPtr 0) 0
  let ram := Function.update ram (wordAt ddPtr 1) edi.epDmaAddr.word1
  let ram := if i = 0 then
      Function.update (Function.update ram edi.pUdcaPos ddPtr)
        (wordAt ddPtr 3) 0
    else Function.update ram (wordAt ddPtr 3) 1
  let ram := Function.update ram (wordAt ddPtr 2) bufPtr
  let ram := Function.update ram (wordAt ddPtr 4) 0
  Function.update ram (wordAt ddPtr 5) bufPtr

/-- The body of the loop of `tn_usb_dma_tx_init`. -/
def txInitDd (edi : EpDmaTable) (ram : BitVec 32 → BitVec 32) (i : Nat)
    (ddPtr bufPtr : BitVec 32) : BitVec 32 → BitVec 32 :=
  let ram := Function.update ram (wordAt ddPtr 0) 0
  let ram := Function.update ram (wordAt ddPtr 1) edi.epDmaAddr.word1
  let ram := if i + 1 = edi.epDmaAddr.nbuffers then
      let ram := Function.update ram (wordAt ddPtr 1)
        (ram (wordAt ddPtr 1) &&& 0x1F)
      Function.update (Function.update ram edi.pUdcaPos ddPtr)
        (wordAt ddPtr 3) 0
    else Function.update ram (wordAt ddPtr 3) 1
  let ram := Function.update ram (wordAt ddPtr 2) bufPtr
  let ram := Function.update ram (wordAt ddPtr 4) 0
  Function.update ram (wordAt ddPtr 5) bufPtr

/-- The loop of both initialisations, with the number of rounds left. -/
def initFrom (edi : EpDmaTable)
    (body : (BitVec 32 → BitVec 32) → Nat → BitVec 32 → BitVec 32 →
      (BitVec 32 → BitVec 32)) :
    Nat → (BitVec 32 → BitVec 32) → Nat → BitVec 32 → BitVec 32 →
      (BitVec 32 → BitVec 32)
  | 0, ram, _, _, _ => ram
  | left + 1, ram, i, ddPtr, bufPtr =>
      initFrom edi body left (body ram i ddPtr bufPtr) (i + 1)
        (wordAt ddPtr epDdTotalSize) (bufPtr + edi.epDmaAddr.bufSize)

def tnUsbDmaRxInit (edi : EpDmaTable) (ram : BitVec 32 → BitVec 32) :
    BitVec 32 → BitVec 32 :=
  initFrom edi (rxInitDd edi) edi.epDmaAddr.nbuffers ram 0 edi.epDmaAddr.pDD
    edi.epDmaAddr.pDataBuffers

def tnUsbDmaTxInit (edi : EpDmaTable) (ram : BitVec 32 → BitVec 32) :
    BitVec 32 → BitVec 32 :=
  initFrom edi (txInitDd edi) edi.epDmaAddr.nbuffers ram 0 edi.epDmaAddr.pDD
    edi.epDmaAddr.pDataBuffers

/-! ## The words of the descriptors -/

section Words

variable {ram ram' : BitVec 32 → BitVec 32} {i j : Nat}

theorem EpDmaAddr.dd_zero (addr : EpDmaAddr) : addr.dd 0 = addr.pDD := by
  rw [EpDmaAddr.dd, Nat.mul_zero, wordAt_zero]

theorem EpDmaAddr.buffer_zero (addr : EpDmaAddr) :
    addr.buffer 0 = addr.pDataBuffers := by
  simp [EpDmaAddr.buffer]

theorem EpDmaAddr.dd_word (addr : EpDmaAddr) (i j : Nat) :
    wordAt (addr.dd i) j = wordAt addr.pDD (epDdTotalSize * i + j) :=
  wordAt_wordAt _ _ _

theorem EpDmaAddr.dd_succ (addr : EpDmaAddr) (i : Nat) :
    wordAt (addr.dd i) epDdTotalSize = addr.dd (i + 1) := by
  rw [addr.dd_word, EpDmaAddr.dd, Nat.mul_succ]

theorem EpDmaAddr.buffer_succ (addr : EpDmaAddr) (i : Nat) :
    addr.buffer i + addr.bufSize = addr.buffer (i + 1) := by
  have next : BitVec.ofNat 32 (i + 1) = BitVec.ofNat 32 i + 1 := by
    rw [BitVec.ofNat_add]
    rfl
  rw [buffer, buffer, next, BitVec.add_mul, BitVec.add_assoc]
  congr 2
  exact (BitVec.one_mul _).symm

theorem EpDmaTable.dd_word_inj (edi : EpDmaTable) {i' j' : Nat}
    (small : i < edi.epDmaAddr.nbuffers) (word : j < epDdTotalSize)
    (small' : i' < edi.epDmaAddr.nbuffers) (word' : j' < epDdTotalSize) :
    wordAt (edi.epDmaAddr.dd i) j = wordAt (edi.epDmaAddr.dd i') j' ↔
      i = i' ∧ j = j' := by
  have fits := edi.small
  simp only [epDdTotalSize] at *
  rw [EpDmaAddr.dd_word, EpDmaAddr.dd_word, epDdTotalSize,
    wordAt_inj (by omega) (by omega)]
  omega

theorem EpDmaTable.dd_inj (edi : EpDmaTable)
    (small : i < edi.epDmaAddr.nbuffers)
    (small' : j < edi.epDmaAddr.nbuffers) :
    edi.epDmaAddr.dd i = edi.epDmaAddr.dd j ↔ i = j := by
  have words := edi.dd_word_inj small (show 0 < epDdTotalSize by decide)
    small' (show 0 < epDdTotalSize by decide)
  simpa [wordAt_zero] using words

theorem EpDmaTable.dd_word_ne_slot (edi : EpDmaTable)
    (small : i < edi.epDmaAddr.nbuffers) (word : j < epDdTotalSize) :
    wordAt (edi.epDmaAddr.dd i) j ≠ edi.pUdcaPos := by
  rw [EpDmaAddr.dd_word]
  refine edi.slotApart _ ?_
  simp only [epDdTotalSize] at *
  omega

theorem ddRetired_congr {dd : BitVec 32}
    (same : ram' (wordAt dd 3) = ram (wordAt dd 3)) :
    ddRetired ram' dd = ddRetired ram dd := by
  rw [ddRetired, ddRetired, same]

end Words

/-! ## Initialisation -/

section Initialisation

variable {edi : EpDmaTable} {ram : BitVec 32 → BitVec 32} {active i : Nat}
variable {body : (BitVec 32 → BitVec 32) → Nat → BitVec 32 → BitVec 32 →
  (BitVec 32 → BitVec 32)}

/-- The first `i` descriptors have been initialised. -/
structure Initialised (edi : EpDmaTable) (active : Nat)
    (ram : BitVec 32 → BitVec 32) (i : Nat) : Prop where
  current : active < i → ram edi.pUdcaPos = edi.epDmaAddr.dd active
  start : ∀ m < i, ram (wordAt (edi.epDmaAddr.dd m) 2) =
    edi.epDmaAddr.buffer m
  status : ∀ m < i, ram (wordAt (edi.epDmaAddr.dd m) 3) =
    if m = active then 0 else 1
  buffer : ∀ m < i, ram (wordAt (edi.epDmaAddr.dd m) 5) =
    edi.epDmaAddr.buffer m

/-- What one round of an initialisation writes, and what it leaves alone. -/
structure InitialisesDd (edi : EpDmaTable) (active : Nat)
    (body : (BitVec 32 → BitVec 32) → Nat → BitVec 32 → BitVec 32 →
      (BitVec 32 → BitVec 32)) : Prop where
  other : ∀ ram i ddPtr bufPtr address, address ≠ edi.pUdcaPos →
    (∀ j < epDdTotalSize, address ≠ wordAt ddPtr j) →
    body ram i ddPtr bufPtr address = ram address
  own : ∀ ram i bufPtr, i < edi.epDmaAddr.nbuffers →
    let dd := edi.epDmaAddr.dd i
    let after := body ram i dd bufPtr
    after edi.pUdcaPos = (if i = active then dd else ram edi.pUdcaPos) ∧
      after (wordAt dd 2) = bufPtr ∧
      after (wordAt dd 3) = (if i = active then 0 else 1) ∧
      after (wordAt dd 5) = bufPtr

theorem Initialised.dd (round : InitialisesDd edi active body)
    (done : Initialised edi active ram i)
    (small : i < edi.epDmaAddr.nbuffers) :
    Initialised edi active (body ram i (edi.epDmaAddr.dd i)
      (edi.epDmaAddr.buffer i)) (i + 1) := by
  obtain ⟨slot, start, status, buffer⟩ :=
    round.own ram i (edi.epDmaAddr.buffer i) small
  have before : ∀ m < i, ∀ j < epDdTotalSize,
      body ram i (edi.epDmaAddr.dd i) (edi.epDmaAddr.buffer i)
        (wordAt (edi.epDmaAddr.dd m) j) =
          ram (wordAt (edi.epDmaAddr.dd m) j) := by
    intro m below j word
    refine round.other _ _ _ _ _ (edi.dd_word_ne_slot (by omega) word) ?_
    intro j' word' equal
    have same := (edi.dd_word_inj (by omega) word small word').mp equal
    omega
  have last : ∀ m < i + 1, m < i ∨ m = i := fun m below => by omega
  refine ⟨fun reached => ?_, fun m below => ?_, fun m below => ?_,
    fun m below => ?_⟩
  · rw [slot]
    by_cases here : i = active
    · rw [if_pos here, here]
    · rw [if_neg here, done.current (by omega)]
  · rcases last m below with earlier | rfl
    · rw [before m earlier 2 (by decide), done.start m earlier]
    · exact start
  · rcases last m below with earlier | rfl
    · rw [before m earlier 3 (by decide), done.status m earlier]
    · exact status
  · rcases last m below with earlier | rfl
    · rw [before m earlier 5 (by decide), done.buffer m earlier]
    · exact buffer

theorem Initialised.from (round : InitialisesDd edi active body) (left : Nat)
    (done : Initialised edi active ram i)
    (all : i + left = edi.epDmaAddr.nbuffers) :
    Initialised edi active (initFrom edi body left ram i
      (edi.epDmaAddr.dd i) (edi.epDmaAddr.buffer i))
      edi.epDmaAddr.nbuffers := by
  induction left generalizing ram i with
  | zero =>
      obtain rfl : i = edi.epDmaAddr.nbuffers := by omega
      exact done
  | succ left ih =>
      rw [initFrom, EpDmaAddr.dd_succ, EpDmaAddr.buffer_succ]
      exact ih (done.dd round (by omega)) (by omega)

theorem InitialisesDd.initialised (round : InitialisesDd edi active body)
    (ram : BitVec 32 → BitVec 32) :
    Initialised edi active (initFrom edi body edi.epDmaAddr.nbuffers ram 0
      edi.epDmaAddr.pDD edi.epDmaAddr.pDataBuffers)
      edi.epDmaAddr.nbuffers := by
  have nothing : Initialised edi active ram 0 :=
    ⟨by simp, by simp, by simp, by simp⟩
  have all := nothing.from round edi.epDmaAddr.nbuffers (by omega)
  rwa [EpDmaAddr.dd_zero, EpDmaAddr.buffer_zero] at all

private theorem words_ne (edi : EpDmaTable)
    (small : i < edi.epDmaAddr.nbuffers) :
    (∀ j < epDdTotalSize, ∀ j' < epDdTotalSize,
      wordAt (edi.epDmaAddr.dd i) j = wordAt (edi.epDmaAddr.dd i) j' ↔
        j = j') ∧
      ∀ j < epDdTotalSize,
        edi.pUdcaPos ≠ wordAt (edi.epDmaAddr.dd i) j := by
  refine ⟨fun j word j' word' => ?_, fun j word =>
    (edi.dd_word_ne_slot small word).symm⟩
  rw [edi.dd_word_inj small word small word']
  simp

theorem rxInitDd_initialises (edi : EpDmaTable) :
    InitialisesDd edi 0 (rxInitDd edi) where
  other ram i ddPtr bufPtr address slot words := by
    simp only [epDdTotalSize] at words
    by_cases first : i = 0 <;> simp [rxInitDd, slot, words, first]
  own ram i bufPtr small := by
    obtain ⟨words, slot⟩ := words_ne edi small
    simp only [epDdTotalSize] at words slot
    have two_five := words 2 (by decide) 5 (by decide)
    have two_four := words 2 (by decide) 4 (by decide)
    have three_five := words 3 (by decide) 5 (by decide)
    have three_four := words 3 (by decide) 4 (by decide)
    have three_two := words 3 (by decide) 2 (by decide)
    by_cases first : i = 0 <;>
      simp [rxInitDd, Function.update_apply, first] <;> grind

theorem txInitDd_initialises (edi : EpDmaTable) :
    InitialisesDd edi (edi.epDmaAddr.nbuffers - 1) (txInitDd edi) where
  other ram i ddPtr bufPtr address slot words := by
    simp only [epDdTotalSize] at words
    by_cases last : i + 1 = edi.epDmaAddr.nbuffers <;>
      simp [txInitDd, slot, words, last]
  own ram i bufPtr small := by
    obtain ⟨words, slot⟩ := words_ne edi small
    simp only [epDdTotalSize] at words slot
    have two_five := words 2 (by decide) 5 (by decide)
    have two_four := words 2 (by decide) 4 (by decide)
    have three_five := words 3 (by decide) 5 (by decide)
    have three_four := words 3 (by decide) 4 (by decide)
    have three_two := words 3 (by decide) 2 (by decide)
    have last : i + 1 = edi.epDmaAddr.nbuffers ↔
        i = edi.epDmaAddr.nbuffers - 1 := by omega
    by_cases here : i = edi.epDmaAddr.nbuffers - 1 <;>
      simp [txInitDd, Function.update_apply, last, here] <;> grind

/-- After `tn_usb_dma_rx_init` the first descriptor is active. -/
theorem tnUsbDmaRxInit_initialised (edi : EpDmaTable)
    (ram : BitVec 32 → BitVec 32) :
    Initialised edi 0 (tnUsbDmaRxInit edi ram) edi.epDmaAddr.nbuffers :=
  (rxInitDd_initialises edi).initialised ram

/-- After `tn_usb_dma_tx_init` the last descriptor is active. -/
theorem tnUsbDmaTxInit_initialised (edi : EpDmaTable)
    (ram : BitVec 32 → BitVec 32) :
    Initialised edi (edi.epDmaAddr.nbuffers - 1) (tnUsbDmaTxInit edi ram)
      edi.epDmaAddr.nbuffers :=
  (txInitDd_initialises edi).initialised ram

theorem Initialised.retired
    (done : Initialised edi active ram edi.epDmaAddr.nbuffers) :
    ∀ i < edi.epDmaAddr.nbuffers,
      ddRetired ram (edi.epDmaAddr.dd i) = decide (i ≠ active) := by
  intro i small
  rw [ddRetired, done.status i small]
  by_cases here : i = active <;> simp [here]

end Initialisation

/-! ## The layout of the buffers -/

section Layout

variable {edi : EpDmaTable} {ram : BitVec 32 → BitVec 32} {active : Nat}

/-- The buffers that the descriptors record do not overlap and lie inside the data
region of the endpoint, and one descriptor is active. -/
structure LaidOut (edi : EpDmaTable) (ram : BitVec 32 → BitVec 32) : Prop where
  disjoint : ∀ i < edi.epDmaAddr.nbuffers, ∀ j < edi.epDmaAddr.nbuffers,
    i ≠ j → ∀ address,
      InBlock edi.epDmaAddr.packetSize
        (ram (wordAt (edi.epDmaAddr.dd i) 5)) address →
      ¬ InBlock edi.epDmaAddr.packetSize
        (ram (wordAt (edi.epDmaAddr.dd j) 5)) address
  inside : ∀ i < edi.epDmaAddr.nbuffers, ∀ address,
    InBlock edi.epDmaAddr.packetSize
      (ram (wordAt (edi.epDmaAddr.dd i) 5)) address →
    (address - edi.epDmaAddr.pDataBuffers).toNat <
      edi.epDmaAddr.nbuffers * edi.epDmaAddr.packetSize.toNat
  agree : ∀ i < edi.epDmaAddr.nbuffers,
    ram (wordAt (edi.epDmaAddr.dd i) 2) = ram (wordAt (edi.epDmaAddr.dd i) 5)
  active : ∃ c < edi.epDmaAddr.nbuffers,
    ram edi.pUdcaPos = edi.epDmaAddr.dd c ∧
      ∀ i < edi.epDmaAddr.nbuffers,
        ddRetired ram (edi.epDmaAddr.dd i) = decide (i ≠ c)

/-- The size in words is taken for a distance in bytes. -/
theorem EpDmaAddr.bufSize_lt (addr : EpDmaAddr)
    (positive : 0 < addr.packetSize.toNat) :
    addr.bufSize.toNat < addr.packetSize.toNat := by
  rw [EpDmaAddr.bufSize, BitVec.toNat_ushiftRight, Nat.shiftRight_eq_div_pow]
  omega

/-- Two buffers in a row overlap, so only a single one is laid out well. -/
theorem Initialised.laidOut_iff
    (done : Initialised edi active ram edi.epDmaAddr.nbuffers)
    (here : active < edi.epDmaAddr.nbuffers)
    (positive : 0 < edi.epDmaAddr.packetSize.toNat) :
    LaidOut edi ram ↔ edi.epDmaAddr.nbuffers = 1 := by
  constructor
  · intro laidOut
    by_contra several
    have two : 1 < edi.epDmaAddr.nbuffers := by omega
    refine laidOut.disjoint 0 (by omega) 1 two (by decide)
      (edi.epDmaAddr.buffer 1) ?_ ?_
    · rw [done.buffer 0 (by omega), InBlock, ← EpDmaAddr.buffer_succ,
        BitVec.add_comm, BitVec.add_sub_cancel]
      exact edi.epDmaAddr.bufSize_lt positive
    · rw [done.buffer 1 two]
      exact inBlock_self positive
  · intro single
    have only : ∀ i < edi.epDmaAddr.nbuffers, i = 0 := fun i small => by omega
    refine ⟨fun i small j small' different => ?_, fun i small address inside =>
      ?_, fun i small => (done.start i small).trans (done.buffer i small).symm,
      active, here, done.current here, done.retired⟩
    · exact absurd ((only i small).trans (only j small').symm) different
    · rw [done.buffer i small, only i small, EpDmaAddr.buffer_zero] at inside
      rw [single, Nat.one_mul]
      exact inside

/-- After either initialisation the buffers are laid out well if and only if there
is only one. -/
theorem dmaInit_laidOut_iff (edi : EpDmaTable)
    (some : 1 ≤ edi.epDmaAddr.nbuffers)
    (positive : 0 < edi.epDmaAddr.packetSize.toNat)
    (ram : BitVec 32 → BitVec 32) :
    (LaidOut edi (tnUsbDmaRxInit edi ram) ↔ edi.epDmaAddr.nbuffers = 1) ∧
      (LaidOut edi (tnUsbDmaTxInit edi ram) ↔
        edi.epDmaAddr.nbuffers = 1) :=
  ⟨(tnUsbDmaRxInit_initialised edi ram).laidOut_iff some positive,
    (tnUsbDmaTxInit_initialised edi ram).laidOut_iff (by omega) positive⟩

/-- EP5 IN of the firmware: eight buffers for packets of 64 bytes. -/
def EpDmaTable.ep5Tx : EpDmaTable where
  epDmaAddr := {
    word1 := 64 <<< 16 ||| 64 <<< 5
    nbuffers := 8
    pDD := 0x7FD00000 + 32 * 4 + 3 * (6 * 4 * 8 + 64 * 8)
    pDataBuffers := 0x7FD00000 + 32 * 4 + 3 * (6 * 4 * 8 + 64 * 8) + 6 * 4 * 8 }
  pUdcaPos := 0x7FD00000 + 11 * 4
  small := by decide
  slotApart := by decide +kernel

theorem dmaInit_laidOut_iff_ep5Tx :
    (LaidOut .ep5Tx (tnUsbDmaRxInit .ep5Tx fun _ => 0) ↔ 8 = 1) ∧
      (LaidOut .ep5Tx (tnUsbDmaTxInit .ep5Tx fun _ => 0) ↔ 8 = 1) :=
  dmaInit_laidOut_iff .ep5Tx (by decide) (by decide) fun _ => 0

/-- The buffers of EP5 IN overlap: the second one starts 16 bytes after the first
one. -/
theorem dmaTxInit_overlaps :
    ¬ LaidOut .ep5Tx (tnUsbDmaTxInit .ep5Tx fun _ => 0) := by
  intro laidOut
  have done := tnUsbDmaTxInit_initialised .ep5Tx fun _ => 0
  refine laidOut.disjoint 0 (by decide) 1 (by decide) (by decide)
    (EpDmaTable.ep5Tx.epDmaAddr.buffer 1) ?_ ?_
  · rw [done.buffer 0 (by decide), InBlock]
    decide
  · rw [done.buffer 1 (by decide), InBlock]
    decide

end Layout

end UsbBulk
