import UsbBulk.Usb.Dma

/-!
# Transmission with DMA (`tn_usb_ep_dma.c`)

An IN endpoint of the DMA firmware.  When the engine asks for a descriptor, the
interrupt routine takes a payload from the queue, looks for a retired descriptor,
and copies the payload; without a payload it arms the last descriptor, whose packet
is empty.
-/

namespace UsbBulk

/-- `tn_queue_ireceive`, with the block that it gives. -/
def DmaEp.takes (fuel : Nat) (edi : EpDmaInfo) (ep : DmaEp) :
    Option (Kernel × Option Word) := do
  let (k, reply) ← tnQueueIreceive fuel ep.kernel (some edi.queue) true
  if reply.rc = some .noErr then do
    let qPtr ← reply.value
    some (k, some qPtr)
  else some (k, none)

/-- The words that `ep_tx_int_DD_request` stores into a retired descriptor.  Word 2
becomes the address of word 5, not what is stored there. -/
def freeDd (ram : Word → Word) (ddPtr : Word) : Word → Word :=
  let ram := Function.update ram (wordAt ddPtr 0) 0
  let ram := Function.update ram (wordAt ddPtr 3) 0
  let ram := Function.update ram (wordAt ddPtr 4) 0
  Function.update ram (wordAt ddPtr 2) (wordAt ddPtr 5)

/-- The loop of `ep_tx_int_DD_request` over the descriptors: `dptr`. -/
def retiredFrom (ram : Word → Word) : Nat → Word → Option Word
  | 0, _ => none
  | left + 1, ddPtr =>
      if ddRetired ram ddPtr then some ddPtr
      else retiredFrom ram left (wordAt ddPtr epDdTotalSize)

/-- The last descriptor is armed with an empty packet. -/
def armNoPacket (edi : EpDmaInfo) (ram : Word → Word) : Word → Word :=
  let ddPtr := wordAt edi.epDmaAddr.pDD
    (epDdTotalSize * (edi.epDmaAddr.nbuffers - 1))
  let ram := Function.update ram (wordAt ddPtr 0) 0
  let ram := Function.update ram (wordAt ddPtr 1) 0
  let ram := Function.update ram (wordAt ddPtr 3) 0
  let ram := Function.update ram (wordAt ddPtr 2) (ram (wordAt ddPtr 5))
  Function.update ram edi.pUdcaPos ddPtr

/-- `ep_tx_int_DD_request`, with the payload that was taken from the queue. -/
def epTxIntDdRequest (fuel : Nat) (edi : EpDmaInfo) (ep : DmaEp) :
    Option (DmaEp × Option (List Word)) := do
  let (k, qPtr) ← ep.takes fuel edi
  let ep := { ep with nddrIntSt := false, dmaEnabled := true }
  match qPtr with
  | some qPtr => do
      let payload := payloadAt k.mem qPtr
      let (k, _) ← tnFmemIrelease fuel k (some edi.memPool) qPtr
      match retiredFrom ep.ram (edi.epDmaAddr.nbuffers - 1)
          edi.epDmaAddr.pDD with
      | some ddPtr =>
          let ram := freeDd ep.ram ddPtr
          let ram := writeWords ram (ram (wordAt ddPtr 2)) payload
          let ram := Function.update ram edi.pUdcaPos ddPtr
          some ({ ep with kernel := k, ram := ram }, some payload)
      | none =>
          some ({ ep with kernel := k, ram := armNoPacket edi ep.ram },
            some payload)
  | none =>
      some ({ ep with kernel := k, ram := armNoPacket edi ep.ram }, none)

/-! ## What a request may touch -/

/-- The request arms the `i`-th descriptor and touches nothing but its first five
words, the UDCA slot and the buffer of that descriptor. -/
structure Arms (edi : EpDmaInfo) (ram ram' : Word → Word)
    (payload : Option (List Word)) (i : Nat) : Prop where
  bounded : i < edi.epDmaAddr.nbuffers
  current : ram' edi.pUdcaPos = edi.epDmaAddr.dd i
  frame : ∀ address, ram' address ≠ ram address →
    (∃ j < 5, address = wordAt (edi.epDmaAddr.dd i) j) ∨
      address = edi.pUdcaPos ∨
      ∃ j < usbMaxPacket0 / 4,
        address = wordAt (ram (wordAt (edi.epDmaAddr.dd i) 5)) j
  word5 : ∀ m < edi.epDmaAddr.nbuffers,
    ram' (wordAt (edi.epDmaAddr.dd m) 5) =
      ram (wordAt (edi.epDmaAddr.dd m) 5)
  others : ∀ m < edi.epDmaAddr.nbuffers, m ≠ i → ∀ j < epDdTotalSize,
    ram' (wordAt (edi.epDmaAddr.dd m) j) =
      ram (wordAt (edi.epDmaAddr.dd m) j)
  payload : ∀ words, payload = some words →
    ram' (wordAt (edi.epDmaAddr.dd i) 2) =
        ram (wordAt (edi.epDmaAddr.dd i) 5) ∧
      payloadAt ram' (ram (wordAt (edi.epDmaAddr.dd i) 5)) = words

/-- No payload is taken, or no descriptor is free and the buffer of the last one
holds the payload already. -/
def NothingToCopy (edi : EpDmaInfo) (ram : Word → Word)
    (payload : Option (List Word)) : Prop :=
  ∀ words, payload = some words →
    (∀ i < edi.epDmaAddr.nbuffers - 1,
      ddRetired ram (edi.epDmaAddr.dd i) = false) ∧
    payloadAt ram (ram (wordAt
      (edi.epDmaAddr.dd (edi.epDmaAddr.nbuffers - 1)) 5)) = words

/-- The states of the USB RAM that requests with nothing to copy and completions by
the engine reach from the initialisation.  Between two of them the queue may change
in any way. -/
inductive TxArming (edi : EpDmaInfo) : (Word → Word) → Prop where
  | init (positive : 0 < edi.epDmaAddr.nbuffers) (ram : Word → Word) :
      TxArming edi (tnUsbDmaTxInit edi.toEpDmaTable ram)
  | request {ep ep' : DmaEp} {payload : Option (List Word)}
      (before : TxArming edi ep.ram) (fuel : Nat)
      (run : epTxIntDdRequest fuel edi ep = some (ep', payload))
      (nothing : NothingToCopy edi ep.ram payload) : TxArming edi ep'.ram
  | complete {ram : Word → Word} (before : TxArming edi ram)
      (status : Word) : TxArming edi (Function.update ram
        (wordAt (ram edi.pUdcaPos) 3)
        (ram (wordAt (ram edi.pUdcaPos) 3) ||| status))

/-! ## The descriptors stay as they were laid out -/

section Requests

variable {edi : EpDmaInfo} {ram : Word → Word} {ep ep' : DmaEp} {fuel : Nat}
variable {payload : Option (List Word)} {i j m : Nat}

/-- Every descriptor records its buffer, and one of them is in the UDCA slot. -/
structure Recorded (edi : EpDmaInfo) (ram : Word → Word) : Prop where
  current : ∃ c < edi.epDmaAddr.nbuffers,
    ram edi.pUdcaPos = edi.epDmaAddr.dd c
  buffer : ∀ m < edi.epDmaAddr.nbuffers,
    ram (wordAt (edi.epDmaAddr.dd m) 5) = edi.epDmaAddr.buffer m

theorem Recorded.init (positive : 0 < edi.epDmaAddr.nbuffers)
    (ram : Word → Word) :
    Recorded edi (tnUsbDmaTxInit edi.toEpDmaTable ram) := by
  have done := tnUsbDmaTxInit_initialised edi.toEpDmaTable ram
  exact ⟨⟨edi.epDmaAddr.nbuffers - 1, by omega, done.current (by omega)⟩,
    done.buffer⟩

theorem Recorded.arms {ram' : Word → Word} (recorded : Recorded edi ram)
    (arms : Arms edi ram ram' payload i) : Recorded edi ram' :=
  ⟨⟨i, arms.bounded, arms.current⟩, fun m small =>
    (arms.word5 m small).trans (recorded.buffer m small)⟩

theorem Recorded.complete (recorded : Recorded edi ram) (value : Word) :
    Recorded edi (Function.update ram (wordAt (ram edi.pUdcaPos) 3) value) := by
  obtain ⟨c, small, current⟩ := recorded.current
  rw [current]
  refine ⟨⟨c, small, ?_⟩, fun m bounded => ?_⟩
  · rw [Function.update_of_ne
      (edi.dd_word_ne_slot small (by decide)).symm, current]
  · rw [Function.update_of_ne, recorded.buffer m bounded]
    intro equal
    exact absurd ((edi.dd_word_inj bounded (by decide) small
      (by decide)).mp equal).2 (by decide)

theorem retiredFrom_none
    (absent : retiredFrom ram m (edi.epDmaAddr.dd i) = none) :
    ∀ n, i ≤ n → n < i + m → ddRetired ram (edi.epDmaAddr.dd n) = false := by
  induction m generalizing i with
  | zero =>
      intro n above below
      omega
  | succ m ih =>
      intro n above below
      rw [retiredFrom] at absent
      split at absent
      · cases absent
      · next active =>
          rw [EpDmaAddr.dd_succ] at absent
          rcases Nat.eq_or_lt_of_le above with rfl | later
          · simpa using active
          · exact ih absent n later (by omega)

theorem retiredFrom_some {dd : Word}
    (found : retiredFrom ram m (edi.epDmaAddr.dd i) = some dd) :
    ∃ n, n < i + m ∧ dd = edi.epDmaAddr.dd n ∧
      ddRetired ram (edi.epDmaAddr.dd n) = true := by
  induction m generalizing i with
  | zero => cases found
  | succ m ih =>
      rw [retiredFrom] at found
      split at found
      · next retired =>
          cases found
          exact ⟨i, by omega, rfl, retired⟩
      · rw [EpDmaAddr.dd_succ] at found
        obtain ⟨n, below, equal, retired⟩ := ih found
        exact ⟨n, by omega, equal, retired⟩

/-- A word of a buffer is a word of no descriptor and not the slot. -/
theorem Recorded.buffer_word (recorded : Recorded edi ram)
    (small : m < edi.epDmaAddr.nbuffers) (inside : j < usbMaxPacket0 / 4) :
    wordAt (ram (wordAt (edi.epDmaAddr.dd m) 5)) j ≠ edi.pUdcaPos ∧
      ∀ n < edi.epDmaAddr.nbuffers, ∀ w < epDdTotalSize,
        wordAt (ram (wordAt (edi.epDmaAddr.dd m) 5)) j ≠
          wordAt (edi.epDmaAddr.dd n) w := by
  rw [recorded.buffer m small]
  refine ⟨(edi.bufferApart m small j inside).1, fun n below w word => ?_⟩
  rw [EpDmaAddr.dd_word]
  refine (edi.bufferApart m small j inside).2 _ ?_
  simp only [epDdTotalSize] at *
  omega

theorem armNoPacket_other {address : Word}
    (slot : address ≠ edi.pUdcaPos)
    (words : ∀ j < 4, address ≠
      wordAt (edi.epDmaAddr.dd (edi.epDmaAddr.nbuffers - 1)) j) :
    armNoPacket edi ram address = ram address := by
  have zero := words 0 (by decide)
  have one := words 1 (by decide)
  have two := words 2 (by decide)
  have three := words 3 (by decide)
  simp only [EpDmaAddr.dd] at zero one two three
  simp [armNoPacket, slot, zero, one, two, three]

theorem armNoPacket_own (positive : 0 < edi.epDmaAddr.nbuffers) :
    let last := edi.epDmaAddr.dd (edi.epDmaAddr.nbuffers - 1)
    armNoPacket edi ram edi.pUdcaPos = last ∧
      armNoPacket edi ram (wordAt last 2) = ram (wordAt last 5) := by
  have word : ∀ j < epDdTotalSize, ∀ j' < epDdTotalSize,
      wordAt (edi.epDmaAddr.dd (edi.epDmaAddr.nbuffers - 1)) j =
        wordAt (edi.epDmaAddr.dd (edi.epDmaAddr.nbuffers - 1)) j' ↔
          j = j' := by
    intro j small j' small'
    rw [edi.dd_word_inj (by omega) small (by omega) small']
    simp
  have two := edi.dd_word_ne_slot
    (i := edi.epDmaAddr.nbuffers - 1) (by omega) (show 2 < _ by decide)
  have five_zero := word 5 (by decide) 0 (by decide)
  have five_one := word 5 (by decide) 1 (by decide)
  have five_three := word 5 (by decide) 3 (by decide)
  simp only [EpDmaAddr.dd] at two five_zero five_one five_three
  simp [armNoPacket, EpDmaAddr.dd, two, five_zero, five_one, five_three]

theorem Recorded.armNoPacket_payload (recorded : Recorded edi ram)
    (positive : 0 < edi.epDmaAddr.nbuffers) :
    let buffer := ram (wordAt
      (edi.epDmaAddr.dd (edi.epDmaAddr.nbuffers - 1)) 5)
    payloadAt (armNoPacket edi ram) buffer = payloadAt ram buffer := by
  have last : edi.epDmaAddr.nbuffers - 1 < edi.epDmaAddr.nbuffers := by omega
  refine readWords_congr fun j inside => ?_
  obtain ⟨slot, apart⟩ := recorded.buffer_word last inside
  exact armNoPacket_other slot fun w word =>
    apart _ last w (show w < 6 by omega)

theorem Recorded.armNoPacket (recorded : Recorded edi ram)
    (positive : 0 < edi.epDmaAddr.nbuffers)
    (copied : ∀ words, payload = some words →
      payloadAt ram (ram (wordAt
        (edi.epDmaAddr.dd (edi.epDmaAddr.nbuffers - 1)) 5)) = words) :
    Arms edi ram (armNoPacket edi ram) payload
      (edi.epDmaAddr.nbuffers - 1) := by
  have last : edi.epDmaAddr.nbuffers - 1 < edi.epDmaAddr.nbuffers := by omega
  obtain ⟨current, start⟩ := @armNoPacket_own edi ram positive
  refine ⟨last, current, fun address changed => ?_, fun m small => ?_,
    fun m small other j word => ?_, fun words taken => ⟨start, ?_⟩⟩
  · by_contra elsewhere
    simp only [not_or, not_exists, not_and] at elsewhere
    exact changed (armNoPacket_other elsewhere.2.1
      fun j word => elsewhere.1 j (by omega))
  · refine armNoPacket_other (edi.dd_word_ne_slot small (by decide))
      fun j word equal => ?_
    have same := (edi.dd_word_inj small (show 5 < _ by decide) last
      (show j < 6 by omega)).mp equal
    omega
  · refine armNoPacket_other (edi.dd_word_ne_slot small word)
      fun j' word' equal => ?_
    exact other ((edi.dd_word_inj small word last
      (show j' < 6 by omega)).mp equal).1
  · rw [← copied words taken]
    exact recorded.armNoPacket_payload positive

/-- A payload that goes into a free descriptor is written over word 5. -/
theorem Recorded.not_arms_free (recorded : Recorded edi ram)
    (small : m < edi.epDmaAddr.nbuffers) (words : List Word)
    (length : words.length = usbMaxPacket0 / 4) :
    let dd := edi.epDmaAddr.dd m
    ¬ Arms edi ram (Function.update
      (writeWords (freeDd ram dd) (freeDd ram dd (wordAt dd 2)) words)
      edi.pUdcaPos dd) (some words) i := by
  intro dd arms
  -- The slot says which descriptor is armed.
  have same : i = m := by
    have current := arms.current
    rw [Function.update_self] at current
    exact ((edi.dd_inj small arms.bounded).mp current).symm
  subst same
  have start := (arms.payload words rfl).1
  have target : freeDd ram dd (wordAt dd 2) = wordAt dd 5 := by
    simp [freeDd]
  have outside : ∀ j < words.length, wordAt dd 2 ≠ wordAt (wordAt dd 5) j := by
    intro j below equal
    rw [wordAt_wordAt, wordAt_inj (by decide) (by
      rw [length] at below
      simp only [usbMaxPacket0] at below
      omega)] at equal
    omega
  rw [Function.update_of_ne (edi.dd_word_ne_slot small (by decide)), target,
    writeWords_outside outside, target] at start
  -- So the buffer would begin at word 5 itself.
  have apart := (recorded.buffer_word small (show 0 < _ by decide)).2 i small 5
    (by decide)
  rw [wordAt_zero] at apart
  exact apart start.symm

/-- A request arms a descriptor as it should exactly when it has nothing to
copy. -/
theorem Recorded.request_iff (recorded : Recorded edi ep.ram)
    (positive : 0 < edi.epDmaAddr.nbuffers)
    (run : epTxIntDdRequest fuel edi ep = some (ep', payload)) :
    (∃ i, Arms edi ep.ram ep'.ram payload i) ↔
      NothingToCopy edi ep.ram payload := by
  have last : edi.epDmaAddr.nbuffers - 1 < edi.epDmaAddr.nbuffers := by omega
  obtain ⟨⟨k, qPtr⟩, takes, run⟩ := Option.bind_eq_some_iff.mp run
  cases qPtr with
  | none =>
      cases run
      constructor
      · intro _ words taken
        cases taken
      · intro _
        exact ⟨_, recorded.armNoPacket positive fun words taken => by
          cases taken⟩
  | some qPtr =>
      obtain ⟨⟨k', reply⟩, release, run⟩ := Option.bind_eq_some_iff.mp run
      dsimp only at run
      rw [← EpDmaAddr.dd_zero] at run
      cases found : retiredFrom ep.ram (edi.epDmaAddr.nbuffers - 1)
          (edi.epDmaAddr.dd 0) with
      | none =>
          rw [found] at run
          cases run
          have busy := retiredFrom_none found
          constructor
          · rintro ⟨i, arms⟩ words taken
            refine ⟨fun m below => busy m (by omega) (by omega), ?_⟩
            have same : edi.epDmaAddr.nbuffers - 1 = i :=
              (edi.dd_inj last arms.bounded).mp
                ((armNoPacket_own positive).1.symm.trans arms.current)
            subst same
            rw [← (arms.payload words taken).2]
            exact (recorded.armNoPacket_payload positive).symm
          · intro nothing
            exact ⟨_, recorded.armNoPacket positive fun words taken =>
              (nothing words taken).2⟩
      | some dd =>
          rw [found] at run
          cases run
          obtain ⟨m, below, rfl, retired⟩ := retiredFrom_some found
          constructor
          · rintro ⟨i, arms⟩
            exact absurd arms (recorded.not_arms_free (by omega) _
              (length_readWords _ _ _))
          · intro nothing
            have busy := (nothing _ rfl).1 m (by omega)
            exact absurd (busy.symm.trans retired) (by decide)

/-- The layout of the descriptors in every state that such a run reaches. -/
theorem TxArming.recorded (arming : TxArming edi ram) :
    0 < edi.epDmaAddr.nbuffers ∧ Recorded edi ram := by
  induction arming with
  | init positive ram => exact ⟨positive, .init positive ram⟩
  | request _ fuel run nothing ih =>
      obtain ⟨positive, recorded⟩ := ih
      obtain ⟨i, arms⟩ := (recorded.request_iff positive run).mpr nothing
      exact ⟨positive, recorded.arms arms⟩
  | complete _ status ih => exact ⟨ih.1, ih.2.complete _⟩

/-- In every state that requests with nothing to copy have reached, a request arms
its descriptor as it should exactly when it has nothing to copy. -/
theorem txRequest_arms_iff (arming : TxArming edi ep.ram)
    (run : epTxIntDdRequest fuel edi ep = some (ep', payload)) :
    (∃ i, Arms edi ep.ram ep'.ram payload i) ↔
      NothingToCopy edi ep.ram payload :=
  arming.recorded.2.request_iff arming.recorded.1 run

end Requests

/-! ## EP5 IN of the firmware -/

/-- The descriptors of EP5 IN, with a queue and a pool. -/
def EpDmaInfo.ep5Tx : EpDmaInfo where
  toEpDmaTable := .ep5Tx
  queue := 0
  memPool := 0
  bufferApart := by decide +kernel

namespace DmaEp

/-- The interrupt routine with the queue and the pool of EP5 IN created, right after
the initialisation of the descriptors. -/
def ep5Created : Kernel :=
  (tnFmemCreate 9 (tnQueueCreate .started (some 0) (some fun _ => 0) 8).after
    (some 0) 0x40002000 64 8).after

/-- The same, and a block of the pool has been sent. -/
def ep5Sent : Kernel :=
  (tnQueueSend 9 (tnFmemGet ep5Created (some 0) true tnWaitInfinite).after
    (some 0) 0x40002000 tnWaitInfinite).after

def ep5Tx (k : Kernel) : DmaEp where
  kernel := k.enterIrq
  ram := tnUsbDmaTxInit EpDmaInfo.ep5Tx.toEpDmaTable fun _ => 0
  eotIntSt := false
  nddrIntSt := true
  dmaEnabled := false

end DmaEp

set_option maxRecDepth 20000 in
/-- The equivalence for an empty queue, and for one with a block. -/
theorem txRequest_arms_iff_ep5Tx :
    (∃ ep', epTxIntDdRequest 9 .ep5Tx (.ep5Tx DmaEp.ep5Created) =
        some (ep', none) ∧
      ((∃ i, Arms .ep5Tx (DmaEp.ep5Tx DmaEp.ep5Created).ram ep'.ram none i) ↔
        NothingToCopy .ep5Tx (DmaEp.ep5Tx DmaEp.ep5Created).ram none)) ∧
    ∃ ep' words, epTxIntDdRequest 9 .ep5Tx (.ep5Tx DmaEp.ep5Sent) =
        some (ep', some words) ∧
      ((∃ i, Arms .ep5Tx (DmaEp.ep5Tx DmaEp.ep5Sent).ram ep'.ram
          (some words) i) ↔
        NothingToCopy .ep5Tx (DmaEp.ep5Tx DmaEp.ep5Sent).ram (some words)) := by
  have arming (k : Kernel) : TxArming .ep5Tx (DmaEp.ep5Tx k).ram :=
    .init (by decide) _
  exact ⟨⟨_, rfl, @txRequest_arms_iff _ _ _ 9 _ (arming _) rfl⟩,
    _, _, rfl, @txRequest_arms_iff _ _ _ 9 _ (arming _) rfl⟩

set_option maxRecDepth 20000 in
/-- The first payload of EP5 IN is written over word 5 of the first descriptor. -/
theorem txRequest_overwrites : ∃ ep' payload,
    TxArming .ep5Tx (DmaEp.ep5Tx DmaEp.ep5Sent).ram ∧
      epTxIntDdRequest 9 .ep5Tx (.ep5Tx DmaEp.ep5Sent) = some (ep', payload) ∧
      ¬ ∃ i, Arms .ep5Tx (DmaEp.ep5Tx DmaEp.ep5Sent).ram ep'.ram payload i := by
  have arming : TxArming .ep5Tx (DmaEp.ep5Tx DmaEp.ep5Sent).ram :=
    .init (by decide) _
  refine ⟨_, _, arming, rfl, fun arms => ?_⟩
  have nothing := (@Recorded.request_iff _ _ _ 9 _ arming.recorded.2
    (by decide) rfl).mp arms
  have retired := (tnUsbDmaTxInit_initialised EpDmaTable.ep5Tx
    fun _ => 0).retired 0 (by decide)
  exact absurd (((nothing _ rfl).1 0 (by decide)).symm.trans retired)
    (by decide)

end UsbBulk
