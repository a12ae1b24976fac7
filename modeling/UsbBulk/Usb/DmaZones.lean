import UsbBulk.Usb.DmaFirmware
import UsbBulk.Usb.DmaReception

/-!
# What the interrupt routine does to the USB RAM

Each endpoint has words of its own in the USB RAM, and serving it changes no others.
What serving it does to the kernel is what serving the same endpoint without DMA does.
-/

namespace UsbBulk

/-! ## Zones -/

section Zones

variable {e e' : Endpoint} {address : Word} {ram ram' ram'' : Word → Word}
variable {build : Build} {b : Board build} {c i j m : Nat}

namespace Endpoint

theorem InZone.bounds (zone : e.InZone address) :
    address.toNat = 0x7FD00000 + 4 * e.epNumPhys ∨
      0x7FD00080 + 704 * e.before ≤ address.toNat ∧
        address.toNat < 0x7FD00080 + 704 * (e.before + 1) := by
  rcases zone with rfl | ⟨m, small, rfl⟩
  · left
    cases e <;> rfl
  · right
    have last : e.before ≤ 3 := by cases e <;> decide
    simp only [wordAt, epDmaAddr, BitVec.toNat_add, BitVec.toNat_ofNat]
    omega

theorem InZone.unique (zone : e.InZone address) (zone' : e'.InZone address) :
    e = e' := by
  have bounds := zone.bounds
  have bounds' := zone'.bounds
  cases e <;> cases e' <;> simp only [epNumPhys, before] at bounds bounds' <;>
    first | rfl | omega

theorem slot_inZone (e : Endpoint) : e.InZone e.table.pUdcaPos := .inl rfl

theorem word_inZone (small : m < 176) : e.InZone (wordAt e.epDmaAddr.pDD m) :=
  .inr ⟨m, small, rfl⟩

theorem word_ne_slot (e : Endpoint) (small : m < 176) :
    wordAt e.epDmaAddr.pDD m ≠ e.table.pUdcaPos := by
  intro same
  have number := congrArg BitVec.toNat same
  cases e <;>
    simp only [wordAt, epDmaAddr, table, before, epNumPhys, BitVec.toNat_add,
      BitVec.toNat_ofNat] at number <;> omega

theorem dd_inZone (bounded : epDdTotalSize * i + j < 176) :
    e.InZone (wordAt (e.epDmaAddr.dd i) j) := by
  rw [EpDmaAddr.dd_word]
  exact word_inZone bounded

theorem buffer_inZone (small : i < 8) (inside : j < usbMaxPacket0 / 4) :
    e.InZone (wordAt (e.epDmaAddr.buffer i) j) := by
  have start : ∀ i < 8,
      e.epDmaAddr.buffer i = wordAt e.epDmaAddr.pDD (48 + 4 * i) := by
    cases e <;> decide
  rw [start i small, wordAt_wordAt]
  simp only [usbMaxPacket0] at inside
  exact word_inZone (by omega)

/-- Only words of the endpoint have changed. -/
def Confines (e : Endpoint) (ram ram' : Word → Word) : Prop :=
  ∀ address, ram' address ≠ ram address → e.InZone address

namespace Confines

theorem refl (e : Endpoint) (ram : Word → Word) : e.Confines ram ram :=
  fun _ changed => absurd rfl changed

theorem trans (first : e.Confines ram ram') (second : e.Confines ram' ram'') :
    e.Confines ram ram'' := by
  intro address changed
  by_cases same : ram' address = ram address
  · exact second address (same ▸ changed)
  · exact first address same

theorem update (first : e.Confines ram ram') {value : Word}
    (zone : e.InZone address) :
    e.Confines ram (Function.update ram' address value) := by
  refine first.trans fun other changed => ?_
  by_cases same : other = address
  · exact same ▸ zone
  · exact absurd (Function.update_of_ne same _ _) changed

theorem write (first : e.Confines ram ram') {words : List Word}
    (zone : ∀ j < words.length, e.InZone (wordAt address j)) :
    e.Confines ram (writeWords ram' address words) := by
  refine first.trans fun other changed => ?_
  by_contra outside
  refine changed (writeWords_outside fun j small same => ?_)
  exact outside (same ▸ zone j small)

theorem other (confines : e'.Confines ram ram') (different : e' ≠ e)
    (zone : e.InZone address) : ram' address = ram address := by
  by_contra changed
  exact different ((confines address changed).unique zone)

end Confines

end Endpoint

/-! ### The initialisations -/

theorem initFrom_confines {active left : Nat} {bufPtr : Word}
    {body : (Word → Word) → Nat → Word → Word → (Word → Word)}
    (round : InitialisesDd e.table active body) (all : i + left ≤ 8) :
    e.Confines ram (initFrom e.table body left ram i (e.epDmaAddr.dd i)
      bufPtr) := by
  induction left generalizing ram i bufPtr with
  | zero => exact .refl e ram
  | succ left ih =>
      rw [initFrom]
      have next : wordAt (e.epDmaAddr.dd i) epDdTotalSize = e.epDmaAddr.dd (i + 1) :=
        e.epDmaAddr.dd_succ i
      rw [next]
      refine Endpoint.Confines.trans (fun address changed => ?_) (ih (by omega))
      by_contra outside
      refine changed (round.other _ _ _ _ _ (fun slot => ?_) fun j word dd => ?_)
      · exact outside (slot ▸ e.slot_inZone)
      · refine outside (dd ▸ Endpoint.dd_inZone ?_)
        simp only [epDdTotalSize] at *
        omega

theorem tnUsbDmaRxInit_confines (e : Endpoint) (ram : Word → Word) :
    e.Confines ram (tnUsbDmaRxInit e.table ram) := by
  have first := @initFrom_confines e ram 0 0 8 e.epDmaAddr.pDataBuffers _
    (rxInitDd_initialises e.table) (by decide)
  rwa [EpDmaAddr.dd_zero] at first

theorem tnUsbDmaTxInit_confines (e : Endpoint) (ram : Word → Word) :
    e.Confines ram (tnUsbDmaTxInit e.table ram) := by
  have first := @initFrom_confines e ram 0 _ 8 e.epDmaAddr.pDataBuffers _
    (txInitDd_initialises e.table) (by decide)
  rwa [EpDmaAddr.dd_zero] at first

/-! ### Requests -/

theorem activateFrom_confines {left : Nat} (all : i + left ≤ 8) :
    e.Confines ram (activateFrom (b.edi e) left ram (e.epDmaAddr.dd i)) := by
  induction left generalizing i with
  | zero => exact .refl e ram
  | succ left ih =>
      have word : ∀ j < epDdTotalSize, e.InZone (wordAt (e.epDmaAddr.dd i) j) := by
        intro j small
        refine Endpoint.dd_inZone ?_
        simp only [epDdTotalSize] at *
        omega
      rw [activateFrom]
      split
      · exact (((Endpoint.Confines.refl e ram).update (word 0 (by decide))).update
          (word 3 (by decide))).update (word 2 (by decide)) |>.update e.slot_inZone
      · rw [EpDmaAddr.dd_succ]
        exact ih (by omega)

/-- `ep_tx_int_DD_request` writes to the descriptors and to the slot, also when a
payload is written over the words of a descriptor. -/
theorem epTxIntDdRequest_spec {fuel : Nat} {ep ep' : DmaEp}
    {payload : Option (List Word)}
    (run : epTxIntDdRequest fuel (b.edi e) ep = some (ep', payload)) :
    tnUsbEpTxInt fuel (b.ei e.lane) ep.kernel = some (ep'.kernel, payload) ∧
      ep'.eotIntSt = ep.eotIntSt ∧ ep'.nddrIntSt = false ∧
      e.Confines ep.ram ep'.ram := by
  have word : ∀ i < 8, ∀ j < epDdTotalSize, e.InZone (wordAt (e.epDmaAddr.dd i) j) := by
    intro i small j inside
    refine Endpoint.dd_inZone ?_
    simp only [epDdTotalSize] at *
    omega
  have arm : e.Confines ep.ram (armNoPacket (b.edi e) ep.ram) := by
    unfold armNoPacket
    have last := word 7 (by decide)
    exact (((((Endpoint.Confines.refl e ep.ram).update (last 0 (by decide))).update
      (last 1 (by decide))).update (last 3 (by decide))).update
        (last 2 (by decide))).update e.slot_inZone
  obtain ⟨⟨k, qPtr⟩, takes, run⟩ := Option.bind_eq_some_iff.mp run
  obtain ⟨⟨k₁, reply⟩, received, takes⟩ := Option.bind_eq_some_iff.mp takes
  change (tnQueueIreceive fuel ep.kernel (some (b.queue e.lane)) true).bind _ = _ ∧ _
  change tnQueueIreceive fuel ep.kernel (some (b.queue e.lane)) true = _ at received
  rw [received]
  dsimp only at takes run
  split at takes
  · next noErr =>
      obtain ⟨ptr, value, takes⟩ := Option.bind_eq_some_iff.mp takes
      cases takes
      obtain ⟨⟨k₂, reply₂⟩, released, run⟩ := Option.bind_eq_some_iff.mp run
      have kernel : (tnFmemIrelease fuel k (some (b.memPool e.lane)) ptr).bind
          (fun after => some (after.1, some (payloadAt k.mem ptr))) =
          some (k₂, some (payloadAt k.mem ptr)) :=
        congrArg (Option.bind · _) released
      simp only [Option.bind_eq_bind, Option.bind_some, noErr, value, if_true]
      split at run
      · next dd found =>
          cases run
          refine ⟨kernel, rfl, rfl, ?_⟩
          rw [← EpDmaAddr.dd_zero] at found
          obtain ⟨n, below, rfl, _⟩ := retiredFrom_some found
          have small : n < 7 := by
            have bound : n < 0 + (8 - 1) := below
            omega
          have own := word n (by omega)
          refine Endpoint.Confines.update (Endpoint.Confines.write ?_ ?_)
            e.slot_inZone
          · exact ((((Endpoint.Confines.refl e ep.ram).update
              (own 0 (by decide))).update (own 3 (by decide))).update
                (own 4 (by decide))).update (own 2 (by decide))
          · -- The payload begins at word 5.
            intro j inside
            have target : ∀ dd, freeDd ep.ram dd (wordAt dd 2) = wordAt dd 5 :=
              fun dd => Function.update_self _ _ _
            rw [target, wordAt_wordAt]
            refine @Endpoint.dd_inZone e n _ ?_
            rw [payloadAt, length_readWords] at inside
            simp only [epDdTotalSize, usbMaxPacket0] at *
            omega
      · cases run
        exact ⟨kernel, rfl, rfl, arm⟩
  · next failed =>
      cases takes
      cases run
      refine ⟨?_, rfl, rfl, arm⟩
      simp only [Option.bind_eq_bind, Option.bind_some, failed, if_false]

/-- The request answers when `tn_usb_ep_tx_int` does. -/
theorem epTxIntDdRequest_answers {fuel : Nat} {ep : DmaEp} {k : Kernel}
    {payload : Option (List Word)}
    (answers : tnUsbEpTxInt fuel (b.ei e.lane) ep.kernel = some (k, payload)) :
    ∃ ep', epTxIntDdRequest fuel (b.edi e) ep = some (ep', payload) := by
  obtain ⟨⟨k₁, reply⟩, received, answers⟩ := Option.bind_eq_some_iff.mp answers
  have received : tnQueueIreceive fuel ep.kernel (some (b.edi e).queue) true =
      some (k₁, reply) := received
  dsimp only at answers
  unfold epTxIntDdRequest DmaEp.takes
  split at answers
  · next noErr =>
      obtain ⟨ptr, value, answers⟩ := Option.bind_eq_some_iff.mp answers
      obtain ⟨⟨k₂, reply₂⟩, released, answers⟩ := Option.bind_eq_some_iff.mp answers
      have released : tnFmemIrelease fuel k₁ (some (b.edi e).memPool) ptr =
          some (k₂, reply₂) := released
      cases answers
      simp only [Option.bind_eq_bind, received, Option.bind_some, noErr, value,
        released, if_true]
      split <;> exact ⟨_, rfl⟩
  · next failed =>
      cases answers
      simp only [Option.bind_eq_bind, received, Option.bind_some, failed, if_false]
      exact ⟨_, rfl⟩

/-- A payload is copied to word 5 of the first retired descriptor and the words after
it. -/
theorem epTxIntDdRequest_copies {fuel : Nat} {ep ep' : DmaEp} {words : List Word}
    (run : epTxIntDdRequest fuel (b.edi e) ep = some (ep', some words)) {dd : Word}
    (found : retiredFrom ep.ram 7 e.epDmaAddr.pDD = some dd) :
    payloadAt ep'.ram (wordAt dd 5) = words ∧ ep'.ram e.table.pUdcaPos = dd := by
  have found : retiredFrom ep.ram ((b.edi e).epDmaAddr.nbuffers - 1)
      (b.edi e).epDmaAddr.pDD = some dd := found
  obtain ⟨⟨k, qPtr⟩, _, run⟩ := Option.bind_eq_some_iff.mp run
  cases qPtr with
  | none => cases run
  | some ptr =>
      obtain ⟨⟨k₂, reply₂⟩, _, run⟩ := Option.bind_eq_some_iff.mp run
      dsimp only at run
      rw [found] at run
      cases run
      rw [← EpDmaAddr.dd_zero] at found
      obtain ⟨n, below, rfl, _⟩ := retiredFrom_some found
      have small : n < 0 + (8 - 1) := below
      have target : ∀ dd, freeDd ep.ram dd (wordAt dd 2) = wordAt dd 5 :=
        fun dd => Function.update_self _ _ _
      refine ⟨?_, Function.update_self _ _ _⟩
      -- The slot is none of the words of the payload.
      have slot : ∀ j < usbMaxPacket0 / 4, wordAt (wordAt ((b.edi e).epDmaAddr.dd n) 5)
          j ≠ (b.edi e).pUdcaPos := by
        intro j inside
        rw [wordAt_wordAt, EpDmaAddr.dd_word]
        refine e.word_ne_slot ?_
        simp only [epDdTotalSize, usbMaxPacket0] at *
        omega
      rw [target, payloadAt, readWords_congr fun j inside =>
        Function.update_of_ne (slot j inside) _ _]
      have length : (payloadAt k.mem ptr).length = usbMaxPacket0 / 4 :=
        length_readWords _ _ _
      have whole := @readWords_writeWords _ (freeDd ep.ram ((b.edi e).epDmaAddr.dd n))
        (wordAt ((b.edi e).epDmaAddr.dd n) 5) (payloadAt k.mem ptr) _
        (Nat.le_of_eq length) (by decide)
      refine (whole.eq_of_length ?_).symm
      rw [length, length_readWords]

/-! ### The descriptors of one endpoint -/

/-- The descriptors and the buffers of an endpoint are words of the endpoint. -/
theorem Descriptors.kept (sound : Descriptors (b.edi e) ram c)
    (same : ∀ address, e.InZone address → ram' address = ram address) :
    Descriptors (b.edi e) ram' c ∧
      ddRetired ram' (e.epDmaAddr.dd c) = ddRetired ram (e.epDmaAddr.dd c) ∧
      payloadAt ram' (e.epDmaAddr.buffer c) = payloadAt ram (e.epDmaAddr.buffer c) := by
  have small : c < 8 := sound.bounded
  have word : ∀ i < 8, ∀ j < epDdTotalSize,
      ram' (wordAt (e.epDmaAddr.dd i) j) = ram (wordAt (e.epDmaAddr.dd i) j) := by
    intro i below j inside
    refine same _ (Endpoint.dd_inZone ?_)
    simp only [epDdTotalSize] at *
    omega
  exact ⟨sound.congr (same _ e.slot_inZone) word,
    ddRetired_congr (word c small 3 (by decide)),
    readWords_congr fun j inside => same _ (Endpoint.buffer_inZone small inside)⟩

theorem DmaEp.transfer_confines {ep : DmaEp} (sound : Descriptors (b.edi e) ep.ram c)
    (active : ddRetired ep.ram (ep.current (b.edi e)) = false) (packet : UsbPacket)
    (position status : Word) (enabled : Bool) :
    e.Confines ep.ram
      (ep.transfer (b.edi e) packet position status enabled).ram := by
  have small : c < 8 := sound.bounded
  have there : ep.current (b.edi e) = e.epDmaAddr.dd c := sound.current
  have start : ep.ram (wordAt (e.epDmaAddr.dd c) 2) = e.epDmaAddr.buffer c := by
    rw [there] at active
    exact sound.start active
  have word : ∀ j < epDdTotalSize, e.InZone (wordAt (e.epDmaAddr.dd c) j) := by
    intro j inside
    refine Endpoint.dd_inZone ?_
    simp only [epDdTotalSize] at *
    omega
  simp only [DmaEp.transfer, there, start]
  refine ((Endpoint.Confines.refl e ep.ram).write fun j inside => ?_).update
    (word 2 (by decide)) |>.update (word 3 (by decide))
  exact Endpoint.buffer_inZone small (Nat.lt_of_lt_of_le inside packet.length_words)

end Zones

/-! ## What is done to the kernel -/

/-- A payload as a packet. -/
def UsbPacket.ofPayload (mem : Word → Word) (ptr : Word) : UsbPacket where
  len := usbMaxPacket0
  words := payloadAt mem ptr
  bounded := Nat.le_refl _
  whole := length_readWords _ _ _

section Served

variable {build : Build} {b : Board build} {st st' : DmaFirmware} {e : Endpoint}
variable {fuel : Nat}

/-- The packet that waits to be copied. -/
def Board.waiting (b : Board build) (st : DmaFirmware) (e : Endpoint) : UsbPacket :=
  .ofPayload st.engine.ram (st.engine.ram (wordAt ((st.ep e).current (b.edi e)) 5))

/-- `ep_rx_end_of_transfer` does what `tn_usb_ep_rx_int` does with a packet of 64
bytes. -/
theorem rxEndOfTransfer_spec (run : b.rxEndOfTransfer fuel e st = some st') :
    b.epRxInt fuel e.lane (some (b.waiting st e)) st.toFirmware =
        some st'.toFirmware ∧
      st'.engine = { st.engine with
        eotIntSt := Function.update st.engine.eotIntSt e false } ∧
      st'.acknowledged = st.acknowledged := by
  obtain ⟨⟨k, reply⟩, got, run⟩ := Option.bind_eq_some_iff.mp run
  obtain ⟨ep, served, run⟩ := Option.bind_eq_some_iff.mp run
  cases run
  unfold Board.epRxInt tnUsbEpRxInt
  change (((tnFmemGetIpolling st.kernel (some (b.memPool e.lane)) true).bind _).bind
    _ = _) ∧ _
  unfold epRxEndOfTransfer at served
  change (tnFmemGetIpolling st.kernel (some (b.memPool e.lane)) true).bind _ = _
    at served
  rw [got] at served ⊢
  dsimp only [Option.bind_some] at served ⊢
  split at served
  · next noErr =>
      obtain ⟨ptr, value, served⟩ := Option.bind_eq_some_iff.mp served
      obtain ⟨⟨k₁, reply₁⟩, sent, served⟩ := Option.bind_eq_some_iff.mp served
      cases served
      simp only [noErr, if_true]
      refine ⟨?_, ?_, rfl⟩
      · have sent : tnQueueIsendPolling fuel (k.setMem (writeWords k.mem ptr
            (b.waiting st e).words)) (some (b.queue e.lane)) ptr =
              some (k₁, reply₁) := sent
        rw [value]
        simp only [Option.bind_eq_bind, Option.bind_some, Board.ei, sent, if_true]
        rfl
      · simp [DmaFirmware.setFirmware, DmaFirmware.setEp, DmaFirmware.ep,
          DmaEp.setKernel]
  · next failed =>
      cases served
      simp only [failed, if_false]
      refine ⟨rfl, ?_, rfl⟩
      simp [DmaFirmware.setEp, DmaFirmware.ep, DmaEp.setKernel]

/-- `ep_tx_int_DD_request` does what `tn_usb_ep_tx_int` does, and writes to the words of
its endpoint. -/
theorem txDdRequest_spec (run : b.txDdRequest fuel e st = some st') :
    b.epTxInt fuel e.lane st.toFirmware = some st'.toFirmware ∧
      st'.engine.eotIntSt = st.engine.eotIntSt ∧
      st'.engine.nddrIntSt = Function.update st.engine.nddrIntSt e false ∧
      e.Confines st.engine.ram st'.engine.ram ∧
      st'.acknowledged = st.acknowledged := by
  obtain ⟨⟨ep, payload⟩, served, run⟩ := Option.bind_eq_some_iff.mp run
  obtain ⟨kernel, eot, nddr, confines⟩ := epTxIntDdRequest_spec served
  cases run
  unfold Board.epTxInt
  rw [show tnUsbEpTxInt fuel (b.ei e.lane) st.kernel = _ from kernel]
  have same : Function.update st.engine.eotIntSt e ep.eotIntSt =
      st.engine.eotIntSt := by
    rw [eot]
    exact Function.update_eq_self _ _
  cases payload <;> exact ⟨rfl, same, by rw [← nddr]; rfl, confines, rfl⟩

end Served

end UsbBulk
