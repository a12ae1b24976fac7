import Mathlib.Logic.Function.Iterate
import UsbBulk.Usb.ControlTransfer
import UsbBulk.Usb.DescriptorTable

/-!
# Data stages of EP0

What the host receives of a descriptor over the successive IN interrupts, and how
the packets of a data stage from the host are consumed.
-/

namespace UsbBulk

/-! ## To the host -/

/-- The packets that are handed to the controller. -/
def writtenPackets (events : List UsbEvent) : List (List Byte) :=
  events.filterMap fun
    | .ep0Write _ data => some data
    | _ => none

/-- What `count` calls of `tn_usb_st_DATAIN` send of `length` bytes. -/
def datainPackets (mem : Word → Byte) : Word → Nat → Nat → List (List Byte)
  | _, _, 0 => []
  | pdata, length, count + 1 =>
      readBytes mem pdata (min length 64) ::
        datainPackets mem (pdata + 4 * BitVec.ofNat 32 (min length 64))
          (length - min length 64) count

/-- The byte that is sent as number `i`. -/
def sentByte (mem : Word → Byte) (pdata : Word) (i : Nat) : Byte :=
  mem (pdata + BitVec.ofNat 32 (256 * (i / 64) + i % 64))

theorem tnUsbEp0TxIntFunc_eq (u : UsbDevice) {length : Nat}
    (expected : u.nbytes = length) :
    tnUsbEp0TxIntFunc u = { u with
      nbytes := ((length - min length 64 : Nat) : Int)
      pdata := u.pdata + 4 * BitVec.ofNat 32 (min length 64)
      log := u.log ++ [.dataIn u.nbytes u.pdata,
        .ep0Write (min u.nbytes 64)
          (readBytes u.mem u.pdata (min length 64))] } := by
  have sent : min u.nbytes 64 = ((min length 64 : Nat) : Int) := by omega
  have left : u.nbytes - ((min length 64 : Nat) : Int) =
      ((length - min length 64 : Nat) : Int) := by omega
  rw [tnUsbEp0TxIntFunc, tnUsbStDatain_eq, sent, Int.toNat_natCast,
    BitVec.ofInt_natCast, left]

theorem tnUsbEp0TxIntFunc_iterate (u : UsbDevice) {length : Nat} (count : Nat)
    (expected : u.nbytes = length) :
    ∃ events, (tnUsbEp0TxIntFunc^[count] u).log = u.log ++ events ∧
      writtenPackets events = datainPackets u.mem u.pdata length count := by
  induction count generalizing u length with
  | zero => exact ⟨[], by simp, rfl⟩
  | succ count ih =>
      have step := tnUsbEp0TxIntFunc_eq u expected
      obtain ⟨events, logged, packets⟩ := ih (tnUsbEp0TxIntFunc u)
        (show (tnUsbEp0TxIntFunc u).nbytes =
          ((length - min length 64 : Nat) : Int) by rw [step])
      rw [Function.iterate_succ_apply, logged]
      rw [step] at packets ⊢
      refine ⟨_ :: _ :: events, by
        rw [List.append_assoc]
        rfl, ?_⟩
      exact congrArg (_ :: ·) packets

theorem readBytes_eq_sent (mem : Word → Byte) (pdata : Word) {length : Nat}
    (single : length ≤ 64) :
    readBytes mem pdata length =
      (List.range length).map (sentByte mem pdata) := by
  rw [readBytes]
  apply List.map_congr_left
  intro i below
  -- The last byte of a full packet is still in it.
  have within : i < 64 := Nat.lt_of_lt_of_le (List.mem_range.mp below) single
  have offset : 256 * (i / 64) + i % 64 = i := by omega
  rw [sentByte, offset]

theorem sentByte_next (mem : Word → Byte) (pdata : Word) (i : Nat) :
    sentByte mem pdata (64 + i) =
      sentByte mem (pdata + 4 * BitVec.ofNat 32 64) i := by
  have offset : 256 * ((64 + i) / 64) + (64 + i) % 64 =
      256 + (256 * (i / 64) + i % 64) := by omega
  rw [sentByte, sentByte, offset, ← address_add]
  rfl

/-- Whatever the number of interrupts, the bytes are sent in order. -/
theorem datainPackets_flatten (mem : Word → Byte) (pdata : Word)
    (length count : Nat) : (datainPackets mem pdata length count).flatten =
      (List.range (min length (64 * count))).map (sentByte mem pdata) := by
  induction count generalizing pdata length with
  | zero => simp [datainPackets]
  | succ count ih =>
      have split : min length (64 * (count + 1)) = min length 64 +
          min (length - min length 64) (64 * count) := by omega
      rw [datainPackets, List.flatten_cons, ih, split, List.range_add,
        List.map_append, List.map_map,
        readBytes_eq_sent _ _ (Nat.min_le_right _ _)]
      congr 1
      apply List.map_congr_left
      intro i member
      -- There is a next packet only after a full one.
      have below := List.mem_range.mp member
      have full : min length 64 = 64 := by omega
      rw [full, Function.comp_apply]
      exact (sentByte_next mem pdata i).symm

/-- What is sent is what lies at the address exactly when the bytes after the
first 64 happen to be equal to those that are sent in their place. -/
theorem sent_eq_iff (mem : Word → Byte) (pdata : Word) (n : Nat) :
    (List.range n).map (sentByte mem pdata) = readBytes mem pdata n ↔
      ∀ i, 64 ≤ i → i < n →
        mem (pdata + BitVec.ofNat 32 (256 * (i / 64) + i % 64)) =
          mem (pdata + BitVec.ofNat 32 i) := by
  rw [readBytes, List.map_inj_left]
  constructor
  · intro alike i _ below
    exact alike i (List.mem_range.mpr below)
  · intro alike i below
    by_cases first : i < 64
    · have offset : 256 * (i / 64) + i % 64 = i := by omega
      rw [sentByte, offset]
    · exact alike i (by omega) (List.mem_range.mp below)

/-- The request is `GET_DESCRIPTOR` of the device. -/
def UsbSetupPacket.IsGetDescriptor (usp : UsbSetupPacket) : Prop :=
  usp.bmRequestType = 0x80 ∧ usp.bRequest = getDescriptor

theorem Laid.take {mem : Word → Byte} {address : Word} {bytes : List Byte}
    (laid : Laid mem address bytes) (n : Nat) :
    bytes.take n = readBytes mem address (min bytes.length n) := by
  have parts := laid
  rw [← List.take_append_drop n bytes, laid_append] at parts
  rw [Nat.min_comm, ← List.length_take]
  exact parts.1.read.symm

theorem dispatchRequest_descriptor {u : UsbDevice} (fuel : Nat)
    (inward : u.setup.command = usbCmdStdDevIn)
    (descriptor : u.setup.bRequest = getDescriptor) :
    dispatchRequest fuel u = usbGetDescriptor fuel u := by
  rw [dispatchRequest, inward, descriptor]
  rfl

theorem dispatchRequest_getDescriptor {fuel : Nat} {u : UsbDevice} {ptr : Word}
    (request : u.setup.IsGetDescriptor)
    (found : findDescriptor u.mem u.setup.valueHigh u.setup.valueLow.toNat fuel
      u.descriptors 0 = some (some ptr)) :
    dispatchRequest fuel u = some ({ u with
      pdata := ptr
      nbytes := descriptorLength u.mem u.setup.valueHigh ptr }, true) := by
  have command : u.setup.command = usbCmdStdDevIn := by
    rw [UsbSetupPacket.command, request.1]
    rfl
  have recipient : u.setup.recip = cmdRecipDevice := by
    rw [UsbSetupPacket.recip, request.1]
    rfl
  rw [dispatchRequest_descriptor fuel command request.2, usbGetDescriptor,
    if_pos recipient]
  change (findDescriptor _ _ _ _ _ _).bind _ = _
  rw [found]
  rfl

/-- `GET_DESCRIPTOR` finds the selected descriptor. -/
theorem getDescriptor_accepted {fuel position : Nat} {u : UsbDevice}
    {blocks : List UsbBlock} {content : List Byte}
    (table : Laid u.mem u.descriptors (tableBytes blocks))
    (request : u.setup.IsGetDescriptor)
    (selects : selectEntry 0 (tableEntries blocks) u.setup.valueHigh
      u.setup.valueLow.toNat = some (position, content))
    (enough : (tableEntries blocks).length < fuel) :
    tnUsbEp0Setup fuel u = some ({ u with
        pdata := u.descriptors + BitVec.ofNat 32 position
        nbytes := content.length
        log := u.log ++ [.setup (readBytes u.mem u.pbuf usbMaxPacket0),
          .answer true] }, true) := by
  have search := findDescriptor_table u.setup.valueHigh
    u.setup.valueLow.toNat table enough
  rw [selects] at search
  obtain ⟨found, -, length⟩ := search
  rw [tnUsbEp0Setup]
  change (dispatchRequest fuel (u.note _)).bind _ = _
  rw [dispatchRequest_getDescriptor (u := u.note _) request found]
  simp [UsbDevice.note, length]

theorem UsbSetupPacket.IsGetDescriptor.isIn {usp : UsbSetupPacket}
    (request : usp.IsGetDescriptor) : usp.isIn = true := by
  rw [UsbSetupPacket.isIn, request.1]
  rfl

/-- The claim about one accepted request: what is armed is at most its answer,
and whatever the number of IN interrupts, what is sent is the beginning of the
answer. -/
def ArmsItsResponse (fuel : Nat) (u : UsbDevice) (stp : Option UsbSetupPacket)
    (incoming : List UsbPacket) (point u₁ : UsbDevice) : Prop :=
  ∃ (u' : UsbDevice) (rest : List UsbPacket) (armed : Int),
    tnUsbEp0RxIntFunc fuel u stp incoming = some (u', rest) ∧
    armed ≤ responseLength fuel point ∧
    ∀ count, ∃ events,
      (tnUsbEp0TxIntFunc^[count] u').log = u₁.log ++
        .dataIn armed (responseAddress fuel point) :: events ∧
      (writtenPackets events).flatten <+:
        readBytes u₁.mem (responseAddress fuel point)
          (responseLength fuel point)

/-- The length of the answer that the host asked for. -/
def requestedLength (fuel : Nat) (stp : Option UsbSetupPacket)
    (point : UsbDevice) : Nat :=
  match stp with
  | some usp => min (responseLength fuel point) usp.wLength.toNat
  | none => responseLength fuel point

/-- The bytes of the answer after the first 64 happen to be equal to those that
are sent in their place. -/
def RepeatsItself (fuel : Nat) (stp : Option UsbSetupPacket)
    (point : UsbDevice) : Prop :=
  ∀ i, 64 ≤ i → i < requestedLength fuel stp point →
    point.mem (responseAddress fuel point +
        BitVec.ofNat 32 (256 * (i / 64) + i % 64)) =
      point.mem (responseAddress fuel point + BitVec.ofNat 32 i)

section Accepted

variable {fuel : Nat} {u point u₁ : UsbDevice} {stp : Option UsbSetupPacket}
variable {incoming : List UsbPacket}

/-- An answer of more than one packet is a descriptor, and the request leaves the
memory alone. -/
theorem responseLength_long (long : 64 < responseLength fuel point)
    (answer : tnUsbEp0Setup fuel point = some (u₁, true)) :
    point.setup.command = usbCmdStdDevIn ∧ u₁.mem = point.mem := by
  have inward : point.setup.command = usbCmdStdDevIn := by
    by_contra other
    rw [responseLength, if_neg other] at long
    split_ifs at long <;> omega
  have descriptor : point.setup.bRequest = getDescriptor := by
    by_contra other
    rw [responseLength, if_pos inward, if_neg other] at long
    split_ifs at long <;> omega
  obtain ⟨⟨u₂, rc₂⟩, dispatched, finished⟩ := Option.bind_eq_some_iff.mp answer
  cases finished
  refine ⟨inward, ?_⟩
  rw [dispatchRequest_descriptor (u := point.note _) fuel inward descriptor,
    usbGetDescriptor] at dispatched
  split at dispatched
  · obtain ⟨found, -, finished⟩ := Option.bind_eq_some_iff.mp dispatched
    cases found with
    | none => cases finished
    | some ptr =>
        cases finished
        rfl
  · cases dispatched

/-- The bytes that are armed after the first packet are those of the answer. -/
theorem armedCount_long {i : Nat}
    (within : armedCount fuel stp point ≤ responseLength fuel point)
    (later : 64 ≤ i) : (i : Int) < armedCount fuel stp point ↔
      i < requestedLength fuel stp point := by
  by_cases inward : point.setup.command = usbCmdStdDevIn
  · have count : acceptedCount fuel point = responseLength fuel point :=
      if_pos inward
    cases stp <;> simp only [armedCount, requestedLength, count] <;> omega
  · have short : responseLength fuel point ≤ 1 := by
      rw [responseLength, if_neg inward]
      split_ifs <;> omega
    cases stp <;> simp only [requestedLength] <;> omega

theorem Ep0Dispatch.sends {length : Nat}
    (dispatch : Ep0Dispatch u stp incoming point)
    (accepted : tnUsbEp0Setup fuel point = some (u₁, true))
    (counted : armedCount fuel stp point = length) :
    ∃ u' rest, tnUsbEp0RxIntFunc fuel u stp incoming = some (u', rest) ∧
      ∀ count, ∃ events,
        (tnUsbEp0TxIntFunc^[count] u').log = u₁.log ++
          .dataIn length (responseAddress fuel point) :: events ∧
        (writtenPackets events).flatten =
          (List.range (min length (64 * (count + 1)))).map
            (sentByte u₁.mem (responseAddress fuel point)) := by
  obtain ⟨accepts, address, -⟩ := tnUsbEp0Setup_accepts accepted
  have ran := dispatch.runs accepted
  rw [if_neg (by decide)] at ran
  have nbytes : (u₁.clipOn stp).nbytes = length := by
    rw [← counted]
    cases stp <;> simp [UsbDevice.clipOn, UsbDevice.clip, armedCount, accepts]
  have kept : (u₁.clipOn stp).pdata = u₁.pdata ∧
      (u₁.clipOn stp).mem = u₁.mem ∧ (u₁.clipOn stp).log = u₁.log := by
    cases stp <;> exact ⟨rfl, rfl, rfl⟩
  refine ⟨_, _, ran, fun count => ?_⟩
  have first := tnUsbEp0TxIntFunc_eq (u₁.clipOn stp) nbytes
  rw [kept.1, kept.2.1, kept.2.2, nbytes, address] at first
  obtain ⟨events, logged, packets⟩ := tnUsbEp0TxIntFunc_iterate
    (tnUsbEp0TxIntFunc (u₁.clipOn stp)) count
    (show (tnUsbEp0TxIntFunc (u₁.clipOn stp)).nbytes =
      ((length - min length 64 : Nat) : Int) by rw [first])
  refine ⟨_ :: events, logged.trans (by
    rw [first, List.append_assoc]
    rfl), ?_⟩
  rw [first] at packets
  rw [← datainPackets_flatten]
  exact congrArg (fun later => (_ :: later).flatten) packets

/-- An accepted request arms and sends no more than its answer exactly when it is
neither the class request `0xFF` for data nor the class request `0xFE` with data
from the host, and the bytes after the first packet happen to be right: always
when there are none. -/
theorem accepted_armsItsResponse
    (dispatch : Ep0Dispatch u stp incoming point)
    (accepted : tnUsbEp0Setup fuel point = some (u₁, true)) :
    ArmsItsResponse fuel u stp incoming point u₁ ↔
      ¬u.Miscounts stp ∧ RepeatsItself fuel stp point := by
  obtain ⟨-, -, supported⟩ := tnUsbEp0Setup_accepts accepted
  have counts : armedCount fuel stp point ≤ responseLength fuel point ↔
      ¬u.Miscounts stp := dispatch.armedCount_le supported
  obtain ⟨length, counted⟩ := Int.eq_ofNat_of_zero_le
    (show 0 ≤ armedCount fuel stp point from dispatch.armedCount_nonneg)
  rw [← counts]
  obtain ⟨u', rest, ran, sends⟩ := dispatch.sends accepted counted
  have repeats : length ≤ responseLength fuel point →
      (RepeatsItself fuel stp point ↔
        (List.range length).map
          (sentByte u₁.mem (responseAddress fuel point)) =
            readBytes u₁.mem (responseAddress fuel point) length) := by
    intro within
    have armed : ∀ i, 64 ≤ i →
        (i < length ↔ i < requestedLength fuel stp point) := by
      intro i later
      rw [← armedCount_long (by omega) later, counted]
      omega
    rw [sent_eq_iff, RepeatsItself]
    refine forall₂_congr fun i later => ?_
    rw [← armed i later]
    refine forall_congr' fun below => ?_
    rw [(responseLength_long (by omega) accepted).2]
  constructor
  · rintro ⟨u'', rest', armed, ran', within, sent⟩
    rw [ran] at ran'
    cases ran'
    obtain ⟨events, logged, packets⟩ := sends length
    obtain ⟨events', logged', beginning⟩ := sent length
    rw [logged] at logged'
    obtain ⟨same, rfl⟩ := List.cons.inj (List.append_cancel_left logged')
    cases same
    have within : length ≤ responseLength fuel point := by omega
    refine ⟨by omega, (repeats within).mpr ?_⟩
    rw [packets, Nat.min_eq_left (by omega)] at beginning
    refine (List.prefix_of_prefix_length_le beginning
      (readBytes_of_le _ _ within) ?_).eq_of_length ?_ <;> simp [readBytes]
  · rintro ⟨within, due⟩
    rw [counted] at within
    have within : length ≤ responseLength fuel point := by omega
    refine ⟨u', rest, length, ran, by omega, fun count => ?_⟩
    obtain ⟨events, logged, packets⟩ := sends count
    refine ⟨events, logged, ?_⟩
    have bytes := (repeats within).mp due
    have prior : (List.range (min length (64 * (count + 1)))).map
        (sentByte u₁.mem (responseAddress fuel point)) <+:
          (List.range length).map
            (sentByte u₁.mem (responseAddress fuel point)) := by
      obtain ⟨more, total⟩ := Nat.exists_eq_add_of_le
        (Nat.min_le_left length (64 * (count + 1)))
      nth_rewrite 2 [total]
      rw [List.range_add, List.map_append]
      exact List.prefix_append _ _
    rw [packets]
    exact prior.trans (bytes ▸ readBytes_of_le _ _ within)

end Accepted

/-- The class request `0xFF` for 64 bytes sends the buffer. -/
theorem accepted_armsItsResponse_fails :
    ∃ (fuel : Nat) (u point u₁ : UsbDevice) (usp : UsbSetupPacket),
      u = .atStart 0x40001000 0x1000 (fun _ => 0) ∧
      Ep0Dispatch u (some usp) [] point ∧
      tnUsbEp0Setup fuel point = some (u₁, true) ∧
      ¬ArmsItsResponse fuel u (some usp) [] point u₁ := by
  refine ⟨0, _, _, _, ⟨0xA1, 0xFF, 0, 0, 64⟩, rfl, .setup (.inr rfl), rfl, ?_⟩
  rintro ⟨u', rest, armed, ran, within, sent⟩
  cases ran
  obtain ⟨events, log, -⟩ := sent 0
  have same : some (UsbEvent.dataIn 64 0x40001000) =
      some (.dataIn armed 0x40001000) := congrArg (fun events => events[2]?) log
  cases same
  exact absurd within (by decide)

theorem accepted_armsItsResponse_device :
    ∃ point u₁, ArmsItsResponse 20
      (.atStart 0x40001000 0x1000 (imageAt 0x1000 (tableBytes abDescriptors)))
      (some ⟨0x80, getDescriptor, 0x0100, 0, 64⟩) [] point u₁ := by
  have table := laid_imageAt 0x1000 (tableBytes abDescriptors)
    (by decide +kernel)
  have selects : selectEntry 0 (tableEntries abDescriptors) 1 0 =
      some (0, deviceDescriptor.bytes) := rfl
  have accepted := getDescriptor_accepted (u := UsbDevice.beginTransfer
    (.atStart 0x40001000 0x1000 (imageAt 0x1000 (tableBytes abDescriptors)))
    ⟨0x80, getDescriptor, 0x0100, 0, 64⟩) table ⟨rfl, rfl⟩ selects
    (show (tableEntries abDescriptors).length < 20 by decide)
  refine ⟨_, _, (accepted_armsItsResponse (.setup (.inr rfl)) accepted).mpr
    ⟨fun miscounts => absurd miscounts.1 (by decide), fun i later below => ?_⟩⟩
  have short : i < 64 := Nat.lt_of_lt_of_le below (Nat.min_le_right _ _)
  omega

/-! ## From the host -/

/-- The bytes of a word, as they are stored. -/
def wordBytes (word : Word) : List Byte :=
  [word.extractLsb' 0 8, word.extractLsb' 8 8, word.extractLsb' 16 8,
    word.extractLsb' 24 8]

/-- What the host sent. -/
def UsbPacket.bytes (packet : UsbPacket) : List Byte :=
  (packet.words.flatMap wordBytes).take packet.len

theorem storeWord_outside {mem : Word → Byte} {address word a : Word}
    (outside : ∀ j < 4, a ≠ address + BitVec.ofNat 32 j) :
    storeWord mem address word a = mem a := by
  have zero : a ≠ address := by simpa using outside 0 (by decide)
  have one : a ≠ address + 1 := outside 1 (by decide)
  have two : a ≠ address + 2 := outside 2 (by decide)
  have three : a ≠ address + 3 := outside 3 (by decide)
  simp only [storeWord]
  rw [Function.update_of_ne three, Function.update_of_ne two,
    Function.update_of_ne one, Function.update_of_ne zero]

theorem storeWords_outside {mem : Word → Byte} {address a : Word}
    {words : List Word}
    (outside : ∀ j < 4 * words.length, a ≠ address + BitVec.ofNat 32 j) :
    storeWords mem address words a = mem a := by
  induction words generalizing mem address with
  | nil => rfl
  | cons word words ih =>
      rw [storeWords, ih, storeWord_outside]
      · intro j below
        exact outside j (by rw [List.length_cons]; omega)
      · intro j below
        rw [show address + 4 = address + BitVec.ofNat 32 4 from rfl,
          address_add]
        exact outside (4 + j) (by rw [List.length_cons]; omega)

theorem laid_storeWord (mem : Word → Byte) (address word : Word) :
    Laid (storeWord mem address word) address (wordBytes word) := by
  refine ⟨?_, ?_, ?_, ?_, trivial⟩
  all_goals simp only [storeWord, Function.update_apply]
  all_goals grind

theorem laid_storeWords (mem : Word → Byte) (address : Word)
    (words : List Word) (fits : 4 * words.length ≤ 2 ^ 32) :
    Laid (storeWords mem address words) address
      (words.flatMap wordBytes) := by
  induction words generalizing mem address with
  | nil => trivial
  | cons word words ih =>
      rw [List.length_cons] at fits
      rw [List.flatMap_cons, laid_append, storeWords]
      refine ⟨(laid_storeWord mem address word).congr fun i below => ?_,
        ih _ _ (by omega)⟩
      apply storeWords_outside
      intro j inside
      change i < 4 at below
      bv_omega

/-- The event is no call of `tn_usb_EP0_SETUP` and takes no packet. -/
def UsbEvent.Quiet (event : UsbEvent) : Prop :=
  (∀ buffer, event ≠ .setup buffer) ∧ ∀ packet, event ≠ .epRead packet

theorem UsbEvent.OfRequest.quiet {pdata : Word} {event : UsbEvent}
    (request : event.OfRequest pdata) : event.Quiet := by
  cases request <;> simp [UsbEvent.Quiet]

/-- Each interrupt for one of the packets takes that packet and no other. -/
inductive ReadsOneByOne (fuel : Nat) (rest : List UsbPacket) :
    UsbDevice → List UsbPacket → UsbDevice → Prop where
  | done {u : UsbDevice} : ReadsOneByOne fuel rest u [] u
  | next {u u' u'' : UsbDevice} {packet : UsbPacket} {packets : List UsbPacket}
      (ran : tnUsbEp0RxIntFunc fuel u none (packet :: (packets ++ rest)) =
        some (u', packets ++ rest))
      (later : ReadsOneByOne fuel rest u' packets u'') :
      ReadsOneByOne fuel rest u (packet :: packets) u''

/-- `tn_usb_EP0_SETUP` was called once, after the last packet, when the bytes
of the packets were at the start of the buffer. -/
def DispatchedOnce (u u' : UsbDevice) (packets : List UsbPacket) : Prop :=
  ∃ before buffer after, u'.log = u.log ++ before ++ .setup buffer :: after ∧
    (∀ buffer', .setup buffer' ∉ before) ∧
    (∀ event ∈ after, event.Quiet) ∧
    packets.flatMap UsbPacket.bytes <+: buffer

/-- A transfer: with a data stage from the host and its packets, or with one to
the host, the IN interrupts meanwhile, and the status packet. -/
inductive ControlTransfer where
  | output (usp : UsbSetupPacket) (packets : List UsbPacket)
  | input (usp : UsbSetupPacket) (interrupts : Nat) (status : UsbPacket)

namespace ControlTransfer

def Valid : ControlTransfer → Prop
  | output usp packets => usp.isIn = false ∧ 0 < usp.wLength.toNat ∧
      usp.wLength.toNat ≤ 64 ∧ (∀ packet ∈ packets, 0 < packet.len) ∧
      (packets.map (·.len)).sum = usp.wLength.toNat
  | input usp _ status => usp.isIn = true ∧ usp.wLength ≠ 0 ∧ status.len = 0

/-- The claim about one transfer, `rest` being what the host sends later. -/
def ConsumesOnce (u : UsbDevice) (rest : List UsbPacket) :
    ControlTransfer → Prop
  | output usp packets => ∃ fuel u₀ u',
      tnUsbEp0RxIntFunc fuel u (some usp) (packets ++ rest) =
        some (u₀, packets ++ rest) ∧
      ReadsOneByOne fuel rest u₀ packets u' ∧ DispatchedOnce u₀ u' packets
  | input usp interrupts status => ∃ fuel u₀ u',
      tnUsbEp0RxIntFunc fuel u (some usp) (status :: rest) =
        some (u₀, status :: rest) ∧
      tnUsbEp0RxIntFunc fuel (tnUsbEp0TxIntFunc^[interrupts] u₀) none
        (status :: rest) = some (u', rest)

/-- The data comes from the host, in one packet. -/
def SinglePacket : ControlTransfer → Prop
  | output _ packets => packets.length = 1
  | input _ _ _ => False

end ControlTransfer

/-- A packet of 32 bytes. -/
def halfPacket : UsbPacket :=
  ⟨32, List.replicate 8 0, by decide, by decide⟩

/-- A packet that does not complete the data stage is left where it is, or a
second packet is taken with it. -/
theorem packet_notConsumedAlone {fuel : Nat} {u u' : UsbDevice}
    {packet : UsbPacket} {rest : List UsbPacket}
    (notLast : 0 < u.nbytes → u.nbytes ≠ packet.len) :
    tnUsbEp0RxIntFunc fuel u none (packet :: rest) ≠ some (u', rest) := by
  intro ran
  rw [tnUsbEp0RxIntFunc] at ran
  by_cases expecting : 0 < u.nbytes
  · rw [ep0RxData_eq _ _ _ _ expecting, if_neg (notLast expecting)] at ran
    cases rest with
    | nil => cases ran
    | cons dummy rest =>
        have left : rest = dummy :: rest :=
          congrArg Prod.snd (Option.some.inj ran)
        exact List.cons_ne_self dummy rest left.symm
  · rw [ep0RxData, if_neg expecting] at ran
    have left : packet :: rest = rest :=
      congrArg Prod.snd (Option.some.inj ran)
    exact List.cons_ne_self packet rest left

theorem tnUsbEp0Setup_log {fuel : Nat} {u u₁ : UsbDevice} {rc : Bool}
    (answer : tnUsbEp0Setup fuel u = some (u₁, rc)) :
    ∃ events, u₁.log = u.log ++
        .setup (readBytes u.mem u.pbuf usbMaxPacket0) :: events ∧
      ∀ event ∈ events, event.Quiet := by
  obtain ⟨u₂, rfl, answers⟩ := tnUsbEp0Setup_answers answer
  obtain ⟨events, logged, requested⟩ := answers.handles.log
  refine ⟨events ++ [.answer rc], ?_, ?_⟩
  · simp [UsbDevice.note, logged]
  · intro event member
    rcases List.mem_append.mp member with early | late
    · exact (requested event early).quiet
    · rw [List.mem_singleton.mp late]
      simp [UsbEvent.Quiet]

theorem UsbPacket.words_le (packet : UsbPacket) :
    4 * packet.words.length ≤ 64 := by
  have bounded := packet.bounded
  have whole := packet.whole
  rw [usbMaxPacket0] at bounded
  omega

/-- A packet that is stored in the buffer is at its start. -/
theorem UsbPacket.bytes_prefix (packet : UsbPacket) (mem : Word → Byte)
    (pbuf : Word) :
    packet.bytes <+: readBytes (storeWords mem pbuf packet.words) pbuf
      usbMaxPacket0 := by
  have small := packet.words_le
  have laid := laid_storeWords mem pbuf packet.words (by omega)
  have length : (packet.words.flatMap wordBytes).length =
      4 * packet.words.length := by
    simp [List.length_flatMap, wordBytes]
    omega
  apply (List.take_prefix _ _).trans
  rw [← laid.read, length]
  exact readBytes_of_le _ _ small

/-- The packet that completes the data stage is consumed alone, and the request
is dispatched with it in the buffer. -/
theorem single_consumed {fuel : Nat} {u u₁ : UsbDevice} {rc : Bool}
    {packet : UsbPacket} (rest : List UsbPacket)
    (atStart : u.pdata = u.pbuf) (expecting : 0 < u.nbytes)
    (last : u.nbytes = packet.len)
    (answer : tnUsbEp0Setup fuel (u.takePacket packet).rewind =
      some (u₁, rc)) :
    ∃ u', tnUsbEp0RxIntFunc fuel u none (packet :: rest) = some (u', rest) ∧
      DispatchedOnce u u' [packet] := by
  have dispatch : Ep0Dispatch u none (packet :: rest)
      (u.takePacket packet).rewind := .data expecting last
  refine ⟨_, dispatch.runs answer,
    [.epRead packet, .store u.pdata (4 * packet.words.length)],
    readBytes (storeWords u.mem u.pdata packet.words) u.pbuf usbMaxPacket0, ?_⟩
  obtain ⟨events, logged, quiet⟩ := tnUsbEp0Setup_log answer
  have inBuffer : [packet].flatMap UsbPacket.bytes <+:
      readBytes (storeWords u.mem u.pdata packet.words) u.pbuf
        usbMaxPacket0 := by
    rw [List.flatMap_singleton, atStart]
    exact packet.bytes_prefix u.mem u.pbuf
  cases rc with
  | false =>
      refine ⟨events ++ [.stallEp 0 true], ?_, by simp, ?_, inBuffer⟩
      · rw [if_pos rfl, UsbDevice.note, logged]
        simp [UsbDevice.rewind, UsbDevice.takePacket]
      · intro event member
        rcases List.mem_append.mp member with early | late
        · exact quiet event early
        · rw [List.mem_singleton.mp late]
          simp [UsbEvent.Quiet]
  | true =>
      refine ⟨events ++ [.dataIn u₁.nbytes u₁.pdata,
        .ep0Write (min u₁.nbytes 64)
          (readBytes u₁.mem u₁.pdata (min u₁.nbytes 64).toNat)], ?_, by simp,
        ?_, inBuffer⟩
      · rw [if_neg (by decide), UsbDevice.clipOn, tnUsbStDatain_eq, logged]
        simp [UsbDevice.rewind, UsbDevice.takePacket]
      · intro event member
        rcases List.mem_append.mp member with early | late
        · exact quiet event early
        · simp only [List.mem_cons, List.not_mem_nil, or_false] at late
          rcases late with rfl | rfl <;> simp [UsbEvent.Quiet]

/-- With a table in memory the call of `tn_usb_EP0_SETUP` returns. -/
theorem tnUsbEp0Setup_ends {u : UsbDevice} {blocks : List UsbBlock}
    (table : Laid u.mem u.descriptors (tableBytes blocks)) :
    ∃ fuel u₁ rc, tnUsbEp0Setup fuel u = some (u₁, rc) := by
  obtain ⟨fuel, ⟨u₂, rc⟩, answered⟩ := dispatchRequest_ends
    (u := u.note (.setup (readBytes u.mem u.pbuf usbMaxPacket0))) table
  refine ⟨fuel, u₂.note (.answer rc), rc, ?_⟩
  rw [tnUsbEp0Setup]
  change (dispatchRequest _ _).bind _ = _
  rw [answered]
  rfl

/-- The table stays in memory when a packet is stored in the buffer. -/
theorem Laid.storeWords {mem : Word → Byte} {address pbuf : Word}
    {bytes : List Byte} {packet : UsbPacket} (laid : Laid mem address bytes)
    (apart : ∀ i < bytes.length,
      64 ≤ (address + BitVec.ofNat 32 i - pbuf).toNat) :
    Laid (UsbBulk.storeWords mem pbuf packet.words) address bytes := by
  apply laid.congr
  intro i below
  apply storeWords_outside
  intro j inside equal
  have small := packet.words_le
  have far := apart i below
  rw [equal, BitVec.add_comm, BitVec.add_sub_cancel, BitVec.toNat_ofNat] at far
  omega

namespace ControlTransfer

/-- A control transfer is consumed as it should exactly when its data comes from
the host in one packet. -/
theorem consumesOnce_iff {u : UsbDevice} {blocks : List UsbBlock}
    (rest : List UsbPacket) {transfer : ControlTransfer}
    (table : Laid u.mem u.descriptors (tableBytes blocks))
    (apart : ∀ i < (tableBytes blocks).length,
      64 ≤ (u.descriptors + BitVec.ofNat 32 i - u.pbuf).toNat)
    (valid : transfer.Valid) :
    transfer.ConsumesOnce u rest ↔ transfer.SinglePacket := by
  cases transfer with
  | input usp interrupts status =>
      simp only [SinglePacket, iff_false]
      rintro ⟨fuel, u₀, u', -, ran⟩
      apply packet_notConsumedAlone _ ran
      have empty := valid.2.2
      omega
  | output usp packets =>
      obtain ⟨out, positive, small, full, total⟩ := valid
      have begins : ∀ fuel, tnUsbEp0RxIntFunc fuel u (some usp)
          (packets ++ rest) = some (u.beginTransfer usp, packets ++ rest) := by
        intro fuel
        have later : ¬(usp.wLength = 0 ∨ usp.isIn = true) := by
          rintro (empty | inward)
          · rw [empty] at positive
            exact absurd positive (by decide)
          · rw [out] at inward
            cases inward
        rw [tnUsbEp0RxIntFunc]
        change (ep0RxSetup fuel u usp).bind _ = _
        rw [ep0RxSetup_eq, if_neg later]
        rfl
      constructor
      · rintro ⟨fuel, u₀, u', ran, reads, -⟩
        rw [begins fuel] at ran
        cases ran
        cases reads with
        | done =>
            simp only [List.map_nil, List.sum_nil] at total
            omega
        | @next _ u₁ _ packet packets first later =>
            cases packets with
            | nil => rfl
            | cons second packets =>
                have more := full second (.tail _ (.head _))
                simp only [List.map_cons, List.sum_cons] at total
                apply absurd first
                apply packet_notConsumedAlone
                intro _ last
                have length : (usp.wLength.toNat : Int) = packet.len := last
                omega
      · intro single
        obtain ⟨packet, rfl⟩ := List.length_eq_one_iff.mp single
        have last : usp.wLength.toNat = packet.len := by simpa using total.symm
        obtain ⟨fuel, u₁, rc, answer⟩ := tnUsbEp0Setup_ends
          (u := ((u.beginTransfer usp).takePacket packet).rewind)
          (table.storeWords apart)
        obtain ⟨u', ran, dispatched⟩ := single_consumed rest
          (u := u.beginTransfer usp) rfl (Int.natCast_pos.mpr positive)
          (congrArg Int.ofNat last) answer
        exact ⟨fuel, _, u', begins fuel, .next ran .done, dispatched⟩

/-- Two packets of 32 bytes: the second one is thrown away. -/
theorem consumesOnce_fails :
    ∃ (u : UsbDevice) (transfer : ControlTransfer),
      u = .atStart 0x40001000 0x1000
        (imageAt 0x1000 (tableBytes abDescriptors)) ∧
      transfer.Valid ∧ ¬transfer.ConsumesOnce u [] := by
  refine ⟨_, .output ⟨0x21, 0xFF, 0, 0, 64⟩ [halfPacket, halfPacket], rfl,
    by simp [Valid, halfPacket]; decide, ?_⟩
  rintro ⟨fuel, u₀, u', ran, reads, -⟩
  cases ran
  cases reads with
  | next first later =>
      exact packet_notConsumedAlone (fun _ => by decide) first

/-- One packet of 64 bytes. -/
theorem consumesOnce_iff_single :
    (output ⟨0x21, 0xFF, 0, 0, 64⟩ [fullPacket]).ConsumesOnce
      (.atStart 0x40001000 0x1000
        (imageAt 0x1000 (tableBytes abDescriptors))) [] :=
  (consumesOnce_iff [] (laid_imageAt 0x1000 (tableBytes abDescriptors)
    (by decide +kernel)) (by decide +kernel)
    (by simp [Valid, fullPacket]; decide)).mpr rfl

end ControlTransfer

end UsbBulk
