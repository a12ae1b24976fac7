import UsbBulk.Usb.Requests

/-!
# Control transfers

What one interrupt of EP0 does, case by case, and from it what a rejected and an
accepted request leave to transmit, and where the packets of the host are stored.
-/

namespace UsbBulk

/-! ## One interrupt -/

namespace UsbDevice

/-- A SETUP packet has arrived. -/
def beginTransfer (u : UsbDevice) (usp : UsbSetupPacket) : UsbDevice :=
  { u with setup := usp, pdata := u.pbuf, nbytes := (usp.wLength.toNat : Int) }

/-- A packet is stored at `pdata`. -/
def takePacket (u : UsbDevice) (packet : UsbPacket) : UsbDevice :=
  { u with
    nbytes := u.nbytes - (packet.len : Int)
    pdata := u.pdata + 4 * BitVec.ofNat 32 packet.len
    mem := storeWords u.mem u.pdata packet.words
    log := u.log ++ [.epRead packet, .store u.pdata (4 * packet.words.length)] }

/-- The buffer is complete. -/
def rewind (u : UsbDevice) : UsbDevice := { u with pdata := u.pbuf }

/-- No more than the host asked for. -/
def clip (u : UsbDevice) (wLength : BitVec 16) : UsbDevice :=
  { u with nbytes := min u.nbytes wLength.toNat }

/-- What is armed is clipped on a SETUP packet only. -/
def clipOn (u : UsbDevice) : Option UsbSetupPacket → UsbDevice
  | some usp => u.clip usp.wLength
  | none => u

end UsbDevice

/-- The state in which `tn_usb_EP0_rx_int_func` calls `tn_usb_EP0_SETUP`: on a SETUP
packet without a data stage from the host, and on the packet that completes one. -/
inductive Ep0Dispatch (u : UsbDevice) :
    Option UsbSetupPacket → List UsbPacket → UsbDevice → Prop where
  | setup {usp : UsbSetupPacket} {incoming : List UsbPacket}
      (now : usp.wLength = 0 ∨ usp.isIn = true) :
      Ep0Dispatch u (some usp) incoming (u.beginTransfer usp)
  | data {packet : UsbPacket} {incoming : List UsbPacket}
      (expecting : 0 < u.nbytes) (last : u.nbytes = packet.len) :
      Ep0Dispatch u none (packet :: incoming) (u.takePacket packet).rewind

/-- What `tn_usb_EP0_rx_int_func` does, case by case. -/
inductive Ep0Runs (fuel : Nat) (u : UsbDevice) :
    Option UsbSetupPacket → List UsbPacket → UsbDevice → List UsbPacket →
      Prop where
  | expect {usp : UsbSetupPacket} {incoming : List UsbPacket}
      (nonzero : usp.wLength ≠ 0) (out : usp.isIn = false) :
      Ep0Runs fuel u (some usp) incoming (u.beginTransfer usp) incoming
  | rejected {stp : Option UsbSetupPacket} {incoming : List UsbPacket}
      {point u₁ : UsbDevice} (dispatch : Ep0Dispatch u stp incoming point)
      (answer : tnUsbEp0Setup fuel point = some (u₁, false)) :
      Ep0Runs fuel u stp incoming (u₁.note (.stallEp 0 true))
        (if stp.isSome then incoming else incoming.tail)
  | setupAccepted {usp : UsbSetupPacket} {incoming : List UsbPacket}
      {u₁ : UsbDevice} (now : usp.wLength = 0 ∨ usp.isIn = true)
      (answer : tnUsbEp0Setup fuel (u.beginTransfer usp) = some (u₁, true)) :
      Ep0Runs fuel u (some usp) incoming (tnUsbStDatain (u₁.clip usp.wLength))
        incoming
  | dataAccepted {packet : UsbPacket} {incoming : List UsbPacket}
      {u₁ : UsbDevice} (expecting : 0 < u.nbytes) (last : u.nbytes = packet.len)
      (answer : tnUsbEp0Setup fuel (u.takePacket packet).rewind =
        some (u₁, true)) :
      Ep0Runs fuel u none (packet :: incoming) (tnUsbStDatain u₁) incoming
  | idle {incoming : List UsbPacket} (unexpected : u.nbytes ≤ 0) :
      Ep0Runs fuel u none incoming u incoming
  | more {packet dummy : UsbPacket} {incoming : List UsbPacket}
      (expecting : 0 < u.nbytes) (notLast : u.nbytes ≠ packet.len) :
      Ep0Runs fuel u none (packet :: dummy :: incoming)
        ((u.takePacket packet).note (.epRead dummy)) incoming

theorem ep0RxSetup_eq (fuel : Nat) (u : UsbDevice) (usp : UsbSetupPacket) :
    ep0RxSetup fuel u usp =
      if usp.wLength = 0 ∨ usp.isIn = true then
        (tnUsbEp0Setup fuel (u.beginTransfer usp)).map fun answer =>
          if answer.2 = false then answer.1.note (.stallEp 0 true)
          else tnUsbStDatain (answer.1.clip usp.wLength)
      else some (u.beginTransfer usp) := by
  rw [ep0RxSetup]
  split
  · change (tnUsbEp0Setup fuel (u.beginTransfer usp)).bind _ = _
    cases tnUsbEp0Setup fuel (u.beginTransfer usp) with
    | none => rfl
    | some answer =>
        obtain ⟨u₁, rc⟩ := answer
        cases rc with
        | false => rfl
        | true =>
            simp only [Option.bind_some, Option.map_some, UsbDevice.clip,
              Bool.true_eq_false, if_false]
            congr 2
            split
            · rw [Int.min_eq_right (by omega)]
            · rw [Int.min_eq_left (by omega)]
  · rfl

theorem ep0RxData_eq (fuel : Nat) (u : UsbDevice) (packet : UsbPacket)
    (incoming : List UsbPacket) (expecting : 0 < u.nbytes) :
    ep0RxData fuel u (packet :: incoming) =
      if u.nbytes = packet.len then
        (tnUsbEp0Setup fuel (u.takePacket packet).rewind).map fun answer =>
          (if answer.2 = false then answer.1.note (.stallEp 0 true)
           else tnUsbStDatain answer.1, incoming)
      else match incoming with
        | [] => none
        | dummy :: incoming =>
            some ((u.takePacket packet).note (.epRead dummy), incoming) := by
  have taken : tnUsbEpRead u (some u.pdata) (packet :: incoming) =
      some ({ u with
        mem := storeWords u.mem u.pdata packet.words
        log := u.log ++ [.epRead packet,
          .store u.pdata (4 * packet.words.length)] },
        packet.len, incoming) := by
    simp [tnUsbEpRead, UsbDevice.note]
  rw [ep0RxData, if_pos expecting]
  change (tnUsbEpRead u (some u.pdata) (packet :: incoming)).bind _ = _
  rw [taken, Option.bind_some]
  by_cases last : u.nbytes = packet.len
  · rw [if_pos last]
    dsimp only
    rw [if_pos (by omega)]
    change (tnUsbEp0Setup fuel (u.takePacket packet).rewind).bind _ = _
    cases tnUsbEp0Setup fuel (u.takePacket packet).rewind with
    | none => rfl
    | some answer =>
        obtain ⟨u₁, rc⟩ := answer
        cases rc <;> rfl
  · rw [if_neg last]
    dsimp only
    rw [if_neg (by omega)]
    cases incoming <;> rfl

theorem tnUsbEp0RxIntFunc_runs {fuel : Nat} {u u' : UsbDevice}
    {stp : Option UsbSetupPacket} {incoming rest : List UsbPacket}
    (ran : tnUsbEp0RxIntFunc fuel u stp incoming = some (u', rest)) :
    Ep0Runs fuel u stp incoming u' rest := by
  cases stp with
  | some usp =>
      obtain ⟨u₁, handled, finished⟩ := Option.bind_eq_some_iff.mp ran
      cases finished
      rw [ep0RxSetup_eq] at handled
      split at handled
      case isTrue now =>
          obtain ⟨⟨u₁, rc⟩, answer, rfl⟩ := Option.map_eq_some_iff.mp handled
          cases rc with
          | false => exact .rejected (.setup now) answer
          | true => exact .setupAccepted now answer
      case isFalse later =>
          cases handled
          simp only [not_or, Bool.not_eq_true] at later
          exact .expect later.1 later.2
  | none =>
      by_cases expecting : 0 < u.nbytes
      · cases incoming with
        | nil =>
            rw [tnUsbEp0RxIntFunc, ep0RxData, if_pos expecting] at ran
            cases ran
        | cons packet incoming =>
            rw [tnUsbEp0RxIntFunc, ep0RxData_eq _ _ _ _ expecting] at ran
            split at ran
            case isTrue last =>
                obtain ⟨⟨u₁, rc⟩, answer, finished⟩ :=
                  Option.map_eq_some_iff.mp ran
                cases finished
                cases rc with
                | false => exact .rejected (.data expecting last) answer
                | true => exact .dataAccepted expecting last answer
            case isFalse notLast =>
                cases incoming with
                | nil => cases ran
                | cons dummy incoming =>
                    cases ran
                    exact .more expecting notLast
      · rw [tnUsbEp0RxIntFunc, ep0RxData, if_neg expecting] at ran
        cases ran
        exact .idle (by omega)

/-! ## The call of `tn_usb_EP0_SETUP` -/

section Dispatch

variable {fuel : Nat} {u point u₁ u' : UsbDevice} {rc : Bool}
  {stp : Option UsbSetupPacket} {incoming rest : List UsbPacket}

theorem tnUsbEp0Setup_answers (answer : tnUsbEp0Setup fuel u = some (u₁, rc)) :
    ∃ u₂, u₁ = u₂.note (.answer rc) ∧
      Answers fuel (u.note (.setup (readBytes u.mem u.pbuf usbMaxPacket0))) u₂
        rc := by
  obtain ⟨⟨u₂, rc₂⟩, dispatched, finished⟩ := Option.bind_eq_some_iff.mp answer
  cases finished
  exact ⟨u₂, rfl, dispatchRequest_answers dispatched⟩

theorem tnUsbEp0Setup_setup (answer : tnUsbEp0Setup fuel u = some (u₁, rc)) :
    u₁.setup = u.setup ∧ u₁.pbuf = u.pbuf := by
  obtain ⟨u₂, rfl, answers⟩ := tnUsbEp0Setup_answers answer
  exact ⟨answers.handles.setup, answers.handles.pbuf⟩

/-- A rejected request keeps `nbytes`, or clears it when it is of the `OUT`
kind. -/
theorem tnUsbEp0Setup_rejects
    (answer : tnUsbEp0Setup fuel u = some (u₁, false)) :
    u₁.pdata = u.pdata ∧ (u₁.nbytes = u.nbytes ∨
      (u.setup.command = usbCmdStdDevOut ∧ u₁.nbytes = 0)) := by
  obtain ⟨u₂, rfl, answers⟩ := tnUsbEp0Setup_answers answer
  exact answers.refused rfl

/-- An accepted request leaves the count and the address of its answer. -/
theorem tnUsbEp0Setup_accepts (answer : tnUsbEp0Setup fuel u = some (u₁, true)) :
    u₁.nbytes = acceptedCount fuel u ∧ u₁.pdata = responseAddress fuel u ∧
      u.setup.Supported := by
  obtain ⟨u₂, rfl, answers⟩ := tnUsbEp0Setup_answers answer
  exact answers.accepted rfl

theorem Ep0Dispatch.runs (dispatch : Ep0Dispatch u stp incoming point)
    (answer : tnUsbEp0Setup fuel point = some (u₁, rc)) :
    tnUsbEp0RxIntFunc fuel u stp incoming = some
      (if rc = false then u₁.note (.stallEp 0 true)
       else tnUsbStDatain (u₁.clipOn stp),
       if stp.isSome then incoming else incoming.tail) := by
  cases dispatch with
  | setup now =>
      rw [tnUsbEp0RxIntFunc]
      change (ep0RxSetup fuel u _).bind _ = _
      rw [ep0RxSetup_eq, if_pos now, answer]
      rfl
  | data expecting last =>
      rw [tnUsbEp0RxIntFunc, ep0RxData_eq _ _ _ _ expecting, if_pos last,
        answer]
      rfl

end Dispatch

/-! ## A rejected request -/

/-- The bytes that an event sends, and those it stores. -/
def UsbEvent.traffic : UsbEvent → Nat
  | .ep0Write nbytes _ => nbytes.toNat
  | .store _ count => count
  | _ => 0

/-- The state is reached by interrupts of EP0 without a SETUP packet. -/
inductive BeforeNextSetup (u : UsbDevice) : UsbDevice → Prop where
  | now : BeforeNextSetup u u
  | input {u₁ : UsbDevice} (before : BeforeNextSetup u u₁) :
      BeforeNextSetup u (tnUsbEp0TxIntFunc u₁)
  | output {u₁ u₂ : UsbDevice} {fuel : Nat} {incoming rest : List UsbPacket}
      (before : BeforeNextSetup u u₁)
      (ran : tnUsbEp0RxIntFunc fuel u₁ none incoming = some (u₂, rest)) :
      BeforeNextSetup u u₂

/-- `nbytes` is `0`, and until the next SETUP packet no byte is sent or
stored. -/
structure NothingToTransmit (u : UsbDevice) : Prop where
  cleared : u.nbytes = 0
  silent : ∀ u', BeforeNextSetup u u' → ∃ events, u'.log = u.log ++ events ∧
    ∀ event ∈ events, event.traffic = 0

theorem NothingToTransmit.of_cleared {u : UsbDevice} (cleared : u.nbytes = 0) :
    NothingToTransmit u := by
  refine ⟨cleared, fun u' before => ?_⟩
  suffices u'.nbytes = 0 ∧ ∃ events, u'.log = u.log ++ events ∧
      ∀ event ∈ events, event.traffic = 0 from this.2
  induction before with
  | now => exact ⟨cleared, [], by simp, by simp⟩
  | @input u₁ before ih =>
      obtain ⟨zero, events, logged, quiet⟩ := ih
      refine ⟨?_, events ++ [.dataIn 0 u₁.pdata, .ep0Write 0 []], ?_, ?_⟩
      · simp [tnUsbEp0TxIntFunc, tnUsbStDatain, tnUsbEp0Write, UsbDevice.note,
          zero, usbMaxPacket0]
      · simp [tnUsbEp0TxIntFunc, tnUsbStDatain, tnUsbEp0Write, UsbDevice.note,
          zero, usbMaxPacket0, logged, readBytes]
      · intro event member
        rcases List.mem_append.mp member with early | late
        · exact quiet event early
        · simp only [List.mem_cons, List.not_mem_nil, or_false] at late
          rcases late with rfl | rfl <;> rfl
  | output before ran ih =>
      rw [tnUsbEp0RxIntFunc, ep0RxData, if_neg (by omega)] at ran
      cases ran
      exact ih

/-- The claim about one rejected request. -/
def RejectedCleanly (fuel : Nat) (u : UsbDevice) (stp : Option UsbSetupPacket)
    (incoming : List UsbPacket) : Prop :=
  ∃ u' rest, tnUsbEp0RxIntFunc fuel u stp incoming = some (u', rest) ∧
    u'.log.getLast? = some (.stallEp 0 true) ∧ NothingToTransmit u'

/-- A rejected request leaves nothing to transmit exactly when it was rejected
after its data stage or has none. -/
theorem rejected_nothingToTransmit {fuel : Nat} {u point u₁ : UsbDevice}
    {stp : Option UsbSetupPacket} {incoming : List UsbPacket}
    (dispatch : Ep0Dispatch u stp incoming point)
    (rejected : tnUsbEp0Setup fuel point = some (u₁, false)) :
    RejectedCleanly fuel u stp incoming ↔
      ∀ usp, stp = some usp → usp.wLength = 0 := by
  have ran := dispatch.runs rejected
  rw [if_pos rfl] at ran
  constructor
  · rintro ⟨u', rest, ran', -, nothing⟩ usp rfl
    rw [ran] at ran'
    cases ran'
    have cleared : u₁.nbytes = 0 := nothing.cleared
    cases dispatch with
    | setup now =>
        rcases (tnUsbEp0Setup_rejects rejected).2 with kept | ⟨out, -⟩
        · have length : ((usp.wLength.toNat : Nat) : Int) = 0 :=
            kept.symm.trans cleared
          exact BitVec.eq_of_toNat_eq (by simpa using length)
        · have notIn : usp.isIn = false :=
            UsbSetupPacket.notIn_of_command (.inl out)
          rcases now with empty | inward
          · exact empty
          · rw [notIn] at inward
            cases inward
  · intro empty
    refine ⟨_, _, ran, by simp [UsbDevice.note], .of_cleared ?_⟩
    change u₁.nbytes = 0
    rcases (tnUsbEp0Setup_rejects rejected).2 with kept | ⟨-, cleared⟩
    · rw [kept]
      cases dispatch with
      | setup now => simp [UsbDevice.beginTransfer, empty _ rfl]
      | data expecting last =>
          simp [UsbDevice.takePacket, UsbDevice.rewind, last]
    · exact cleared

/-- `GET_INTERFACE` for one byte, on a device that was just started. -/
theorem rejected_nothingToTransmit_fails :
    ∃ (fuel : Nat) (u point u₁ : UsbDevice) (usp : UsbSetupPacket),
      u = .atStart 0x40001000 0x1000 (fun _ => 0) ∧
      Ep0Dispatch u (some usp) [] point ∧
      tnUsbEp0Setup fuel point = some (u₁, false) ∧
      ¬RejectedCleanly fuel u (some usp) [] := by
  refine ⟨0, _, _, _, ⟨0x81, getInterface, 0, 0, 1⟩, rfl, .setup (.inr rfl),
    rfl, ?_⟩
  rintro ⟨u', rest, ran, -, nothing⟩
  cases ran
  exact absurd nothing.cleared (by decide)

/-- `SET_INTERFACE` has no data stage. -/
theorem rejected_nothingToTransmit_setInterface :
    RejectedCleanly 0 (.atStart 0x40001000 0x1000 fun _ => 0)
      (some ⟨0x01, setInterface, 0, 0, 0⟩) [] :=
  (rejected_nothingToTransmit (.setup (.inl rfl)) rfl).mpr fun _ same => by
    cases same
    rfl

/-! ## An accepted request -/

/-- `nbytes` just before `tn_usb_st_DATAIN`. -/
def armedCount (fuel : Nat) (stp : Option UsbSetupPacket) (point : UsbDevice) :
    Int :=
  match stp with
  | some usp => min (acceptedCount fuel point) usp.wLength.toNat
  | none => acceptedCount fuel point

theorem readBytes_of_le (mem : Word → Byte) (address : Word) {m n : Nat}
    (shorter : m ≤ n) : readBytes mem address m <+: readBytes mem address n := by
  obtain ⟨k, rfl⟩ := Nat.exists_eq_add_of_le shorter
  rw [readBytes, readBytes, List.range_add, List.map_append]
  exact List.prefix_append _ _

/-- A packet of at most 64 bytes is sent, and the address moves four bytes for
each of them. -/
theorem tnUsbStDatain_eq (u : UsbDevice) :
    tnUsbStDatain u = { u with
      nbytes := u.nbytes - min u.nbytes 64
      pdata := u.pdata + 4 * BitVec.ofInt 32 (min u.nbytes 64)
      log := u.log ++ [.dataIn u.nbytes u.pdata,
        .ep0Write (min u.nbytes 64)
          (readBytes u.mem u.pdata (min u.nbytes 64).toNat)] } := by
  rw [tnUsbStDatain]
  by_cases long : u.nbytes > 64
  · rw [Int.min_eq_right (by omega)]
    simp [UsbDevice.note, tnUsbEp0Write, usbMaxPacket0, long]
  · rw [Int.min_eq_left (by omega)]
    simp [UsbDevice.note, tnUsbEp0Write, usbMaxPacket0, long]

/-- The class requests whose count is not that of their answer: `0xFF` asking for
data, which has no answer, and `0xFE` with data from the host. -/
def UsbDevice.Miscounts (u : UsbDevice) : Option UsbSetupPacket → Prop
  | some usp => usp.command = usbCmdClassIn ∧ usp.bRequest = 0xFF ∧
      usp.wLength ≠ 0
  | none => u.setup.command = usbCmdClassOut ∧ u.setup.bRequest = 0xFE

private theorem armed_setup {fuel : Nat} {u : UsbDevice} {usp : UsbSetupPacket}
    (now : usp.wLength = 0 ∨ usp.isIn = true) (supported : usp.Supported) :
    armedCount fuel (some usp) (u.beginTransfer usp) ≤
        responseLength fuel (u.beginTransfer usp) ↔
      ¬u.Miscounts (some usp) := by
  rw [armedCount, UsbDevice.Miscounts]
  by_cases empty : usp.wLength = 0
  · simp only [empty, ne_eq, not_true_eq_false, and_false, not_false_eq_true,
      iff_true]
    exact Int.le_trans (Int.min_le_right _ _) (Int.natCast_nonneg _)
  · have inward : usp.isIn = true := now.resolve_left empty
    have length : usp.wLength.toNat ≠ 0 :=
      fun zero => empty (BitVec.eq_of_toNat_eq zero)
    rcases supported with out | std | ⟨ofClass | out, request⟩
    · rw [UsbSetupPacket.notIn_of_command (.inl out)] at inward
      cases inward
    · have count : acceptedCount fuel (u.beginTransfer usp) =
          responseLength fuel (u.beginTransfer usp) := if_pos std
      have notClass : usp.command ≠ usbCmdClassIn :=
        ne_of_eq_of_ne std (by decide)
      simp only [count, notClass, false_and, not_false_eq_true, iff_true]
      exact Int.min_le_left _ _
    · have notStd : (u.beginTransfer usp).setup.command ≠ usbCmdStdDevIn :=
        ne_of_eq_of_ne ofClass (by decide)
      have notOut : (u.beginTransfer usp).setup.command ≠ usbCmdStdDevOut :=
        ne_of_eq_of_ne ofClass (by decide)
      rw [acceptedCount, responseLength, if_neg notStd, if_neg notStd]
      rcases request with luns | reset
      · rw [if_pos ⟨notOut, luns⟩, if_pos ⟨ofClass, luns⟩]
        simp only [luns, show ¬(0xFE : Byte) = 0xFF by decide, false_and,
          and_false, not_false_eq_true, iff_true]
        exact Int.min_le_left _ _
      · have notLuns : (u.beginTransfer usp).setup.bRequest ≠ 0xFE :=
          ne_of_eq_of_ne reset (by decide)
        rw [if_neg fun both => notLuns both.2,
          if_neg fun both => notLuns both.2]
        simp only [ofClass, reset, empty, ne_eq, not_false_eq_true, and_self,
          not_true_eq_false, iff_false, UsbDevice.beginTransfer]
        omega
    · rw [UsbSetupPacket.notIn_of_command (.inr out)] at inward
      cases inward

private theorem armed_data {fuel : Nat} {u point : UsbDevice}
    (setup : point.setup = u.setup) (done : point.nbytes = 0)
    (supported : point.setup.Supported) :
    armedCount fuel none point ≤ responseLength fuel point ↔
      ¬u.Miscounts none := by
  rw [armedCount, UsbDevice.Miscounts, ← setup]
  rcases supported with out | std | ⟨ofClass, request⟩
  · have notStd : point.setup.command ≠ usbCmdStdDevIn :=
      ne_of_eq_of_ne out (by decide)
    have notClass : point.setup.command ≠ usbCmdClassOut :=
      ne_of_eq_of_ne out (by decide)
    rw [acceptedCount, if_neg notStd, if_neg fun both => both.1 out, done]
    simp only [notClass, false_and, not_false_eq_true, iff_true]
    omega
  · have notClass : point.setup.command ≠ usbCmdClassOut :=
      ne_of_eq_of_ne std (by decide)
    rw [acceptedCount, if_pos std]
    simp only [notClass, false_and, not_false_eq_true, iff_true]
    omega
  · have notStd : point.setup.command ≠ usbCmdStdDevIn :=
      ofClass.elim (fun inward => ne_of_eq_of_ne inward (by decide))
        fun out => ne_of_eq_of_ne out (by decide)
    have notOut : point.setup.command ≠ usbCmdStdDevOut :=
      ofClass.elim (fun inward => ne_of_eq_of_ne inward (by decide))
        fun out => ne_of_eq_of_ne out (by decide)
    rw [acceptedCount, responseLength, if_neg notStd, if_neg notStd]
    rcases request with luns | reset
    · rw [if_pos ⟨notOut, luns⟩]
      rcases ofClass with inward | out
      · have notClass : point.setup.command ≠ usbCmdClassOut :=
          ne_of_eq_of_ne inward (by decide)
        rw [if_pos ⟨inward, luns⟩]
        simp only [notClass, false_and, not_false_eq_true, iff_true]
        omega
      · have notClass : point.setup.command ≠ usbCmdClassIn :=
          ne_of_eq_of_ne out (by decide)
        rw [if_neg fun both => notClass both.1]
        simp only [out, luns, and_self, not_true_eq_false, iff_false]
        omega
    · have notLuns : point.setup.bRequest ≠ 0xFE :=
        ne_of_eq_of_ne reset (by decide)
      rw [if_neg fun both => notLuns both.2, if_neg fun both => notLuns both.2,
        done]
      simp only [notLuns, and_false, not_false_eq_true, iff_true]
      omega

/-- What is armed is within the answer but for these requests. -/
theorem Ep0Dispatch.armedCount_le {fuel : Nat} {u point : UsbDevice}
    {stp : Option UsbSetupPacket} {incoming : List UsbPacket}
    (dispatch : Ep0Dispatch u stp incoming point)
    (supported : point.setup.Supported) :
    armedCount fuel stp point ≤ responseLength fuel point ↔
      ¬u.Miscounts stp := by
  cases dispatch with
  | setup now => exact armed_setup now supported
  | data expecting last =>
      apply armed_data rfl _ supported
      simp [UsbDevice.takePacket, UsbDevice.rewind, last]

theorem Ep0Dispatch.armedCount_nonneg {fuel : Nat} {u point : UsbDevice}
    {stp : Option UsbSetupPacket} {incoming : List UsbPacket}
    (dispatch : Ep0Dispatch u stp incoming point) :
    0 ≤ armedCount fuel stp point := by
  have accepts : 0 ≤ point.nbytes → 0 ≤ acceptedCount fuel point := by
    rw [acceptedCount]
    split_ifs <;> omega
  cases dispatch with
  | setup now =>
      have count := accepts (Int.natCast_nonneg _)
      simp only [armedCount]
      omega
  | data expecting last =>
      exact accepts (by simp [UsbDevice.takePacket, UsbDevice.rewind, last])

/-! ## Where packets are stored -/

/-- What happens at EP0. -/
inductive Ep0Interrupt where
  | setup (usp : UsbSetupPacket)
  | output (incoming : List UsbPacket)
  | input
  | reset

inductive Ep0Step (u : UsbDevice) : Ep0Interrupt → UsbDevice → Prop where
  | setup {fuel : Nat} {usp : UsbSetupPacket} {u' : UsbDevice}
      {incoming rest : List UsbPacket}
      (ran : tnUsbEp0RxIntFunc fuel u (some usp) incoming = some (u', rest)) :
      Ep0Step u (.setup usp) u'
  | output {fuel : Nat} {u' : UsbDevice} {incoming rest : List UsbPacket}
      (ran : tnUsbEp0RxIntFunc fuel u none incoming = some (u', rest)) :
      Ep0Step u (.output incoming) u'
  | input : Ep0Step u .input (tnUsbEp0TxIntFunc u)
  | reset : Ep0Step u .reset (tnUsbResetData u)

/-- The states that a started device reaches by interrupts that meet a
condition. -/
inductive Ep0Reached (allowed : UsbDevice → Ep0Interrupt → Prop)
    (pbuf descriptors : Word) (mem : Word → Byte) : UsbDevice → Prop where
  | start : Ep0Reached allowed pbuf descriptors mem
      (.atStart pbuf descriptors mem)
  | next {u u' : UsbDevice} {interrupt : Ep0Interrupt}
      (reached : Ep0Reached allowed pbuf descriptors mem u)
      (meets : allowed u interrupt) (step : Ep0Step u interrupt u') :
      Ep0Reached allowed pbuf descriptors mem u'

/-- The range lies in the EP0 buffer. -/
def InEp0Buf (pbuf address : Word) (count : Nat) : Prop :=
  ∀ i < count, (address + BitVec.ofNat 32 i - pbuf).toNat < usbMaxPacket0

/-- Every store so far went to the buffer, and `nbytes` is within `wLength`. -/
structure StaysInside (pbuf : Word) (u : UsbDevice) : Prop where
  stores : ∀ address count, .store address count ∈ u.log →
    InEp0Buf pbuf address count
  nonneg : 0 ≤ u.nbytes
  bounded : u.nbytes ≤ u.setup.wLength.toNat

/-- The request asks for a descriptor.  When it is accepted, `pdata` leaves the
buffer. -/
def UsbSetupPacket.AsksDescriptor (usp : UsbSetupPacket) : Prop :=
  usp.command = usbCmdStdDevIn ∧ usp.bRequest = getDescriptor

instance (usp : UsbSetupPacket) : Decidable usp.AsksDescriptor :=
  inferInstanceAs (Decidable (_ ∧ _))

/-- A packet with data that arrives while bytes are expected does not belong to a
request for a descriptor, has no more bytes than are expected, and still fits when
the address has moved four bytes for each byte of the stage so far. -/
def PacketFits (u : UsbDevice) : Ep0Interrupt → Prop
  | .output (packet :: _) => 0 < u.nbytes → packet.len ≠ 0 →
      ¬u.setup.AsksDescriptor ∧ (packet.len : Int) ≤ u.nbytes ∧
      4 * (u.setup.wLength.toNat - u.nbytes) + 4 * packet.words.length ≤
        usbMaxPacket0
  | _ => True

/-- The address has moved four bytes for each byte of the data stage. -/
structure BufferSound (pbuf : Word) (u : UsbDevice) : Prop
    extends StaysInside pbuf u where
  buffer : u.pbuf = pbuf
  moved : 0 < u.nbytes → ¬u.setup.AsksDescriptor →
    u.pdata = pbuf + 4 * BitVec.ofInt 32 (u.setup.wLength.toNat - u.nbytes)

theorem inEp0Buf_offset (pbuf : Word) {offset count : Nat}
    (room : offset + count ≤ usbMaxPacket0) :
    InEp0Buf pbuf (pbuf + BitVec.ofNat 32 offset) count := by
  intro i below
  have back : pbuf + BitVec.ofNat 32 offset + BitVec.ofNat 32 i - pbuf =
      BitVec.ofNat 32 (offset + i) := by
    rw [BitVec.ofNat_add]
    bv_omega
  rw [usbMaxPacket0] at room ⊢
  rw [back, BitVec.toNat_ofNat]
  omega

/-- The events of a request store inside the buffer when it starts there. -/
theorem UsbEvent.OfRequest.inside {pbuf address : Word} {count : Nat}
    (request : UsbEvent.OfRequest pbuf (.store address count)) :
    InEp0Buf pbuf address count := by
  cases request with
  | @store index small =>
      have offset : pbuf + 4 * BitVec.ofNat 32 index =
          pbuf + BitVec.ofNat 32 (4 * index) := by
        rw [BitVec.ofNat_mul]
        rfl
      rw [offset]
      exact inEp0Buf_offset pbuf (by rw [usbMaxPacket0]; omega)

/-- What the call of `tn_usb_EP0_SETUP` stores is inside the buffer. -/
theorem tnUsbEp0Setup_inside {fuel : Nat} {u u₁ : UsbDevice} {rc : Bool}
    {pbuf : Word} (answer : tnUsbEp0Setup fuel u = some (u₁, rc))
    (atStart : u.pdata = pbuf)
    (stores : ∀ address count, .store address count ∈ u.log →
      InEp0Buf pbuf address count) :
    ∀ address count, .store address count ∈ u₁.log →
      InEp0Buf pbuf address count := by
  obtain ⟨u₂, rfl, answers⟩ := tnUsbEp0Setup_answers answer
  obtain ⟨events, logged, requested⟩ := answers.handles.log
  intro address count member
  simp only [UsbDevice.note, logged, List.append_assoc, List.mem_append,
    List.mem_cons, reduceCtorEq, List.not_mem_nil, or_false, false_or]
    at member
  rcases member with before | during
  · exact stores address count before
  · have request := requested _ during
    rw [show (u.note _).pdata = pbuf from atStart] at request
    exact request.inside

theorem BufferSound.offset {pbuf : Word} {u : UsbDevice}
    (sound : BufferSound pbuf u) (expecting : 0 < u.nbytes)
    (notDescriptor : ¬u.setup.AsksDescriptor) :
    ∃ received : Nat, u.setup.wLength.toNat - u.nbytes = received ∧
      u.pdata = pbuf + BitVec.ofNat 32 (4 * received) := by
  have bounded := sound.bounded
  obtain ⟨received, equality⟩ :=
    Int.eq_ofNat_of_zero_le (Int.sub_nonneg_of_le bounded)
  refine ⟨received, equality, ?_⟩
  rw [sound.moved expecting notDescriptor, equality, BitVec.ofInt_natCast,
    BitVec.ofNat_mul]
  rfl

theorem BufferSound.takePacket {pbuf : Word} {u : UsbDevice}
    {packet : UsbPacket} {incoming : List UsbPacket}
    (sound : BufferSound pbuf u) (expecting : 0 < u.nbytes)
    (fits : PacketFits u (.output (packet :: incoming))) :
    ∀ address count, .store address count ∈ (u.takePacket packet).log →
      InEp0Buf pbuf address count := by
  intro address count member
  simp only [UsbDevice.takePacket, List.mem_append, List.mem_cons,
    reduceCtorEq, UsbEvent.store.injEq, List.not_mem_nil, or_false, false_or]
    at member
  rcases member with before | ⟨rfl, rfl⟩
  · exact sound.stores address count before
  · have whole := packet.whole
    by_cases empty : packet.len = 0
    · intro i below
      omega
    · obtain ⟨notDescriptor, -, room⟩ := fits expecting empty
      obtain ⟨received, same, offset⟩ := sound.offset expecting notDescriptor
      rw [offset]
      exact inEp0Buf_offset pbuf (by omega)

theorem acceptedCount_nonneg (fuel : Nat) {u : UsbDevice}
    (nonneg : 0 ≤ u.nbytes) : 0 ≤ acceptedCount fuel u := by
  rw [acceptedCount]
  split
  · exact Int.natCast_nonneg _
  · split
    · decide
    · exact nonneg

/-- The requests that are not for a descriptor have short answers. -/
theorem acceptedCount_short (fuel : Nat) {u : UsbDevice}
    (notDescriptor : ¬u.setup.AsksDescriptor) :
    acceptedCount fuel u ≤ 2 ∨ acceptedCount fuel u = u.nbytes := by
  rw [acceptedCount]
  split
  · next std =>
      left
      rw [responseLength, if_pos std]
      split
      · decide
      split
      · decide
      rw [if_neg fun descriptor => notDescriptor ⟨std, descriptor⟩]
      decide
  · split
    · exact .inl (by decide)
    · exact .inr rfl

theorem BufferSound.atStart (pbuf descriptors : Word) (mem : Word → Byte) :
    BufferSound pbuf (.atStart pbuf descriptors mem) where
  stores := by simp [UsbDevice.atStart, tnUsbResetData]
  nonneg := by simp [UsbDevice.atStart, tnUsbResetData]
  bounded := by simp [UsbDevice.atStart, tnUsbResetData]
  buffer := rfl
  moved := by simp [UsbDevice.atStart, tnUsbResetData]

theorem BufferSound.datain {pbuf : Word} {u : UsbDevice}
    (sound : BufferSound pbuf u) : BufferSound pbuf (tnUsbStDatain u) := by
  rw [tnUsbStDatain_eq]
  have nonneg := sound.nonneg
  have bounded := sound.bounded
  refine ⟨⟨?_, ?_, ?_⟩, sound.buffer, ?_⟩
  · intro address count member
    apply sound.stores address count
    simpa using member
  · change 0 ≤ u.nbytes - min u.nbytes 64
    omega
  · change u.nbytes - min u.nbytes 64 ≤ u.setup.wLength.toNat
    omega
  · intro left notDescriptor
    change 0 < u.nbytes - min u.nbytes 64 at left
    change u.pdata + 4 * BitVec.ofInt 32 (min u.nbytes 64) =
      pbuf + 4 * BitVec.ofInt 32
        (u.setup.wLength.toNat - (u.nbytes - min u.nbytes 64))
    rw [sound.moved (by omega) notDescriptor, BitVec.add_assoc,
      ← BitVec.mul_add, ← BitVec.ofInt_add]
    congr 3
    omega

theorem BufferSound.of_done {pbuf : Word} {u : UsbDevice}
    (stores : ∀ address count, .store address count ∈ u.log →
      InEp0Buf pbuf address count)
    (buffer : u.pbuf = pbuf) (done : u.nbytes = 0) : BufferSound pbuf u where
  stores := stores
  nonneg := by omega
  bounded := by omega
  buffer := buffer
  moved := by omega

theorem BufferSound.of_short {pbuf : Word} {u : UsbDevice}
    (stores : ∀ address count, .store address count ∈ u.log →
      InEp0Buf pbuf address count)
    (buffer : u.pbuf = pbuf) (short : u.nbytes ≤ 64) :
    BufferSound pbuf (tnUsbStDatain u) := by
  rw [tnUsbStDatain_eq]
  refine of_done (fun address count member => stores address count ?_) buffer ?_
  · simpa using member
  · change u.nbytes - min u.nbytes 64 = 0
    omega

/-- A state in which nothing of the data stage has been transferred. -/
theorem BufferSound.of_whole {pbuf : Word} {u : UsbDevice}
    (stores : ∀ address count, .store address count ∈ u.log →
      InEp0Buf pbuf address count)
    (buffer : u.pbuf = pbuf) (whole : u.nbytes = u.setup.wLength.toNat)
    (pdata : u.pdata = pbuf) : BufferSound pbuf u := by
  refine ⟨⟨stores, ?_, Int.le_of_eq whole⟩, buffer, fun _ _ => ?_⟩
  · rw [whole]
    exact Int.natCast_nonneg _
  · rw [pdata, whole, Int.sub_self]
    simp

theorem BufferSound.setup {pbuf : Word} {fuel : Nat} {u u' : UsbDevice}
    {usp : UsbSetupPacket} {incoming rest : List UsbPacket}
    (sound : BufferSound pbuf u)
    (runs : Ep0Runs fuel u (some usp) incoming u' rest) :
    BufferSound pbuf u' := by
  have atStart : (u.beginTransfer usp).pdata = pbuf := sound.buffer
  generalize hyp : some usp = stp at runs
  cases runs with
  | expect nonzero out => exact of_whole sound.stores sound.buffer rfl sound.buffer
  | @rejected stp incoming point u₁ dispatch answer =>
      subst hyp
      cases dispatch with
      | setup now =>
          have stores := tnUsbEp0Setup_inside answer atStart sound.stores
          have stores' : ∀ address count,
              .store address count ∈ (u₁.note (.stallEp 0 true)).log →
                InEp0Buf pbuf address count := by
            simpa [UsbDevice.note] using stores
          obtain ⟨setup, buffer⟩ := tnUsbEp0Setup_setup answer
          obtain ⟨pdata, kept | ⟨-, cleared⟩⟩ := tnUsbEp0Setup_rejects answer
          · refine of_whole stores' (buffer.trans sound.buffer) ?_
              (pdata.trans atStart)
            change u₁.nbytes = u₁.setup.wLength.toNat
            rw [kept, setup]
            rfl
          · exact of_done stores' (buffer.trans sound.buffer) cleared
  | @setupAccepted usp incoming u₁ now answer =>
      cases hyp
      have stores := tnUsbEp0Setup_inside answer atStart sound.stores
      obtain ⟨setup, buffer⟩ := tnUsbEp0Setup_setup answer
      obtain ⟨count, pdata, -⟩ := tnUsbEp0Setup_accepts answer
      have nonneg := acceptedCount_nonneg fuel
        (u := u.beginTransfer usp) (Int.natCast_nonneg _)
      by_cases descriptor : usp.AsksDescriptor
      · -- The address of the descriptor is not used for packets.
        refine BufferSound.datain ⟨⟨stores, ?_, ?_⟩, buffer.trans sound.buffer,
          fun _ other => absurd (setup ▸ descriptor) other⟩
        · change 0 ≤ min u₁.nbytes _
          omega
        · change min u₁.nbytes _ ≤ (u₁.setup.wLength.toNat : Int)
          rw [setup]
          exact Int.min_le_right _ _
      · rcases acceptedCount_short fuel (u := u.beginTransfer usp) descriptor
          with short | whole
        · refine of_short stores (buffer.trans sound.buffer) ?_
          change min u₁.nbytes _ ≤ 64
          omega
        · have same : responseAddress fuel (u.beginTransfer usp) =
              (u.beginTransfer usp).pdata := if_neg descriptor
          refine (of_whole (u := u₁.clip usp.wLength) stores
            (buffer.trans sound.buffer) ?_ ?_).datain
          · change min u₁.nbytes _ = (u₁.setup.wLength.toNat : Int)
            rw [count, whole, setup]
            exact Int.min_self _
          · exact pdata.trans (same.trans atStart)
  | dataAccepted => cases hyp
  | idle => cases hyp
  | more => cases hyp

theorem BufferSound.output {pbuf : Word} {fuel : Nat} {u u' : UsbDevice}
    {incoming rest : List UsbPacket} (sound : BufferSound pbuf u)
    (fits : PacketFits u (.output incoming))
    (runs : Ep0Runs fuel u none incoming u' rest) :
    BufferSound pbuf u' := by
  generalize hyp : none = stp at runs
  cases runs with
  | expect => cases hyp
  | setupAccepted => cases hyp
  | @rejected stp incoming point u₁ dispatch answer =>
      subst hyp
      cases dispatch with
      | @data packet incoming expecting last =>
          have stores := tnUsbEp0Setup_inside answer
            (show (u.takePacket packet).rewind.pdata = pbuf from sound.buffer)
            (sound.takePacket expecting fits)
          obtain ⟨-, buffer⟩ := tnUsbEp0Setup_setup answer
          have count := (tnUsbEp0Setup_rejects answer).2
          simp only [UsbDevice.rewind, UsbDevice.takePacket] at buffer count
          refine of_done ?_ (show u₁.pbuf = pbuf from
            buffer.trans sound.buffer) ?_
          · simpa [UsbDevice.note] using stores
          · change u₁.nbytes = 0
            omega
  | @dataAccepted packet incoming u₁ expecting last answer =>
      have stores := tnUsbEp0Setup_inside answer
        (show (u.takePacket packet).rewind.pdata = pbuf from sound.buffer)
        (sound.takePacket expecting fits)
      obtain ⟨-, buffer⟩ := tnUsbEp0Setup_setup answer
      have count := (tnUsbEp0Setup_accepts answer).1
      have notDescriptor := (fits expecting (by omega)).1
      refine of_short stores (buffer.trans sound.buffer) ?_
      rcases acceptedCount_short fuel
        (u := (u.takePacket packet).rewind) notDescriptor with short | whole
      · omega
      · rw [count, whole]
        simp [UsbDevice.rewind, UsbDevice.takePacket, last]
  | idle => exact sound
  | @more packet dummy incoming expecting notLast =>
      have stores := sound.takePacket expecting fits
      have nonneg := sound.nonneg
      have bounded := sound.bounded
      have within : (packet.len : Int) ≤ u.nbytes := by
        by_cases empty : packet.len = 0
        · omega
        · exact (fits expecting empty).2.1
      refine ⟨⟨?_, ?_, ?_⟩, sound.buffer, ?_⟩
      · simpa [UsbDevice.note] using stores
      · change 0 ≤ u.nbytes - (packet.len : Int)
        omega
      · change u.nbytes - (packet.len : Int) ≤ u.setup.wLength.toNat
        omega
      · intro left notDescriptor
        change u.pdata + 4 * BitVec.ofNat 32 packet.len =
          pbuf + 4 * BitVec.ofInt 32
            (u.setup.wLength.toNat - (u.nbytes - (packet.len : Int)))
        rw [sound.moved expecting notDescriptor, BitVec.add_assoc,
          ← BitVec.ofInt_natCast, ← BitVec.mul_add, ← BitVec.ofInt_add]
        congr 3
        omega

theorem BufferSound.step {pbuf : Word} {u u' : UsbDevice}
    {interrupt : Ep0Interrupt} (sound : BufferSound pbuf u)
    (fits : PacketFits u interrupt) (step : Ep0Step u interrupt u') :
    BufferSound pbuf u' := by
  cases step with
  | setup ran => exact sound.setup (tnUsbEp0RxIntFunc_runs ran)
  | output ran => exact sound.output fits (tnUsbEp0RxIntFunc_runs ran)
  | input => exact sound.datain
  | reset => exact .of_done sound.stores sound.buffer rfl

/-- The store of a packet is still in the log when the request has been handled. -/
theorem tnUsbEp0Setup_keepsStore {fuel : Nat} {u u₁ : UsbDevice} {rc : Bool}
    {packet : UsbPacket} (answer : tnUsbEp0Setup fuel
      (u.takePacket packet).rewind = some (u₁, rc)) :
    .store u.pdata (4 * packet.words.length) ∈ u₁.log := by
  obtain ⟨u₂, rfl, answers⟩ := tnUsbEp0Setup_answers answer
  obtain ⟨events, logged, -⟩ := answers.handles.log
  simp [UsbDevice.note, logged, UsbDevice.rewind, UsbDevice.takePacket]

/-- A packet that arrives while bytes are expected is stored at `pdata`. -/
theorem Ep0Runs.stored {fuel : Nat} {u u' : UsbDevice} {packet : UsbPacket}
    {left rest : List UsbPacket}
    (runs : Ep0Runs fuel u none (packet :: left) u' rest)
    (expecting : 0 < u.nbytes) (nonneg : 0 ≤ u'.nbytes) :
    .store u.pdata (4 * packet.words.length) ∈ u'.log ∧
      (packet.len : Int) ≤ u.nbytes := by
  generalize hyp : none = stp at runs
  cases runs with
  | expect | setupAccepted => cases hyp
  | idle unexpected => omega
  | @rejected stp incoming point u₁ dispatch answer =>
      subst hyp
      cases dispatch with
      | data _ last =>
          refine ⟨?_, Int.le_of_eq last.symm⟩
          simpa [UsbDevice.note] using tnUsbEp0Setup_keepsStore answer
  | @dataAccepted packet incoming u₁ _ last answer =>
      refine ⟨?_, Int.le_of_eq last.symm⟩
      rw [tnUsbStDatain_eq]
      simpa using tnUsbEp0Setup_keepsStore answer
  | more =>
      refine ⟨by simp [UsbDevice.note, UsbDevice.takePacket], ?_⟩
      change 0 ≤ u.nbytes - (packet.len : Int) at nonneg
      omega

/-- A packet that is stored inside the buffer fits, but in a request for a
descriptor. -/
theorem BufferSound.fits {pbuf : Word} {u u' : UsbDevice}
    {interrupt : Ep0Interrupt} (sound : BufferSound pbuf u)
    (notDescriptor : ¬u.setup.AsksDescriptor) (step : Ep0Step u interrupt u')
    (inside : StaysInside pbuf u') : PacketFits u interrupt := by
  cases step with
  | setup | input | reset => trivial
  | @output fuel u' incoming rest ran =>
      cases incoming with
      | nil => trivial
      | cons packet left =>
          intro expecting some
          obtain ⟨stored, short⟩ :=
            (tnUsbEp0RxIntFunc_runs ran).stored expecting inside.nonneg
          obtain ⟨received, same, offset⟩ := sound.offset expecting notDescriptor
          refine ⟨notDescriptor, short, ?_⟩
          -- The last byte that is stored is in the buffer.
          have whole := packet.whole
          have last := inside.stores _ _ stored (4 * packet.words.length - 1)
            (by omega)
          rw [offset] at last
          have bounded := packet.bounded
          have wLength := u.setup.wLength.isLt
          rw [usbMaxPacket0] at last bounded ⊢
          rw [same]
          bv_omega

/-- While every packet fits, EP0 writes inside its buffer only.  But in a request for
a descriptor, one that does not fit is written elsewhere, or leaves `nbytes`
negative. -/
theorem ep0_staysInside {pbuf descriptors : Word} {mem : Word → Byte}
    {u : UsbDevice} (reached : Ep0Reached PacketFits pbuf descriptors mem u) :
    StaysInside pbuf u ∧ ∀ interrupt u', ¬u.setup.AsksDescriptor →
      Ep0Step u interrupt u' →
        (StaysInside pbuf u' ↔ PacketFits u interrupt) := by
  have sound : BufferSound pbuf u := by
    induction reached with
    | start => exact .atStart pbuf descriptors mem
    | next reached fits step ih => exact ih.step fits step
  exact ⟨sound.toStaysInside, fun interrupt u' notDescriptor step =>
    ⟨sound.fits notDescriptor step, fun fits =>
      (sound.step fits step).toStaysInside⟩⟩

/-- A full packet. -/
def fullPacket : UsbPacket :=
  ⟨64, List.replicate 16 0, by decide, by decide⟩

/-- A class request with 256 bytes from the host, in four packets: the third
one is stored 256 bytes after the start of the buffer. -/
theorem ep0_staysInside_fails :
    ∃ u₁ u₂ u₃,
      Ep0Step (.atStart 0x40001000 0x1000 fun _ => 0)
        (.setup ⟨0x21, 0xFE, 0, 0, 256⟩) u₁ ∧
      Ep0Step u₁ (.output [fullPacket, fullPacket]) u₂ ∧
      Ep0Step u₂ (.output [fullPacket, fullPacket]) u₃ ∧
      ¬StaysInside 0x40001000 u₃ := by
  refine ⟨_, _, _,
    .setup (show tnUsbEp0RxIntFunc 0 _ _ [] = some (_, []) from rfl),
    .output (show tnUsbEp0RxIntFunc 0 _ _ _ = some (_, []) from rfl),
    .output (show tnUsbEp0RxIntFunc 0 _ _ _ = some (_, []) from rfl), ?_⟩
  intro inside
  have outside := inside.stores 0x40001100 64 (by
    simp only [UsbDevice.note, List.mem_append]
    exact .inl (.inr (.head _))) 0 (by decide)
  exact absurd outside (by decide)

def bytePacket : UsbPacket := ⟨1, [0], by decide, by decide⟩

/-- A class request with 64 bytes from the host, in one packet, and a packet after
the refused `GET_INTERFACE`. -/
theorem ep0_staysInside_single :
    ∃ u u', Ep0Reached PacketFits 0x40001000 0x1000 (fun _ => 0) u ∧
      Ep0Step u (.output [bytePacket]) u' ∧ StaysInside 0x40001000 u' := by
  have reached : Ep0Reached PacketFits 0x40001000 0x1000 (fun _ => 0) _ :=
    .next (.next (.next .start (show PacketFits _ (.setup _) from trivial)
      (.setup (show tnUsbEp0RxIntFunc 0 _ (some ⟨0x21, 0xFF, 0, 0, 64⟩) [] =
        some (_, []) from rfl)))
      (show PacketFits _ (.output [fullPacket]) from
        fun _ _ => ⟨by decide, by decide, by decide⟩)
      (.output (show tnUsbEp0RxIntFunc 0 _ none [fullPacket] = some (_, [])
        from rfl)))
      (show PacketFits _ (.setup _) from trivial)
      (.setup (show tnUsbEp0RxIntFunc 0 _
        (some ⟨0x81, getInterface, 0, 0, 1⟩) [] = some (_, []) from rfl))
  refine ⟨_, _, reached, .output
    (show tnUsbEp0RxIntFunc 0 _ none [bytePacket] = some (_, []) from rfl),
    ((ep0_staysInside reached).2 (.output [bytePacket]) _ (by decide) (.output
      (show tnUsbEp0RxIntFunc 0 _ none [bytePacket] = some (_, [])
        from rfl))).mpr ?_⟩
  exact fun _ _ => ⟨by decide, by decide, by decide⟩

end UsbBulk
