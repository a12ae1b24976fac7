import UsbBulk.Usb.Ep0

/-!
# What a control request does

Each request routine keeps the transfer it belongs to, stores at most two words
at `pdata`, and either leaves `nbytes` alone, clears it, or sets it to the length
of its answer.
-/

namespace UsbBulk

/-- The events that a request routine may log when it starts at this `pdata`. -/
inductive UsbEvent.OfRequest (pdata : Word) : UsbEvent → Prop where
  | store {index : Nat} (small : index ≤ 1) :
      OfRequest pdata (.store (pdata + 4 * BitVec.ofNat 32 index) 4)
  | stallEp (epNum : BitVec 16) (mode : Bool) :
      OfRequest pdata (.stallEp epNum mode)
  | setAddr (addr : BitVec 16) : OfRequest pdata (.setAddr addr)
  | configureDevice (mode : Bool) : OfRequest pdata (.configureDevice mode)
  | configEp (ptr : Word) : OfRequest pdata (.configEp ptr)

/-- What the routines for a request leave alone, and what they log. -/
structure Handles (pdata : Word) (u u' : UsbDevice) : Prop where
  pbuf : u'.pbuf = u.pbuf
  setup : u'.setup = u.setup
  descriptors : u'.descriptors = u.descriptors
  log : ∃ events, u'.log = u.log ++ events ∧
    ∀ event ∈ events, event.OfRequest pdata

namespace Handles

variable {pdata : Word} {u u' u'' : UsbDevice}

theorem refl (pdata : Word) (u : UsbDevice) : Handles pdata u u :=
  ⟨rfl, rfl, rfl, [], by simp, by simp⟩

theorem trans (first : Handles pdata u u') (second : Handles pdata u' u'') :
    Handles pdata u u'' := by
  obtain ⟨events, logged, requested⟩ := first.log
  obtain ⟨events', logged', requested'⟩ := second.log
  refine ⟨second.pbuf.trans first.pbuf, second.setup.trans first.setup,
    second.descriptors.trans first.descriptors, events ++ events', ?_, ?_⟩
  · rw [logged', logged, List.append_assoc]
  · intro event member
    rcases List.mem_append.mp member with early | late
    · exact requested event early
    · exact requested' event late

/-- A routine that logs one event and otherwise keeps the transfer. -/
theorem note {event : UsbEvent} (requested : event.OfRequest pdata)
    (log : u'.log = u.log ++ [event]) (pbuf : u'.pbuf = u.pbuf)
    (setup : u'.setup = u.setup) (descriptors : u'.descriptors = u.descriptors) :
    Handles pdata u u' :=
  ⟨pbuf, setup, descriptors, [event], log, by simpa using requested⟩

theorem silent (log : u'.log = u.log) (pbuf : u'.pbuf = u.pbuf)
    (setup : u'.setup = u.setup) (descriptors : u'.descriptors = u.descriptors) :
    Handles pdata u u' :=
  ⟨pbuf, setup, descriptors, [], by simpa using log, by simp⟩

theorem storeData (u : UsbDevice) {index : Nat} (small : index ≤ 1)
    (word : Word) : Handles u.pdata u (u.storeData index word) :=
  note (.store small) rfl rfl rfl rfl

end Handles

/-- What the routines leave alone that do not produce data. -/
structure Leaves (pdata : Word) (u u' : UsbDevice) : Prop where
  handles : Handles pdata u u'
  nbytes : u'.nbytes = u.nbytes
  pdata : u'.pdata = u.pdata

namespace Leaves

variable {pdata : Word} {u u' u'' : UsbDevice}

theorem refl (pdata : Word) (u : UsbDevice) : Leaves pdata u u :=
  ⟨.refl pdata u, rfl, rfl⟩

theorem trans (first : Leaves pdata u u') (second : Leaves pdata u' u'') :
    Leaves pdata u u'' :=
  ⟨first.handles.trans second.handles, second.nbytes.trans first.nbytes,
    second.pdata.trans first.pdata⟩

theorem note (u : UsbDevice) {event : UsbEvent}
    (requested : event.OfRequest pdata) : Leaves pdata u (u.note event) :=
  ⟨.note requested rfl rfl rfl rfl, rfl, rfl⟩

theorem setConfiguration (pdata : Word) (u : UsbDevice) (value : Byte) :
    Leaves pdata u { u with configuration := value } :=
  ⟨.silent rfl rfl rfl rfl, rfl, rfl⟩

end Leaves

/-! ## The answer -/

theorem UsbSetupPacket.isIn_eq (usp : UsbSetupPacket) :
    usp.isIn = decide (usp.command &&& 0x80 ≠ 0) := by
  rw [isIn, command, BitVec.and_assoc]
  rfl

theorem UsbSetupPacket.notIn_of_command {usp : UsbSetupPacket}
    (out : usp.command = usbCmdStdDevOut ∨ usp.command = usbCmdClassOut) :
    usp.isIn = false := by
  rw [isIn_eq]
  rcases out with std | ofClass
  · rw [std]
    rfl
  · rw [ofClass]
    rfl

/-- The position of the selected descriptor, for the request at hand. -/
def UsbDevice.selected (fuel : Nat) (u : UsbDevice) : Option Word :=
  (findDescriptor u.mem u.setup.valueHigh u.setup.valueLow.toNat fuel
    u.descriptors 0).join

/-- The number of bytes that the request at hand is answered with: none when it
produces no data or its data stage comes from the host. -/
def responseLength (fuel : Nat) (u : UsbDevice) : Nat :=
  if u.setup.command = usbCmdStdDevIn then
    if u.setup.bRequest = getStatus then 2
    else if u.setup.bRequest = getConfiguration then 1
    else if u.setup.bRequest = getDescriptor then
      match u.selected fuel with
      | some ptr => descriptorLength u.mem u.setup.valueHigh ptr
      | none => 0
    else 0
  else if u.setup.command = usbCmdClassIn ∧ u.setup.bRequest = 0xFE then 1
  else 0

/-- Where the answer is. -/
def responseAddress (fuel : Nat) (u : UsbDevice) : Word :=
  if u.setup.command = usbCmdStdDevIn ∧ u.setup.bRequest = getDescriptor then
    (u.selected fuel).getD u.pdata
  else u.pdata

/-- The count that an accepted request leaves: the answer's for a request of the
`IN` kind, and the one it found for any other, but for the class request `0xFE`. -/
def acceptedCount (fuel : Nat) (u : UsbDevice) : Int :=
  if u.setup.command = usbCmdStdDevIn then responseLength fuel u
  else if u.setup.command ≠ usbCmdStdDevOut ∧ u.setup.bRequest = 0xFE then 1
  else u.nbytes

/-- The requests that can be accepted. -/
def UsbSetupPacket.Supported (usp : UsbSetupPacket) : Prop :=
  usp.command = usbCmdStdDevOut ∨ usp.command = usbCmdStdDevIn ∨
    ((usp.command = usbCmdClassIn ∨ usp.command = usbCmdClassOut) ∧
      (usp.bRequest = 0xFE ∨ usp.bRequest = 0xFF))

/-- What the routines for a request do, and what their answer says. -/
structure Answers (fuel : Nat) (u u' : UsbDevice) (rc : Bool) : Prop where
  handles : Handles u.pdata u u'
  refused : rc = false → u'.pdata = u.pdata ∧ (u'.nbytes = u.nbytes ∨
    (u.setup.command = usbCmdStdDevOut ∧ u'.nbytes = 0))
  accepted : rc = true → u'.nbytes = acceptedCount fuel u ∧
    u'.pdata = responseAddress fuel u ∧ u.setup.Supported

namespace Answers

variable {fuel : Nat} {u u' : UsbDevice} {rc : Bool}

theorem no (fuel : Nat) (u : UsbDevice) : Answers fuel u u false :=
  ⟨.refl _ u, fun _ => ⟨rfl, .inl rfl⟩, fun claim => nomatch claim⟩

/-- A request of the `OUT` kind that leaves `nbytes` and `pdata` alone. -/
theorem plain (out : u.setup.command = usbCmdStdDevOut)
    (leaves : Leaves u.pdata u u') : Answers fuel u u' rc := by
  refine ⟨leaves.handles, fun _ => ⟨leaves.pdata, .inl leaves.nbytes⟩,
    fun _ => ⟨?_, ?_, .inl out⟩⟩
  · simp [acceptedCount, out, usbCmdStdDevOut, usbCmdStdDevIn, leaves.nbytes]
  · simp [responseAddress, out, usbCmdStdDevOut, usbCmdStdDevIn, leaves.pdata]

/-- A request that is answered with data from where `pdata` is. -/
theorem data (handles : Handles u.pdata u u')
    (nbytes : u'.nbytes = acceptedCount fuel u)
    (pdata : u'.pdata = responseAddress fuel u)
    (supported : u.setup.Supported) : Answers fuel u u' true :=
  ⟨handles, fun claim => (nomatch claim), fun _ => ⟨nbytes, pdata, supported⟩⟩

theorem of_pair {answer : UsbDevice × Bool}
    (answers : Answers fuel u answer.1 answer.2)
    (done : some answer = some (u', rc)) : Answers fuel u u' rc := by
  cases answer
  cases done
  exact answers

end Answers

/-! ## The routines -/

theorem scanConfigurations_leaves {fuel : Nat} {u u' : UsbDevice}
    {ptr : Word} {aset : Byte} {rc rc' : Bool} (pdata : Word)
    (done : scanConfigurations fuel u ptr aset rc = some (u', rc')) :
    Leaves pdata u u' := by
  induction fuel generalizing u ptr aset rc with
  | zero => cases done
  | succ fuel ih =>
      rw [scanConfigurations] at done
      dsimp only at done
      split at done
      · cases done
        exact .refl pdata _
      · split at done
        · split at done
          · exact ((Leaves.setConfiguration pdata u _).trans
              (.note _ (.configureDevice true))).trans (ih done)
          · exact ih done
        · split at done
          · exact ih done
          · split at done
            · split at done
              · exact (Leaves.note u (.configEp ptr)).trans (ih done)
              · exact ih done
            · exact ih done

variable {fuel : Nat} {u u' : UsbDevice} {rc : Bool}

theorem usbSetConfiguration_leaves (pdata : Word)
    (done : usbSetConfiguration fuel u = some (u', rc)) :
    Leaves pdata u u' := by
  rw [usbSetConfiguration] at done
  split at done
  · obtain ⟨⟨u₁, rc₁⟩, scanned, finished⟩ := Option.bind_eq_some_iff.mp done
    cases finished
    exact scanConfigurations_leaves pdata scanned
  · cases done
    exact (Leaves.setConfiguration pdata u 0).trans
      (.note _ (.configureDevice false))

theorem usbSetAddress_answers (out : u.setup.command = usbCmdStdDevOut) :
    Answers fuel u (usbSetAddress u).1 (usbSetAddress u).2 := by
  rw [usbSetAddress]
  split
  · exact .plain out (.note u (.setAddr _))
  · exact .no fuel u

theorem usbClearFeature_answers (out : u.setup.command = usbCmdStdDevOut) :
    Answers fuel u (usbClearFeature u).1 (usbClearFeature u).2 := by
  rw [usbClearFeature]
  split
  · exact .plain out (.note u (.stallEp _ false))
  · exact .no fuel u

theorem usbGetStatus_answers (inward : u.setup.command = usbCmdStdDevIn)
    (status : u.setup.bRequest = getStatus) :
    Answers fuel u (usbGetStatus u).1 (usbGetStatus u).2 := by
  rw [usbGetStatus]
  split
  · refine .data ?_ ?_ ?_ (.inr (.inl inward))
    · exact ((Handles.storeData u (Nat.zero_le 1) 0).trans
        (Handles.storeData (u.storeData 0 0) (Nat.le_refl 1) 0)).trans
          (.silent rfl rfl rfl rfl)
    · simp [acceptedCount, responseLength, inward, status]
    · simp [responseAddress, status, getStatus, getDescriptor,
        UsbDevice.storeData, UsbDevice.note]
  · exact .no fuel u

theorem usbGetConfiguration_answers
    (inward : u.setup.command = usbCmdStdDevIn)
    (configuration : u.setup.bRequest = getConfiguration) :
    Answers fuel u (usbGetConfiguration u).1 (usbGetConfiguration u).2 := by
  rw [usbGetConfiguration]
  split
  · refine .data ((Handles.storeData u (Nat.zero_le 1) _).trans
      (.silent rfl rfl rfl rfl)) ?_ ?_ (.inr (.inl inward))
    · simp [acceptedCount, responseLength, inward, configuration,
        getConfiguration, getStatus]
    · simp [responseAddress, configuration, getConfiguration, getDescriptor,
        UsbDevice.storeData, UsbDevice.note]
  · exact .no fuel u

theorem usbGetDescriptor_answers (inward : u.setup.command = usbCmdStdDevIn)
    (descriptor : u.setup.bRequest = getDescriptor)
    (done : usbGetDescriptor fuel u = some (u', rc)) :
    Answers fuel u u' rc := by
  rw [usbGetDescriptor] at done
  split at done
  · obtain ⟨found, search, finished⟩ := Option.bind_eq_some_iff.mp done
    cases found with
    | none =>
        cases finished
        exact .no fuel u
    | some ptr =>
        cases finished
        have selected : u.selected fuel = some ptr := by
          rw [UsbDevice.selected, search]
          rfl
        refine .data (.silent rfl rfl rfl rfl) ?_ ?_ (.inr (.inl inward))
        · simp [acceptedCount, responseLength, inward, descriptor,
            getDescriptor, getConfiguration, getStatus, selected]
        · simp [responseAddress, inward, descriptor, selected]
  · cases done
    exact .no fuel u

theorem tnUsbClassRequest_answers
    (notOut : u.setup.command ≠ usbCmdStdDevOut)
    (notIn : u.setup.command ≠ usbCmdStdDevIn)
    (ofClass : u.setup.command = usbCmdClassIn ∨
      u.setup.command = usbCmdClassOut) :
    Answers fuel u (tnUsbClassRequest u).1 (tnUsbClassRequest u).2 := by
  rw [tnUsbClassRequest]
  split
  case isTrue luns =>
      refine .data ((Handles.storeData u (Nat.zero_le 1) _).trans
        (.silent rfl rfl rfl rfl)) ?_ ?_ (.inr (.inr ⟨ofClass, .inl luns⟩))
      · simp [acceptedCount, notOut, notIn, luns]
      · simp [responseAddress, notIn, UsbDevice.storeData, UsbDevice.note]
  case isFalse notLuns =>
      split
      case isTrue reset =>
        refine .data (.refl _ u) ?_ ?_ (.inr (.inr ⟨ofClass, .inr reset⟩))
        · rw [acceptedCount, if_neg notIn,
            if_neg fun luns => notLuns luns.2]
        · simp [responseAddress, notIn]
      case isFalse => exact .no fuel u

theorem dispatchRequest_answers (done : dispatchRequest fuel u = some (u', rc)) :
    Answers fuel u u' rc := by
  rw [dispatchRequest] at done
  split at done
  case isTrue out =>
      split at done
      · exact .of_pair (usbSetAddress_answers out) done
      split at done
      · cases done
        exact .no fuel u
      split at done
      · exact .of_pair (usbClearFeature_answers out) done
      split at done
      · exact .plain out (usbSetConfiguration_leaves _ done)
      split at done
      · cases done
        exact .no fuel u
      split at done
      · cases done
        exact ⟨.note (.stallEp 0 true) rfl rfl rfl rfl,
          fun _ => ⟨rfl, .inr ⟨out, rfl⟩⟩, fun claim => nomatch claim⟩
      · cases done
        exact .no fuel u
  case isFalse notOut =>
      split at done
      case isTrue inward =>
          split at done
          case isTrue status =>
              exact .of_pair (usbGetStatus_answers inward status) done
          split at done
          case isTrue descriptor =>
              exact usbGetDescriptor_answers inward descriptor done
          split at done
          case isTrue configuration =>
              exact .of_pair
                (usbGetConfiguration_answers inward configuration) done
          split at done
          · cases done
            exact .no fuel u
          · cases done
            exact .no fuel u
      case isFalse notIn =>
          split at done
          case isTrue ofClass =>
              exact .of_pair (tnUsbClassRequest_answers notOut notIn ofClass)
                done
          · cases done
            exact .no fuel u

end UsbBulk
