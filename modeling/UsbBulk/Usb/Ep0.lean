import UsbBulk.Kernel.State

/-!
# Endpoint 0 (`tn_usb_req.c` and the EP0 part of `tn_usb_ep.c`)

The control endpoint: its state, the routines that answer requests, and the two
interrupt functions.  What a routine does to the USB controller, and every store
through `pdata`, is an event of the log.

A `BYTE *` and an `unsigned int *` are addresses of bytes; a pointer of the second
kind moves in steps of four.
-/

namespace UsbBulk

abbrev Byte := BitVec 8

/-! ## Data -/

def usbMaxPacket0 : Nat := 64

/-- `USB_SETUP_PACKET`. -/
structure UsbSetupPacket where
  bmRequestType : Byte
  bRequest : Byte
  wValue : BitVec 16
  wIndex : BitVec 16
  wLength : BitVec 16

/-- A packet in the receive buffer of EP0, as the controller hands it over: its
length and its words, the last one filled up. -/
structure UsbPacket where
  len : Nat
  words : List Word
  bounded : len ≤ usbMaxPacket0
  whole : words.length = (len + 3) / 4

/-- What the routines do. -/
inductive UsbEvent where
  /-- A packet is taken out of the receive buffer. -/
  | epRead (packet : UsbPacket)
  /-- So many bytes are stored through `pdata`. -/
  | store (address : Word) (count : Nat)
  /-- `tn_usb_EP0_SETUP` is called, with this content of the EP0 buffer. -/
  | setup (buffer : List Byte)
  /-- `tn_usb_EP0_SETUP` returns. -/
  | answer (rc : Bool)
  /-- `tn_usb_st_DATAIN` is called, with these `nbytes` and `pdata`. -/
  | dataIn (nbytes : Int) (pdata : Word)
  /-- A packet of this length is handed to the controller. -/
  | ep0Write (nbytes : Int) (data : List Byte)
  | stallEp (epNum : BitVec 16) (mode : Bool)
  | setAddr (addr : BitVec 16)
  | configureDevice (mode : Bool)
  | configEp (ptr : Word)

/-- `USB_DEVICE_INFO` with the fields of its `EP0Status`, the memory, and the
log. -/
structure UsbDevice where
  nbytes : Int
  pdata : Word
  pbuf : Word
  setup : UsbSetupPacket
  descriptors : Word
  configuration : Byte
  mem : Word → Byte
  log : List UsbEvent

/-- The bytes from an address on. -/
def readBytes (mem : Word → Byte) (address : Word) (count : Nat) :
    List Byte :=
  (List.range count).map fun i => mem (address + BitVec.ofNat 32 i)

/-- The four bytes of a word, the lowest first. -/
def storeWord (mem : Word → Byte) (address word : Word) : Word → Byte :=
  let mem := Function.update mem address (word.extractLsb' 0 8)
  let mem := Function.update mem (address + 1) (word.extractLsb' 8 8)
  let mem := Function.update mem (address + 2) (word.extractLsb' 16 8)
  Function.update mem (address + 3) (word.extractLsb' 24 8)

/-- `*ptr++ = word` for each word. -/
def storeWords (mem : Word → Byte) (address : Word) :
    List Word → (Word → Byte)
  | [] => mem
  | word :: words => storeWords (storeWord mem address word) (address + 4) words

/-- `*((WORD *)ptr)`, little endian. -/
def readWord16 (mem : Word → Byte) (ptr : Word) : Nat :=
  (mem ptr).toNat + 256 * (mem (ptr + 1)).toNat

namespace UsbDevice

def note (u : UsbDevice) (event : UsbEvent) : UsbDevice :=
  { u with log := u.log ++ [event] }

/-- `pdata[index] = word`. -/
def storeData (u : UsbDevice) (index : Nat) (word : Word) : UsbDevice :=
  let address := u.pdata + 4 * BitVec.ofNat 32 index
  { u with mem := storeWord u.mem address word }.note (.store address 4)

end UsbDevice

/-! ## Constants -/

def usbCmdMaskCommon : Byte := 0xE0
def usbCmdStdDevOut : Byte := 0x00
def usbCmdStdDevIn : Byte := 0x80
def usbCmdClassIn : Byte := 0xA0
def usbCmdClassOut : Byte := 0x20

def cmdMaskRecip : Byte := 0x1F
def cmdRecipDevice : Byte := 0x00
def cmdRecipInterface : Byte := 0x01
def cmdRecipEndpoint : Byte := 0x02

def getStatus : Byte := 0x00
def clearFeature : Byte := 0x01
def setFeature : Byte := 0x03
def setAddress : Byte := 0x05
def getDescriptor : Byte := 0x06
def setDescriptor : Byte := 0x07
def getConfiguration : Byte := 0x08
def setConfiguration : Byte := 0x09
def getInterface : Byte := 0x0A
def setInterface : Byte := 0x0B

def usbDescrTypeConfiguration : Byte := 2
def usbDescrTypeInterface : Byte := 4
def usbDescrTypeEndpoint : Byte := 5

/-! ## Access to the endpoint -/

/-- `tn_usb_ep_read` on EP0, given the packets that arrive; without a packet it
waits forever.  `buf` is `NULL` for a dummy read. -/
def tnUsbEpRead (u : UsbDevice) (buf : Option Word) :
    List UsbPacket → Option (UsbDevice × Nat × List UsbPacket)
  | [] => none
  | packet :: incoming =>
      let u := u.note (.epRead packet)
      match buf with
      | none => some (u, packet.len, incoming)
      | some buf =>
          some ({ u with mem := storeWords u.mem buf packet.words }.note
            (.store buf (4 * packet.words.length)), packet.len, incoming)

/-- Nothing is read from the buffer unless `nbytes` is positive. -/
def tnUsbEp0Write (u : UsbDevice) (buf : Word) (nbytes : Int) : UsbDevice :=
  u.note (.ep0Write nbytes (readBytes u.mem buf nbytes.toNat))

/-! ## Requests -/

def tnUsbResetData (u : UsbDevice) : UsbDevice :=
  { u with configuration := 0, nbytes := 0 }

/-- The state in which `main` starts the system. -/
def UsbDevice.atStart (pbuf descriptors : Word) (mem : Word → Byte) :
    UsbDevice :=
  tnUsbResetData {
    nbytes := 0, pdata := 0, pbuf, setup := ⟨0, 0, 0, 0, 0⟩, descriptors
    configuration := 0, mem, log := [] }

def tnUsbStDatain (u : UsbDevice) : UsbDevice :=
  let u := u.note (.dataIn u.nbytes u.pdata)
  let bytes := if u.nbytes > usbMaxPacket0 then (usbMaxPacket0 : Int)
    else u.nbytes
  let u := tnUsbEp0Write u u.pdata bytes
  { u with
    nbytes := u.nbytes - bytes
    pdata := u.pdata + 4 * BitVec.ofInt 32 bytes }

def UsbSetupPacket.recip (usp : UsbSetupPacket) : Byte :=
  usp.bmRequestType &&& cmdMaskRecip

def usbSetAddress (u : UsbDevice) : UsbDevice × Bool :=
  if u.setup.recip = cmdRecipDevice then
    (u.note (.setAddr u.setup.wValue), true)
  else (u, false)

/-- No feature can be set. -/
def usbSetFeature (u : UsbDevice) : UsbDevice × Bool := (u, false)

def usbClearFeature (u : UsbDevice) : UsbDevice × Bool :=
  if u.setup.recip = cmdRecipEndpoint ∧ u.setup.wValue = 0 then
    (u.note (.stallEp u.setup.wIndex false), true)
  else (u, false)

/-- The low byte of `wValue`. -/
def UsbSetupPacket.valueLow (usp : UsbSetupPacket) : Byte :=
  usp.wValue.setWidth 8

/-- The loop of `usb_SET_CONFIGURATION` through the descriptors. -/
def scanConfigurations : Nat → UsbDevice → Word → Byte → Bool →
    Option (UsbDevice × Bool)
  | 0, _, _, _, _ => none
  | fuel + 1, u, ptr, aset, rc =>
      if u.mem ptr = 0 then some (u, rc)
      else
        let bLength := (u.mem ptr).setWidth 32
        let kind := u.mem (ptr + 1)
        if kind = usbDescrTypeConfiguration then
          if u.mem (ptr + 5) = u.setup.valueLow then
            let u := { u with configuration := u.setup.valueLow }.note
              (.configureDevice true)
            scanConfigurations fuel u (ptr + bLength) aset true
          else
            scanConfigurations fuel u
              (ptr + BitVec.ofNat 32 (readWord16 u.mem (ptr + 2))) aset rc
        else if kind = usbDescrTypeInterface then
          scanConfigurations fuel u (ptr + bLength) (u.mem (ptr + 3)) rc
        else if kind = usbDescrTypeEndpoint then
          let u := if aset = 0 then u.note (.configEp ptr) else u
          scanConfigurations fuel u (ptr + bLength) aset rc
        else scanConfigurations fuel u (ptr + bLength) aset rc

def usbSetConfiguration (fuel : Nat) (u : UsbDevice) :
    Option (UsbDevice × Bool) := do
  let (u, rc) ←
    if u.setup.valueLow ≠ 0 then
      scanConfigurations fuel u u.descriptors 0 false
    else
      some ({ u with configuration := 0 }.note (.configureDevice false),
        false)
  some (u, rc || u.configuration = u.setup.valueLow)

def usbSetInterface (u : UsbDevice) : UsbDevice × Bool := (u, false)

def usbExchStageStallout (u : UsbDevice) : UsbDevice :=
  { u.note (.stallEp 0 true) with nbytes := 0 }

def usbGetStatus (u : UsbDevice) : UsbDevice × Bool :=
  if u.setup.recip = cmdRecipDevice ∨ u.setup.recip = cmdRecipInterface ∨
      u.setup.recip = cmdRecipEndpoint then
    let u := u.storeData 0 0
    let u := u.storeData 1 0
    ({ u with nbytes := 2 }, true)
  else (u, false)

/-- The loop of `usb_GET_DESCRIPTOR`: where the descriptor of the given type and
index is. -/
def findDescriptor (mem : Word → Byte) (reqType : Byte) (reqIndex : Nat) :
    Nat → Word → Nat → Option (Option Word)
  | 0, _, _ => none
  | fuel + 1, ptr, ind =>
      if mem ptr = 0 then some none
      else
        let next := ptr + (mem ptr).setWidth 32
        if mem (ptr + 1) = reqType then
          if ind = reqIndex then some (some ptr)
          else findDescriptor mem reqType reqIndex fuel next (ind + 1)
        else findDescriptor mem reqType reqIndex fuel next ind

/-- The high byte of `wValue`. -/
def UsbSetupPacket.valueHigh (usp : UsbSetupPacket) : Byte :=
  usp.wValue.extractLsb' 8 8

/-- `wTotalLength` of a configuration, `bLength` of any other descriptor. -/
def descriptorLength (mem : Word → Byte) (reqType : Byte) (ptr : Word) : Nat :=
  if reqType = usbDescrTypeConfiguration then readWord16 mem (ptr + 2)
  else (mem ptr).toNat

def usbGetDescriptor (fuel : Nat) (u : UsbDevice) :
    Option (UsbDevice × Bool) :=
  if u.setup.recip = cmdRecipDevice then do
    let reqType := u.setup.valueHigh
    let found ← findDescriptor u.mem reqType u.setup.valueLow.toNat fuel
      u.descriptors 0
    match found with
    | none => some (u, false)
    | some ptr =>
        some ({ u with
          pdata := ptr
          nbytes := descriptorLength u.mem reqType ptr }, true)
  else some (u, false)

def usbGetConfiguration (u : UsbDevice) : UsbDevice × Bool :=
  if u.setup.recip = cmdRecipDevice then
    ({ u.storeData 0 (u.configuration.setWidth 32) with nbytes := 1 }, true)
  else (u, false)

def usbGetInterface (u : UsbDevice) : UsbDevice × Bool := (u, false)

def tnUsbClassRequest (u : UsbDevice) : UsbDevice × Bool :=
  if u.setup.bRequest = 0xFE then
    ({ u.storeData 0 0 with nbytes := 1 }, true)
  else if u.setup.bRequest = 0xFF then (u, true)
  else (u, false)

/-- `bmRequestType & USB_CMD_MASK_COMMON`. -/
def UsbSetupPacket.command (usp : UsbSetupPacket) : Byte :=
  usp.bmRequestType &&& usbCmdMaskCommon

/-- The `switch` of `tn_usb_EP0_SETUP`. -/
def dispatchRequest (fuel : Nat) (u : UsbDevice) :
    Option (UsbDevice × Bool) :=
  if u.setup.command = usbCmdStdDevOut then
    if u.setup.bRequest = setAddress then some (usbSetAddress u)
    else if u.setup.bRequest = setFeature then some (usbSetFeature u)
    else if u.setup.bRequest = clearFeature then some (usbClearFeature u)
    else if u.setup.bRequest = setConfiguration then
      usbSetConfiguration fuel u
    else if u.setup.bRequest = setInterface then some (usbSetInterface u)
    else if u.setup.bRequest = setDescriptor then
      some (usbExchStageStallout u, false)
    else some (u, false)
  else if u.setup.command = usbCmdStdDevIn then
    if u.setup.bRequest = getStatus then some (usbGetStatus u)
    else if u.setup.bRequest = getDescriptor then usbGetDescriptor fuel u
    else if u.setup.bRequest = getConfiguration then
      some (usbGetConfiguration u)
    else if u.setup.bRequest = getInterface then some (usbGetInterface u)
    else some (u, false)
  else if u.setup.command = usbCmdClassIn ∨
      u.setup.command = usbCmdClassOut then
    some (tnUsbClassRequest u)
  else some (u, false)

def tnUsbEp0Setup (fuel : Nat) (u : UsbDevice) : Option (UsbDevice × Bool) := do
  let u := u.note (.setup (readBytes u.mem u.pbuf usbMaxPacket0))
  let (u, rc) ← dispatchRequest fuel u
  some (u.note (.answer rc), rc)

/-! ## Interrupts -/

def tnUsbEp0TxIntFunc (u : UsbDevice) : UsbDevice := tnUsbStDatain u

/-- `bmRequestType & 0x80`: the data stage goes to the host. -/
def UsbSetupPacket.isIn (usp : UsbSetupPacket) : Bool :=
  usp.bmRequestType &&& 0x80 ≠ 0

/-- The part of `tn_usb_EP0_rx_int_func` for a SETUP packet. -/
def ep0RxSetup (fuel : Nat) (u : UsbDevice) (usp : UsbSetupPacket) :
    Option UsbDevice :=
  let u := { u with
    setup := usp, pdata := u.pbuf, nbytes := (usp.wLength.toNat : Int) }
  if usp.wLength = 0 ∨ usp.isIn = true then do
    let (u, rc) ← tnUsbEp0Setup fuel u
    if rc = false then some (u.note (.stallEp 0 true))
    else
      let u := if u.nbytes > usp.wLength.toNat then
          { u with nbytes := (usp.wLength.toNat : Int) }
        else u
      some (tnUsbStDatain u)
  else some u

/-- The part of `tn_usb_EP0_rx_int_func` for any other packet. -/
def ep0RxData (fuel : Nat) (u : UsbDevice) (incoming : List UsbPacket) :
    Option (UsbDevice × List UsbPacket) :=
  if u.nbytes > 0 then do
    let (u, bytes, incoming) ← tnUsbEpRead u (some u.pdata) incoming
    let u : UsbDevice := { u with
      nbytes := u.nbytes - (bytes : Int)
      pdata := u.pdata + 4 * BitVec.ofNat 32 bytes }
    if u.nbytes = 0 then
      let (u, rc) ← tnUsbEp0Setup fuel { u with pdata := u.pbuf }
      if rc = false then some (u.note (.stallEp 0 true), incoming)
      else some (tnUsbStDatain u, incoming)
    else
      let (u, _, incoming) ← tnUsbEpRead u none incoming
      some (u, incoming)
  else some (u, incoming)

/-- `stp` is the SETUP packet, if the interrupt is about one. -/
def tnUsbEp0RxIntFunc (fuel : Nat) (u : UsbDevice)
    (stp : Option UsbSetupPacket) (incoming : List UsbPacket) :
    Option (UsbDevice × List UsbPacket) :=
  match stp with
  | some usp => do
      let u ← ep0RxSetup fuel u usp
      some (u, incoming)
  | none => ep0RxData fuel u incoming

end UsbBulk
