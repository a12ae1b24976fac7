import UsbBulk.Usb.DmaTx
import UsbBulk.Usb.Firmware

/-!
# The firmware with DMA (`usb_tst2.c` and `tn_user.c`)

The tasks are those of the firmware without DMA.  The DMA engine moves packets between
the bus and the USB RAM, and the interrupt routine moves them between the USB RAM and
the blocks.  Whether the engine is enabled is left out: it may move a packet in any
case.
-/

namespace UsbBulk

/-! ## The endpoints in the USB RAM -/

/-- The bulk endpoints. -/
inductive Endpoint where
  | ep2Rx | ep2Tx | ep5Rx | ep5Tx
  deriving DecidableEq

namespace Endpoint

def lane : Endpoint → Lane
  | ep2Rx => .ep2Rx
  | ep2Tx => .ep2Tx
  | ep5Rx => .ep5Rx
  | ep5Tx => .ep5Tx

/-- `EP2_RX` and its like. -/
def epNumPhys : Endpoint → Nat
  | ep2Rx => 4
  | ep2Tx => 5
  | ep5Rx => 10
  | ep5Tx => 11

/-- The endpoints before this one in the map of the USB RAM. -/
def before : Endpoint → Nat
  | ep2Rx => 0
  | ep2Tx => 1
  | ep5Rx => 2
  | ep5Tx => 3

/-- The entry of `gDMAAddresses` for the endpoint. -/
def epDmaAddr (e : Endpoint) : EpDmaAddr where
  word1 := 64 <<< 16 ||| 64 <<< 5
  nbuffers := 8
  pDD := BitVec.ofNat 32 (0x7FD00000 + 32 * 4 + (6 * 4 * 8 + 64 * 8) * e.before)
  pDataBuffers := BitVec.ofNat 32
    (0x7FD00000 + 32 * 4 + (6 * 4 * 8 + 64 * 8) * e.before + 6 * 4 * 8)

/-- `gEP2RX_EDI` and its like, but for the queue and the pool. -/
def table (e : Endpoint) : EpDmaTable where
  epDmaAddr := e.epDmaAddr
  pUdcaPos := BitVec.ofNat 32 (0x7FD00000 + 4 * e.epNumPhys)
  small := by cases e <;> decide
  slotApart := by cases e <;> decide +kernel

/-- The words of the endpoint: its slot in the UDCA, its descriptors, and its
buffers. -/
def InZone (e : Endpoint) (address : Word) : Prop :=
  address = e.table.pUdcaPos ∨
    ∃ m < (6 * 4 * 8 + 64 * 8) / 4, address = wordAt e.epDmaAddr.pDD m

end Endpoint

/-- The descriptors of all endpoints are initialised. -/
def dmaInit (ram : Word → Word) : Word → Word :=
  let ram := tnUsbDmaRxInit Endpoint.ep2Rx.table ram
  let ram := tnUsbDmaTxInit Endpoint.ep2Tx.table ram
  let ram := tnUsbDmaRxInit Endpoint.ep5Rx.table ram
  tnUsbDmaTxInit Endpoint.ep5Tx.table ram

/-! ## The state -/

/-- The USB RAM, and the registers `rUSBEoTIntSt` and `rUSBNDDRIntSt`. -/
structure Engine where
  ram : Word → Word
  eotIntSt : Endpoint → Bool
  nddrIntSt : Endpoint → Bool

/-- The state of the firmware with DMA, with the packets that the engine has taken from
the bus. -/
structure DmaFirmware extends Firmware where
  engine : Engine
  acknowledged : Endpoint → List UsbPacket

namespace DmaFirmware

variable (st : DmaFirmware) (e : Endpoint)

/-- What one endpoint sees. -/
def ep : DmaEp where
  kernel := st.kernel
  ram := st.engine.ram
  eotIntSt := st.engine.eotIntSt e
  nddrIntSt := st.engine.nddrIntSt e
  dmaEnabled := false

def setEp (ep : DmaEp) : DmaFirmware :=
  { st with
    kernel := ep.kernel
    engine := {
      ram := ep.ram
      eotIntSt := Function.update st.engine.eotIntSt e ep.eotIntSt
      nddrIntSt := Function.update st.engine.nddrIntSt e ep.nddrIntSt } }

def setFirmware (st' : Firmware) : DmaFirmware := { st with toFirmware := st' }

def setKernel (k : Kernel) : DmaFirmware := { st with kernel := k }

/-- A packet is taken from the bus. -/
def acknowledge (packet : UsbPacket) : DmaFirmware :=
  { st with
    acknowledged := Function.update st.acknowledged e
      (st.acknowledged e ++ [packet]) }

/-- The engine has been active, or not. -/
def meddled (engine : Option Engine) : DmaFirmware :=
  { st with engine := engine.getD st.engine }

/-- `tn_usb_int_reset`, but for the other registers of the controller. -/
def tnUsbIntReset : DmaFirmware :=
  { st with
    device := UsbBulk.tnUsbIntReset st.device
    engine := ⟨dmaInit st.engine.ram, fun _ => false, fun _ => false⟩ }

end DmaFirmware

/-! ## The interrupt routine -/

/-- `End_of_Transfer` and `New_DD_request`. -/
inductive DmaInt where
  | eot | nddr

def Engine.intSt (engine : Engine) : DmaInt → Endpoint → Bool
  | .eot => engine.eotIntSt
  | .nddr => engine.nddrIntSt

/-- What happens while `tn_usb_int_func` runs: what the controller shows, and what the
engine does before a register is read and before an endpoint is served. -/
structure DmaInterrupt where
  usb : UsbInterrupt
  reads : DmaInt → Option Engine
  serves : DmaInt → Endpoint → Option Engine

/-- The bus is reset, or connected or disconnected. -/
def UsbInterrupt.resets (usb : UsbInterrupt) : Bool :=
  usb.devIntSt &&& devStat ≠ 0 ∧
    (usb.devStatus &&& devStatusRst ≠ 0 ∨ usb.devStatus &&& devStatusConCh ≠ 0)

/-- The first part of `tn_usb_int_func`. -/
def DmaFirmware.devStatusFunc (st : DmaFirmware) (usb : UsbInterrupt) :
    DmaFirmware :=
  if usb.devIntSt &&& devStat ≠ 0 then
    let st := if usb.devStatus &&& devStatusRst ≠ 0 then st.tnUsbIntReset else st
    if usb.devStatus &&& devStatusConCh ≠ 0 then st.tnUsbIntReset else st
  else st

namespace Board

variable {build : Build} (b : Board build) (fuel : Nat)

/-- `gEP2RX_EDI` and its like. -/
def edi (e : Endpoint) : EpDmaInfo where
  toEpDmaTable := e.table
  queue := b.queue e.lane
  memPool := b.memPool e.lane
  bufferApart := by cases e <;> decide +kernel

/-- The payload that `ep_rx_end_of_transfer` finds. -/
def found (st : DmaFirmware) (e : Endpoint) : List Word :=
  payloadAt st.engine.ram
    (st.engine.ram (wordAt ((st.ep e).current (b.edi e)) 5))

/-- `ep_rx_end_of_transfer` for a lane.  A payload is put into the lane if
`tn_fmem_get_ipolling` gives a block for it. -/
def rxEndOfTransfer (e : Endpoint) (st : DmaFirmware) : Option DmaFirmware := do
  let (_, reply) ← tnFmemGetIpolling st.kernel (some (b.memPool e.lane)) true
  let ep ← epRxEndOfTransfer fuel (b.edi e) (st.ep e)
  let st' := st.setEp e ep
  some (if reply.rc = some .noErr then
    st'.setFirmware (st'.addSent e.lane (b.found st e)) else st')

/-- `ep_tx_int_DD_request` for a lane. -/
def txDdRequest (e : Endpoint) (st : DmaFirmware) : Option DmaFirmware := do
  let (ep, payload) ← epTxIntDdRequest fuel (b.edi e) (st.ep e)
  let st := st.setEp e ep
  some (match payload with
    | some payload => st.setFirmware (st.addLeft e.lane payload)
    | none => st)

/-- What `tn_usb_int_func` does for an endpoint whose bit is set. -/
def dmaServe (e : Endpoint) : DmaInt → DmaFirmware → Option DmaFirmware
  | .eot, st =>
      if e.lane.isOut then b.rxEndOfTransfer fuel e st
      else some (st.setEp e { st.ep e with eotIntSt := false })
  | .nddr, st =>
      if e.lane.isOut then some (st.setEp e (epRxDdRequest (b.edi e) (st.ep e)))
      else b.txDdRequest fuel e st

/-- The endpoints one after the other. -/
def dmaServes (int : DmaInterrupt) (dma : DmaInt) (epIntStatus : Endpoint → Bool) :
    List Endpoint → DmaFirmware → Option DmaFirmware
  | [], st => some st
  | e :: es, st => do
      let st := st.meddled (int.serves dma e)
      let st ← (if epIntStatus e then b.dmaServe fuel e dma st else some st :
        Option DmaFirmware)
      dmaServes int dma epIntStatus es st

/-- The part of `tn_usb_int_func` for one of the two registers.  Without a bit that is
set there is nothing to do, so `rUSBDMAIntSt` does not matter. -/
def dmaIntFunc (int : DmaInterrupt) (dma : DmaInt) (st : DmaFirmware) :
    Option DmaFirmware :=
  let st := st.meddled (int.reads dma)
  b.dmaServes fuel int dma (st.engine.intSt dma) [.ep2Rx, .ep2Tx, .ep5Rx, .ep5Tx] st

/-- `tn_usb_int_func` of the firmware with DMA. -/
def tnUsbDmaIntFunc (int : DmaInterrupt) (st : DmaFirmware) :
    Option DmaFirmware := do
  let st := st.devStatusFunc int.usb
  let device ← (if int.usb.devIntStNext &&& epSlow ≠ 0 then
    ep0IntFunc fuel int.usb st.device else some st.device : Option UsbDevice)
  let st ← b.dmaIntFunc fuel int .eot (st.setFirmware { st with device := device })
  b.dmaIntFunc fuel int .nddr st

end Board

/-! ## Steps and runs -/

/-- A bus that is calm may be reset now. -/
def Board.Quiet {build : Build} (b : Board build) (st : DmaFirmware) : Prop :=
  ∀ e : Endpoint, e.lane.isOut = true → st.engine.eotIntSt e = false ∧
    (st.kernel.dque (b.queue e.lane)).fifoFull = false

/-- The engine does nothing while the interrupt routine runs. -/
structure DmaInterrupt.Calm (int : DmaInterrupt) : Prop where
  reads : ∀ dma, int.reads dma = none
  serves : ∀ dma e, int.serves dma e = none

/-- One step of a task, of the engine, or of the interrupt routine. -/
inductive DmaFirmwareStep {bus : Bus} (b : Board (.dma bus)) :
    DmaFirmware → DmaFirmware → Prop where
  | common {st : DmaFirmware} {st' : Firmware}
      (step : CommonStep b st.toFirmware st') :
      DmaFirmwareStep b st (st.setFirmware st')
  /-- A packet comes in. -/
  | transfer {st : DmaFirmware} {e : Endpoint} (out : e.lane.isOut = true)
      (packet : UsbPacket) (position status : Word) (enabled : Bool)
      (active : ddRetired st.engine.ram ((st.ep e).current (b.edi e)) = false)
      (retires : status &&& 1 ≠ 0) :
      DmaFirmwareStep b st
        ((st.setEp e ((st.ep e).transfer (b.edi e) packet position status
          enabled)).acknowledge e packet)
  /-- A packet is waiting to come in, or may go out, and there is no descriptor for
  it. -/
  | request {st : DmaFirmware} {e : Endpoint}
      (retired : e.lane.isOut = true →
        ddRetired st.engine.ram ((st.ep e).current (b.edi e)) = true) :
      DmaFirmwareStep b st (st.setEp e { st.ep e with nddrIntSt := true })
  /-- A packet has gone out. -/
  | complete {st : DmaFirmware} {e : Endpoint} (isIn : e.lane.isOut = false)
      (ram : Word → Word)
      (zone : ∀ address, ram address ≠ st.engine.ram address → e.InZone address) :
      DmaFirmwareStep b st
        (st.setEp e { st.ep e with ram := ram, eotIntSt := true })
  | wild {st : DmaFirmware} (wild : bus = .wild) (engine : Engine) :
      DmaFirmwareStep b st { st with engine := engine }
  | interrupt {st st' : DmaFirmware} (fuel : Nat) (int : DmaInterrupt)
      (calm : bus = .calm → int.Calm ∧ (int.usb.resets = true → b.Quiet st))
      (run : b.tnUsbDmaIntFunc fuel int (st.setKernel st.kernel.enterIrq) =
        some st') :
      DmaFirmwareStep b st (st'.setKernel st'.kernel.leaveIrq)

/-- The state when the timer task has called `tn_app_init` and enables the
interrupts. -/
def DmaFirmware.atStart (k : Kernel) (device : UsbDevice) (ram : Word → Word) :
    DmaFirmware where
  toFirmware := .atStart k device
  engine := ⟨dmaInit ram, fun _ => false, fun _ => false⟩
  acknowledged _ := []

/-- A run: `main` initialises the descriptors, the system starts, and the timer task
calls `tn_app_init`. -/
inductive DmaFirmwareRun {bus : Bus} (b : Board (.dma bus)) : DmaFirmware → Prop where
  | start {k k₁ k₂ : Kernel} {pbuf descriptors : Word} {mem : Word → Byte}
      (ram : Word → Word) (fuel : Nat) (fresh : k.Fresh)
      (start : tnStartSystem b.image k = some k₁)
      (init : b.makeCalls fuel b.tnAppInit k₁ = some k₂) :
      DmaFirmwareRun b (.atStart k₂ (.atStart pbuf descriptors mem) ram)
  | next {st st' : DmaFirmware} (before : DmaFirmwareRun b st)
      (step : DmaFirmwareStep b st st') : DmaFirmwareRun b st'

end UsbBulk
