import UsbBulk.Usb.Blocks
import UsbBulk.Usb.DmaLayout

/-!
# Reception with DMA (`tn_usb_ep_dma.c`)

An OUT endpoint of the DMA firmware: its descriptors and buffers in the USB RAM,
the two interrupts of the DMA engine, and the task that consumes the packets.

The USB RAM and the memory of the pools are two memories of words.  A pointer to
a descriptor is the address of its first word.
-/

namespace UsbBulk

/-- `EP_DMA_INFO` of an OUT endpoint.  The buffers, the UDCA slot and the
descriptors are apart. -/
structure EpDmaInfo extends EpDmaTable where
  queue : DqueId
  memPool : FmpId
  bufferApart : ∀ i < epDmaAddr.nbuffers, ∀ j < usbMaxPacket0 / 4,
    wordAt (epDmaAddr.buffer i) j ≠ pUdcaPos ∧
      ∀ m < epDdTotalSize * epDmaAddr.nbuffers,
        wordAt (epDmaAddr.buffer i) j ≠ wordAt epDmaAddr.pDD m

/-- The descriptors and buffers of EP2 RX in the USB RAM, after the 32 slots of the
UDCA. -/
def EpDmaInfo.ep2Rx (queue : DqueId) (memPool : FmpId) : EpDmaInfo where
  epDmaAddr := {
    word1 := 64 <<< 16 ||| 64 <<< 5
    nbuffers := 8
    pDD := 0x7FD00000 + 32 * 4
    pDataBuffers := 0x7FD00000 + 32 * 4 + 6 * 4 * 8 }
  pUdcaPos := 0x7FD00000 + 4 * 4
  queue := queue
  memPool := memPool
  small := by decide
  slotApart := by decide +kernel
  bufferApart := by decide +kernel

/-! ## The interrupt routines -/

/-- The kernel, the USB RAM, and what the DMA engine has for the endpoint: its bits
in `USBEoTIntSt` and `USBNDDRIntSt`, and its DMA-enable bit. -/
structure DmaEp where
  kernel : Kernel
  ram : Word → Word
  eotIntSt : Bool
  nddrIntSt : Bool
  dmaEnabled : Bool

def DmaEp.setKernel (ep : DmaEp) (k : Kernel) : DmaEp :=
  { ep with kernel := k }

/-- The DD that the UDCA slot points at. -/
def DmaEp.current (ep : DmaEp) (edi : EpDmaInfo) : Word := ep.ram edi.pUdcaPos

/-- `s_memcpy(ptr, buf, 64)` from the USB RAM into a block. -/
def DmaEp.copyPacket (ep : DmaEp) (ptr buf : Word) : Kernel :=
  ep.kernel.setMem
    (writeWords ep.kernel.mem ptr (readWords ep.ram buf (usbMaxPacket0 / 4)))

/-- What `tn_queue_isend_polling` returns is not looked at. -/
def epRxEndOfTransfer (fuel : Nat) (edi : EpDmaInfo) (ep : DmaEp) :
    Option DmaEp := do
  let (k, reply) ← tnFmemGetIpolling ep.kernel (some edi.memPool) true
  let ep := ep.setKernel k
  if reply.rc = some .noErr then do
    let ptr ← reply.value
    let buf := ep.ram (wordAt (ep.current edi) 5)
    let (k, _) ← tnQueueIsendPolling fuel (ep.copyPacket ptr buf)
      (some edi.queue) ptr
    some { ep.setKernel k with eotIntSt := false }
  else some { ep with eotIntSt := false }

/-- The `flag` of `ep_rx_DD_request`. -/
def Dque.fifoFull (dque : Dque) : Bool :=
  (dque.tailCnt = 0 && dque.headerCnt = dque.numEntries - 1) ||
    dque.headerCnt = dque.tailCnt - 1

/-- The loop of `ep_rx_DD_request` over the descriptors. -/
def activateFrom (edi : EpDmaInfo) :
    Nat → (Word → Word) → Word → (Word → Word)
  | 0, ram, _ => ram
  | left + 1, ram, ddPtr =>
      if ddPtr ≠ ram edi.pUdcaPos ∧ ddRetired ram ddPtr then
        let ram := Function.update ram (wordAt ddPtr 0) 0
        let ram := Function.update ram (wordAt ddPtr 3) 0
        let ram := Function.update ram (wordAt ddPtr 2) (ram (wordAt ddPtr 5))
        Function.update ram edi.pUdcaPos ddPtr
      else activateFrom edi left ram (wordAt ddPtr epDdTotalSize)

def epRxDdRequest (edi : EpDmaInfo) (ep : DmaEp) : DmaEp :=
  if (ep.kernel.dque edi.queue).fifoFull then { ep with nddrIntSt := false }
  else
    { ep with
      ram := activateFrom edi edi.epDmaAddr.nbuffers ep.ram edi.epDmaAddr.pDD
      nddrIntSt := false
      dmaEnabled := true }

/-- The part of `tn_usb_int_func` that is about the endpoint. -/
def tnUsbIntFunc (fuel : Nat) (edi : EpDmaInfo) (ep : DmaEp) :
    Option DmaEp :=
  (if ep.eotIntSt then epRxEndOfTransfer fuel edi ep else some ep).map
    fun ep => if ep.nddrIntSt then epRxDdRequest edi ep else ep

/-! ## The system -/

/-- Where the consumer task is in its loop. -/
inductive Consumer where
  /-- Before `tn_queue_receive`. -/
  | receive
  /-- Inside `tn_queue_receive`, waiting. -/
  | receiving
  /-- Between `tn_queue_receive` and `tn_fmem_release`. -/
  | processing (ptr : Word)
  /-- Before it sets the DMA-enable bit. -/
  | enable

/-- The state of the reception, with the packets that the engine has taken from
the bus, and what the consumer has found in the blocks it has received. -/
structure DmaRx where
  ep : DmaEp
  consumer : Consumer
  acknowledged : List UsbPacket
  received : List (List Word)

namespace DmaRx

variable (s : DmaRx)

def kernel : Kernel := s.ep.kernel

def setKernel (k : Kernel) : DmaRx := { s with ep := s.ep.setKernel k }

/-- `tn_queue_receive` returns. -/
def returns (rc : Terr) (ptr : Word) : DmaRx :=
  if rc = .noErr then
    { s with
      consumer := .processing ptr
      received := s.received ++
        [readWords s.kernel.mem ptr (usbMaxPacket0 / 4)] }
  else { s with consumer := .receive }

/-- `tn_queue_receive` has answered, or the consumer waits in it. -/
def answered (reply : Reply) : DmaRx :=
  match reply.rc with
  | some rc => s.returns rc (reply.value.getD 0)
  | none => { s with consumer := .receiving }

@[simp] theorem returns_kernel (rc : Terr) (ptr : Word) :
    (s.returns rc ptr).kernel = s.kernel := by
  unfold returns
  split <;> rfl

@[simp] theorem answered_kernel (reply : Reply) :
    (s.answered reply).kernel = s.kernel := by
  unfold answered
  split
  · exact s.returns_kernel _ _
  · rfl

/-- The consumer runs. -/
structure Runs (task : TaskId) : Prop where
  current : s.kernel.tnCurrRunTask = task
  runnable : (s.kernel.tcb task).taskState = .runnable

end DmaRx

/-- A packet is taken from the bus into the buffer of the current DD, which is then
retired. -/
def DmaEp.transfer (ep : DmaEp) (edi : EpDmaInfo) (packet : UsbPacket)
    (position status : Word) (enabled : Bool) : DmaEp :=
  let dd := ep.current edi
  let ram := writeWords ep.ram (ep.ram (wordAt dd 2)) packet.words
  let ram := Function.update ram (wordAt dd 2) position
  let ram := Function.update ram (wordAt dd 3) status
  { ep with ram := ram, eotIntSt := true, dmaEnabled := enabled }

/-- One step of the engine, of the interrupt routine, of the consumer, or of a task
beside it. -/
inductive DmaStep (image : Image) (edi : EpDmaInfo) (task : TaskId) :
    DmaRx → DmaRx → Prop where
  | transfer {s : DmaRx} (packet : UsbPacket) (position status : Word)
      (enabled : Bool)
      (active : ddRetired s.ep.ram (s.ep.current edi) = false)
      (retires : status &&& 1 ≠ 0) :
      DmaStep image edi task s { s with
        ep := s.ep.transfer edi packet position status enabled
        acknowledged := s.acknowledged ++ [packet] }
  | request {s : DmaRx}
      (retired : ddRetired s.ep.ram (s.ep.current edi) = true) :
      DmaStep image edi task s
        { s with ep := { s.ep with nddrIntSt := true } }
  | interrupt {s : DmaRx} {ep : DmaEp} (fuel : Nat)
      (run : tnUsbIntFunc fuel edi (s.ep.setKernel s.kernel.enterIrq) =
        some ep) :
      DmaStep image edi task s
        { s with ep := ep.setKernel ep.kernel.leaveIrq }
  | receive {s : DmaRx} {k : Kernel} {reply : Reply} (fuel : Nat)
      (here : s.consumer = .receive) (runs : s.Runs task)
      (run : tnQueueReceive fuel s.kernel (some edi.queue) true
        tnWaitInfinite = some (k, reply)) :
      DmaStep image edi task s ((s.setKernel k).answered reply)
  | resume {s : DmaRx} (here : s.consumer = .receiving)
      (runs : s.Runs task) :
      DmaStep image edi task s (s.returns (s.kernel.tcb task).taskWaitRc
        (s.kernel.tcb task).dataElem)
  | use {s : DmaRx} {ptr : Word} (here : s.consumer = .processing ptr)
      (runs : s.Runs task) (mem : Word → Word)
      (inside : WritesInside (BitVec.ofNat 32 usbMaxPacket0) [ptr]
        s.kernel.mem mem) :
      DmaStep image edi task s (s.setKernel (s.kernel.setMem mem))
  | release {s : DmaRx} {ptr : Word} {k : Kernel} {reply : Reply}
      (fuel : Nat) (here : s.consumer = .processing ptr)
      (runs : s.Runs task)
      (run : tnFmemRelease fuel s.kernel (some edi.memPool) ptr =
        some (k, reply)) :
      DmaStep image edi task s
        { s.setKernel k with consumer := .enable }
  | enable {s : DmaRx} (here : s.consumer = .enable) (runs : s.Runs task) :
      DmaStep image edi task s { s with
        ep := { s.ep with dmaEnabled := true }
        consumer := .receive }
  | aside {s : DmaRx} {k : Kernel} {action : Action}
      (step : Step image image.Aside s.kernel action k) :
      DmaStep image edi task s (s.setKernel k)

/-- A run: the queue and the pool are created in any state that a run without
timeouts reaches, and the descriptors have been initialised. -/
inductive DmaRun (image : Image) (edi : EpDmaInfo) (task : TaskId) :
    DmaRx → Prop where
  | start {k k₁ k₂ : Kernel} {cells : Int → Word} {startAddr : Word}
      (notIdle : task ≠ image.idleTask)
      (reachable : Reachable image image.Untimed k)
      (queue : Step image image.Untimed k
        (.call (.queueCreate (some edi.queue) (some cells)
          edi.epDmaAddr.nbuffers) (.ret .noErr)) k₁)
      (pool : Step image image.Untimed k₁
        (.call (.fmemCreate (some edi.memPool) startAddr
          (BitVec.ofNat 32 usbMaxPacket0) edi.epDmaAddr.nbuffers)
          (.ret .noErr)) k₂)
      (fits : Fits startAddr (BitVec.ofNat 32 usbMaxPacket0)
        edi.epDmaAddr.nbuffers)
      (all : (k₂.fmp edi.memPool).numBlocks = edi.epDmaAddr.nbuffers)
      (irqEnabled : k₂.irqDisabled = false) (ram : Word → Word) :
      DmaRun image edi task {
        ep := ⟨k₂, tnUsbDmaRxInit edi.toEpDmaTable ram, false, false, false⟩
        consumer := .receive
        acknowledged := []
        received := [] }
  | next {s s' : DmaRx} (before : DmaRun image edi task s)
      (step : DmaStep image edi task s s') : DmaRun image edi task s'

end UsbBulk
