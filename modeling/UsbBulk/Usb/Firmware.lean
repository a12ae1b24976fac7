import UsbBulk.Usb.TxPipe

/-!
# The firmware (`usb_tst1.c`, `usb_tst2.c` and `tn_user.c`)

Six tasks, five queues and five pools, and the two interrupt routines.  Blocks with
data go through lanes, each of which has a queue and a pool of its own.  The tasks of
the firmware without DMA and of the one with DMA are the same, but for the sizes of
the lanes and the enable bits of the DMA engine.
-/

namespace UsbBulk

/-! ## The objects -/

/-- The tasks that `tn_app_init` creates. -/
inductive AppTask where
  | processing | io | ep2Rx | ep2Tx | ep5Rx | ep5Tx
  deriving DecidableEq

/-- `TASK_PROCESSING_PRIORITY` and its like. -/
def AppTask.priority : AppTask → Int
  | processing => 5
  | io => 11
  | ep2Rx => 9
  | ep2Tx => 8
  | ep5Rx => 7
  | ep5Tx => 6

/-- What may happen beside the firmware with DMA. -/
inductive Bus where
  /-- The bus is reset at any time, and the engine does what it likes to the USB RAM
  and to its interrupt bits, also while the interrupt routine runs. -/
  | wild
  /-- The bus is reset only while the queues from the host have room and no transfer
  waits, and the engine does what it has been told to, and not while the interrupt
  routine runs. -/
  | calm

/-- The two builds of the firmware, `LPC2146_USB` and `LPC2146_USB_DMA`. -/
inductive Build where
  | noDma
  | dma (bus : Bus)

/-- The lanes, named as in `queueEP2RX` and `EP2RXMemPool`. -/
inductive Lane where
  | ep2Rx | ep2Tx | ep5Rx | ep5Tx | epExch
  deriving DecidableEq

namespace Lane

/-- `QUEUE_EP2RX_SIZE` and its like: the entries of the queue, and the blocks of the
pool. -/
def size (build : Build) : Lane → Nat
  | ep2Rx | ep5Rx => 8
  | ep2Tx | ep5Tx =>
      match build with
      | .noDma => 8
      | .dma _ => 7
  | epExch => 16

/-- The bit of the endpoint in `rUSBEpIntSt`. -/
def epIntBit : Lane → Word
  | ep2Rx => 1 <<< 4
  | ep2Tx => 1 <<< 5
  | ep5Rx => 1 <<< 10
  | ep5Tx => 1 <<< 11
  | epExch => 0

/-- Packets come in from the host. -/
def isOut : Lane → Bool
  | ep2Rx | ep5Rx => true
  | ep2Tx | ep5Tx | epExch => false

end Lane

/-- What the linker decides: where the objects and their memory are. -/
structure Board (build : Build) where
  image : Image
  task : AppTask → TaskId
  queue : Lane → DqueId
  memPool : Lane → FmpId
  taskFunc : AppTask → Word
  taskStack : AppTask → Word
  queueMem : Lane → Int → Word
  poolMem : Lane → Word
  task_inj : Function.Injective task
  task_ne_idle : ∀ t, task t ≠ image.idleTask
  task_ne_timer : ∀ t, task t ≠ image.timerTask
  queue_inj : Function.Injective queue
  memPool_inj : Function.Injective memPool
  aligned : ∀ c, alignUp (poolMem c) = poolMem c
  notNull : ∀ c, poolMem c ≠ 0
  bounded : ∀ c, (poolMem c).toNat + usbMaxPacket0 * c.size build < 2 ^ 32
  apart : ∀ c c', c ≠ c' →
    (poolMem c).toNat + usbMaxPacket0 * c.size build ≤ (poolMem c').toNat ∨
      (poolMem c').toNat + usbMaxPacket0 * c'.size build ≤ (poolMem c).toNat

namespace Board

variable {build : Build} (b : Board build)

/-- `gEP2RX_EI` and its like. -/
def ei (c : Lane) : EpInfo := ⟨b.queue c, b.memPool c⟩

def taskParams (t : AppTask) : TaskParams where
  taskFunc := b.taskFunc t
  priority := t.priority
  taskStackStart := b.taskStack t
  taskStackSize := 128
  param := 0
  option := tnTaskStartOnCreation

/-- The calls of `tn_app_init`. -/
def tnAppInit : List Call :=
  [AppTask.processing, .io, .ep2Rx, .ep2Tx, .ep5Rx, .ep5Tx].map
    (fun t => .taskCreate (some (b.task t)) (b.taskParams t)) ++
  [Lane.ep2Rx, .ep2Tx, .ep5Rx, .ep5Tx, .epExch].map
    (fun c => .queueCreate (some (b.queue c)) (some (b.queueMem c))
      (c.size build)) ++
  [Lane.ep2Rx, .ep2Tx, .ep5Rx, .ep5Tx, .epExch].map
    (fun c => .fmemCreate (some (b.memPool c)) (b.poolMem c)
      (BitVec.ofNat 32 usbMaxPacket0) (c.size build))

end Board

/-! ## The tasks -/

/-- Where a task is that receives a block, uses it and releases it. -/
inductive Reader where
  /-- Before `tn_queue_receive`. -/
  | receive
  /-- Inside `tn_queue_receive`, waiting. -/
  | receiving
  /-- With a block that it has not used yet. -/
  | processing (ptr : Word)
  /-- Before `tn_fmem_release`. -/
  | release (ptr : Word)

/-- Where a task is that copies the blocks of one lane into blocks of another one. -/
inductive Relay where
  /-- Before `tn_queue_receive`. -/
  | receive
  /-- Inside `tn_queue_receive`, waiting. -/
  | receiving
  /-- Before `tn_fmem_get`. -/
  | get (ptr1 : Word)
  /-- Inside `tn_fmem_get`, waiting. -/
  | getting (ptr1 : Word)
  /-- Inside `s_memcpy`, after so many words, or before `tn_queue_send`. -/
  | copying (ptr1 ptr : Word) (count : Nat)
  /-- Inside `tn_queue_send`, waiting. -/
  | sending (ptr1 : Word)
  /-- Before `tn_fmem_release`. -/
  | release (ptr1 : Word)
  deriving DecidableEq

/-- The tasks that copy. -/
inductive Relayer where
  | ep2Rx | ep5Tx
  deriving DecidableEq

namespace Relayer

def task : Relayer → AppTask
  | ep2Rx => .ep2Rx
  | ep5Tx => .ep5Tx

/-- The lane that the task receives from. -/
def source : Relayer → Lane
  | ep2Rx => .ep2Rx
  | ep5Tx => .epExch

/-- The lane that the task sends to. -/
def target : Relayer → Lane
  | ep2Rx => .epExch
  | ep5Tx => .ep5Tx

end Relayer

/-- The state of the firmware, with the data that has been put into each lane, and
the data that has left the firmware at the end of a lane. -/
structure Firmware where
  kernel : Kernel
  relay : Relayer → Relay
  ep2Tx : Producer
  ep5Rx : Reader
  device : UsbDevice
  sent : Lane → List (List Word)
  left : Lane → List (List Word)

namespace Firmware

variable (st : Firmware)

def setRelay (r : Relayer) (relay : Relay) : Firmware :=
  { st with relay := Function.update st.relay r relay }

/-- Data is put into a lane. -/
def addSent (c : Lane) (words : List Word) : Firmware :=
  { st with sent := Function.update st.sent c (st.sent c ++ [words]) }

/-- Data leaves the firmware. -/
def addLeft (c : Lane) (words : List Word) : Firmware :=
  { st with left := Function.update st.left c (st.left c ++ [words]) }

/-- The task runs. -/
structure Runs (task : TaskId) : Prop where
  current : st.kernel.tnCurrRunTask = task
  runnable : (st.kernel.tcb task).taskState = .runnable

end Firmware

/-- The word with this number is copied. -/
def copyWord (mem : Word → Word) (ptr ptr1 : Word) (i : Nat) : Word → Word :=
  Function.update mem (wordAt ptr i) (mem (wordAt ptr1 i))

namespace Board

variable {build : Build} (b : Board build) (fuel : Nat)

/-- The next call of a task that copies, or the next word of `s_memcpy`.  What
`tn_queue_send` and `tn_fmem_release` return is not looked at. -/
def relayFunc (r : Relayer) (st : Firmware) : Option Firmware :=
  let tcb := st.kernel.tcb (b.task r.task)
  match st.relay r with
  | .receive => do
      let (k, reply) ← tnQueueReceive fuel st.kernel
        (some (b.queue r.source)) true tnWaitInfinite
      let st := { st with kernel := k }
      match reply.rc with
      | none => some (st.setRelay r .receiving)
      | some .noErr => some (st.setRelay r (.get (← reply.value)))
      | some _ => some (st.setRelay r .receive)
  | .receiving =>
      some (st.setRelay r
        (if tcb.taskWaitRc = .noErr then .get tcb.dataElem else .receive))
  | .get ptr1 => do
      let (k, reply) ← tnFmemGet st.kernel (some (b.memPool r.target)) true
        tnWaitInfinite
      let st := { st with kernel := k }
      match reply.rc with
      | none => some (st.setRelay r (.getting ptr1))
      | some .noErr =>
          some (st.setRelay r (.copying ptr1 (← reply.value) 0))
      | some _ => some (st.setRelay r (.release ptr1))
  | .getting ptr1 =>
      some (st.setRelay r
        (if tcb.taskWaitRc = .noErr then .copying ptr1 tcb.dataElem 0
        else .release ptr1))
  | .copying ptr1 ptr count =>
      if count < usbMaxPacket0 / 4 then
        some ({ st with
          kernel := st.kernel.setMem
            (copyWord st.kernel.mem ptr ptr1 count) }.setRelay r
              (.copying ptr1 ptr (count + 1)))
      else do
        let (k, reply) ← tnQueueSend fuel st.kernel (some (b.queue r.target))
          ptr tnWaitInfinite
        let st := { st.addSent r.target (payloadAt st.kernel.mem ptr) with
          kernel := k }
        match reply.rc with
        | none => some (st.setRelay r (.sending ptr1))
        | some _ => some (st.setRelay r (.release ptr1))
  | .sending ptr1 => some (st.setRelay r (.release ptr1))
  | .release ptr1 => do
      let (k, _) ← tnFmemRelease fuel st.kernel (some (b.memPool r.source))
        ptr1
      some ({ st with kernel := k }.setRelay r .receive)

def taskEp2RxFunc : Firmware → Option Firmware := b.relayFunc fuel .ep2Rx

def taskEp5TxFunc : Firmware → Option Firmware := b.relayFunc fuel .ep5Tx

/-- The next call of `task_ep2_tx_func`, which fills its block between its calls. -/
def taskEp2TxFunc (st : Firmware) : Option Firmware :=
  let tcb := st.kernel.tcb (b.task .ep2Tx)
  match st.ep2Tx with
  | .get => do
      let (k, reply) ← tnFmemGet st.kernel (some (b.memPool .ep2Tx)) true
        tnWaitInfinite
      let st := { st with kernel := k }
      match reply.rc with
      | none => some { st with ep2Tx := .getting }
      | some .noErr => some { st with ep2Tx := .filling (← reply.value) }
      | some _ => some { st with ep2Tx := .get }
  | .getting =>
      some { st with ep2Tx :=
        if tcb.taskWaitRc = .noErr then .filling tcb.dataElem else .get }
  | .filling ptr => do
      let (k, reply) ← tnQueueSend fuel st.kernel (some (b.queue .ep2Tx)) ptr
        tnWaitInfinite
      let st := { st.addSent .ep2Tx (payloadAt st.kernel.mem ptr) with
        kernel := k }
      match reply.rc with
      | none => some { st with ep2Tx := .sending }
      | some _ => some { st with ep2Tx := .get }
  | .sending => some { st with ep2Tx := .get }

/-- The next call of `task_ep5_rx_func`, or its `s_memcpy`. -/
def taskEp5RxFunc (st : Firmware) : Option Firmware :=
  let tcb := st.kernel.tcb (b.task .ep5Rx)
  match st.ep5Rx with
  | .receive => do
      let (k, reply) ← tnQueueReceive fuel st.kernel (some (b.queue .ep5Rx))
        true tnWaitInfinite
      let st := { st with kernel := k }
      match reply.rc with
      | none => some { st with ep5Rx := .receiving }
      | some .noErr => some { st with ep5Rx := .processing (← reply.value) }
      | some _ => some { st with ep5Rx := .receive }
  | .receiving =>
      some { st with ep5Rx :=
        if tcb.taskWaitRc = .noErr then .processing tcb.dataElem
        else .receive }
  | .processing ptr =>
      some { st.addLeft .ep5Rx (payloadAt st.kernel.mem ptr) with
        ep5Rx := .release ptr }
  | .release ptr => do
      let (k, _) ← tnFmemRelease fuel st.kernel (some (b.memPool .ep5Rx)) ptr
      some { st with kernel := k, ep5Rx := .receive }

end Board

/-! ## The interrupts -/

def devStat : Word := 1 <<< 3
def epSlow : Word := 1 <<< 2
def devStatusRst : Word := 1 <<< 4
def devStatusConCh : Word := 1 <<< 1

/-- What the controller shows while `tn_usb_int_func` runs: `rUSBDevIntSt`, which is
read twice, the answer to `CMD_DEV_STATUS`, `rUSBEpIntSt`, and the packets. -/
structure UsbInterrupt where
  devIntSt : Word
  devStatus : Word
  devIntStNext : Word
  epIntSt : Word
  stp : Option UsbSetupPacket
  incoming : List UsbPacket
  packet : Lane → Option UsbPacket

/-- `tn_usb_int_reset`, but for the registers of the controller. -/
def tnUsbIntReset (udi : UsbDevice) : UsbDevice := tnUsbResetData udi

def tnUsbIntConCh (udi : UsbDevice) : UsbDevice := tnUsbIntReset udi

/-- The first part of `tn_usb_int_func`. -/
def devStatusFunc (usb : UsbInterrupt) (udi : UsbDevice) : UsbDevice :=
  if usb.devIntSt &&& devStat ≠ 0 then
    let udi := if usb.devStatus &&& devStatusRst ≠ 0 then tnUsbIntReset udi
      else udi
    if usb.devStatus &&& devStatusConCh ≠ 0 then tnUsbIntConCh udi else udi
  else udi

/-- EP0 in the second part: the IN interrupt is served only if there is no OUT
interrupt. -/
def ep0IntFunc (fuel : Nat) (usb : UsbInterrupt) (udi : UsbDevice) :
    Option UsbDevice :=
  if usb.epIntSt &&& 1 ≠ 0 then do
    let (udi, _) ← tnUsbEp0RxIntFunc fuel udi usb.stp usb.incoming
    some udi
  else if usb.epIntSt &&& (1 <<< 1) ≠ 0 then some (tnUsbEp0TxIntFunc udi)
  else some udi

namespace Board

variable {build : Build} (b : Board build) (fuel : Nat)

/-- `tn_usb_ep_rx_int` for a lane. -/
def epRxInt (c : Lane) (packet : Option UsbPacket) (st : Firmware) :
    Option Firmware := do
  let (k, read) ← tnUsbEpRxInt fuel (b.ei c) packet st.kernel
  let st := { st with kernel := k }
  some (match packet with
    | some packet => if read then st.addSent c packet.words else st
    | none => st)

/-- `tn_usb_ep_tx_int` for a lane. -/
def epTxInt (c : Lane) (st : Firmware) : Option Firmware := do
  let (k, payload) ← tnUsbEpTxInt fuel (b.ei c) st.kernel
  let st := { st with kernel := k }
  some (match payload with
    | some payload => st.addLeft c payload
    | none => st)

/-- One bulk endpoint in the second part of `tn_usb_int_func`. -/
def epIntFunc (usb : UsbInterrupt) (c : Lane) (st : Firmware) :
    Option Firmware :=
  if usb.epIntSt &&& c.epIntBit ≠ 0 then
    if c.isOut then b.epRxInt fuel c (usb.packet c) st else b.epTxInt fuel c st
  else some st

def tnUsbIntFunc (usb : UsbInterrupt) (st : Firmware) : Option Firmware :=
  let st := { st with device := devStatusFunc usb st.device }
  if usb.devIntStNext &&& epSlow ≠ 0 then do
    let device ← ep0IntFunc fuel usb st.device
    let st ← b.epIntFunc fuel usb .ep2Rx { st with device := device }
    let st ← b.epIntFunc fuel usb .ep2Tx st
    let st ← b.epIntFunc fuel usb .ep5Rx st
    b.epIntFunc fuel usb .ep5Tx st
  else some st

end Board

/-! ## Steps and runs -/

/-- The tasks that only sleep, and how long. -/
inductive Board.Sleeper {build : Build} (b : Board build) :
    TaskId → Word → Prop where
  | processing : b.Sleeper (b.task .processing) 10
  | io : b.Sleeper (b.task .io) 10
  | timer : b.Sleeper b.image.timerTask tnWaitInfinite

/-- What both builds do: one step of a task, of the timer interrupt, or of the
scheduler. -/
inductive CommonStep {build : Build} (b : Board build) :
    Firmware → Firmware → Prop where
  | ep2Rx {st st' : Firmware} (fuel : Nat) (runs : st.Runs (b.task .ep2Rx))
      (run : b.taskEp2RxFunc fuel st = some st') : CommonStep b st st'
  | ep5Tx {st st' : Firmware} (fuel : Nat) (runs : st.Runs (b.task .ep5Tx))
      (run : b.taskEp5TxFunc fuel st = some st') : CommonStep b st st'
  | ep2Tx {st st' : Firmware} (fuel : Nat) (runs : st.Runs (b.task .ep2Tx))
      (run : b.taskEp2TxFunc fuel st = some st') : CommonStep b st st'
  | fill {st : Firmware} {ptr : Word} (here : st.ep2Tx = .filling ptr)
      (runs : st.Runs (b.task .ep2Tx)) (mem : Word → Word)
      (inside : WritesInside (BitVec.ofNat 32 usbMaxPacket0) [ptr]
        st.kernel.mem mem) :
      CommonStep b st { st with kernel := st.kernel.setMem mem }
  | ep5Rx {st st' : Firmware} (fuel : Nat) (runs : st.Runs (b.task .ep5Rx))
      (run : b.taskEp5RxFunc fuel st = some st') : CommonStep b st st'
  | sleep {st : Firmware} {task : TaskId} {timeout : Word} {k : Kernel}
      {reply : Reply} (sleeper : b.Sleeper task timeout)
      (runs : st.Runs task)
      (run : tnTaskSleep st.kernel timeout = some (k, reply)) :
      CommonStep b st { st with kernel := k }
  | timer {st : Firmware} {k : Kernel} (fuel : Nat)
      (run : tnTickIntProcessing fuel st.kernel.enterIrq = some k) :
      CommonStep b st { st with kernel := k.leaveIrq }
  | dispatch {st : Firmware} {k : Kernel}
      (run : tnSwitchContext st.kernel = some k) :
      CommonStep b st { st with kernel := k }

/-- One step of the firmware without DMA. -/
inductive FirmwareStep (b : Board .noDma) : Firmware → Firmware → Prop where
  | common {st st' : Firmware} (step : CommonStep b st st') :
      FirmwareStep b st st'
  | usb {st st' : Firmware} (fuel : Nat) (usb : UsbInterrupt)
      (run : b.tnUsbIntFunc fuel usb
        { st with kernel := st.kernel.enterIrq } = some st') :
      FirmwareStep b st { st' with kernel := st'.kernel.leaveIrq }

/-- The timer task makes these calls, and all of them succeed. -/
def Board.makeCalls {build : Build} (b : Board build) (fuel : Nat) :
    List Call → Kernel → Option Kernel
  | [], k => some k
  | call :: calls, k => do
      let (k, reply) ← call.exec b.image.tnTaskExit fuel k
      if reply.rc = some .noErr then b.makeCalls fuel calls k else none

/-- The state when the timer task has called `tn_app_init` and enables the
interrupts. -/
def Firmware.atStart (k : Kernel) (device : UsbDevice) : Firmware where
  kernel := { k with irqDisabled := false }
  relay _ := .receive
  ep2Tx := .get
  ep5Rx := .receive
  device := device
  sent _ := []
  left _ := []

/-- A run: the system starts, and the timer task calls `tn_app_init`. -/
inductive FirmwareRun (b : Board .noDma) : Firmware → Prop where
  | start {k k₁ k₂ : Kernel} {pbuf descriptors : Word} {mem : Word → Byte}
      (fuel : Nat) (fresh : k.Fresh)
      (start : tnStartSystem b.image k = some k₁)
      (init : b.makeCalls fuel b.tnAppInit k₁ = some k₂) :
      FirmwareRun b (.atStart k₂ (.atStart pbuf descriptors mem))
  | next {st st' : Firmware} (before : FirmwareRun b st)
      (step : FirmwareStep b st st') : FirmwareRun b st'

end UsbBulk
