import UsbBulk.Usb.Bulk

/-!
# The IN pipe without DMA is a faithful stream

One task fills blocks and sends them (`task_ep2_tx_func`), and the interrupt
routine of the endpoint takes them out of the queue, writes them to the
transmitter and releases them.
-/

namespace UsbBulk

/-! ## The system -/

/-- Where the producer task is in its loop. -/
inductive Producer where
  /-- Before `tn_fmem_get`. -/
  | get
  /-- Inside `tn_fmem_get`, waiting. -/
  | getting
  /-- Between `tn_fmem_get` and `tn_queue_send`. -/
  | filling (ptr : Word)
  /-- Inside `tn_queue_send`, waiting. -/
  | sending
  deriving DecidableEq

/-- The state of the pipe, with the payloads that the producer has passed to
`tn_queue_send`, and those that have been written to the transmitter. -/
structure TxPipe where
  kernel : Kernel
  producer : Producer
  sent : List (List Word)
  written : List (List Word)

namespace TxPipe

variable (st : TxPipe)

/-- `tn_fmem_get` returns. -/
def got (rc : Terr) (ptr : Word) : TxPipe :=
  if rc = .noErr then { st with producer := .filling ptr }
  else { st with producer := .get }

/-- `tn_fmem_get` has answered, or the producer waits in it. -/
def gets (reply : Reply) : TxPipe :=
  match reply.rc with
  | some rc => st.got rc (reply.value.getD 0)
  | none => { st with producer := .getting }

/-- `tn_queue_send` has answered, or the producer waits in it.  What it returns is not
looked at. -/
def sends (reply : Reply) : TxPipe :=
  match reply.rc with
  | some _ => { st with producer := .get }
  | none => { st with producer := .sending }

@[simp] theorem got_kernel (rc : Terr) (ptr : Word) :
    (st.got rc ptr).kernel = st.kernel := by
  unfold got
  split <;> rfl

@[simp] theorem gets_kernel (reply : Reply) :
    (st.gets reply).kernel = st.kernel := by
  unfold gets
  split
  · exact st.got_kernel _ _
  · rfl

@[simp] theorem sends_kernel (reply : Reply) :
    (st.sends reply).kernel = st.kernel := by
  unfold sends
  split <;> rfl

/-- The producer runs. -/
structure Runs (task : TaskId) : Prop where
  current : st.kernel.tnCurrRunTask = task
  runnable : (st.kernel.tcb task).taskState = .runnable

end TxPipe

/-- One step of the producer, of the interrupt routine, or of a task beside them. -/
inductive TxStep (image : Image) (ei : EpInfo) (task : TaskId) :
    TxPipe → TxPipe → Prop where
  | get {st : TxPipe} {k : Kernel} {reply : Reply}
      (here : st.producer = .get) (runs : st.Runs task)
      (run : tnFmemGet st.kernel (some ei.memPool) true tnWaitInfinite =
        some (k, reply)) :
      TxStep image ei task st ({ st with kernel := k }.gets reply)
  | gets {st : TxPipe} (here : st.producer = .getting)
      (runs : st.Runs task) :
      TxStep image ei task st (st.got (st.kernel.tcb task).taskWaitRc
        (st.kernel.tcb task).dataElem)
  | fill {st : TxPipe} {ptr : Word} (here : st.producer = .filling ptr)
      (runs : st.Runs task) (mem : Word → Word)
      (inside : WritesInside (BitVec.ofNat 32 usbMaxPacket0) [ptr]
        st.kernel.mem mem) :
      TxStep image ei task st { st with kernel := st.kernel.setMem mem }
  | send {st : TxPipe} {ptr : Word} {k : Kernel} {reply : Reply}
      (fuel : Nat) (here : st.producer = .filling ptr)
      (runs : st.Runs task)
      (run : tnQueueSend fuel st.kernel (some ei.queue) ptr tnWaitInfinite =
        some (k, reply)) :
      TxStep image ei task st
        ({ st with
          kernel := k
          sent := st.sent ++ [payloadAt st.kernel.mem ptr] }.sends reply)
  | sends {st : TxPipe} (here : st.producer = .sending)
      (runs : st.Runs task) :
      TxStep image ei task st { st with producer := .get }
  | interrupt {st : TxPipe} {k : Kernel} {payload : Option (List Word)}
      (fuel : Nat)
      (run : tnUsbEpTxInt fuel ei st.kernel.enterIrq =
        some (k, payload)) :
      TxStep image ei task st { st with
        kernel := k.leaveIrq
        written := st.written ++ payload.toList }
  | aside {st : TxPipe} {k : Kernel} {action : Action}
      (step : Step image image.Aside st.kernel action k) :
      TxStep image ei task st { st with kernel := k }

/-- A run: the queue and the pool are created in any state that a run without
timeouts reaches. -/
inductive TxRun (image : Image) (ei : EpInfo) (task : TaskId)
    (startAddr : Word) (n : Nat) : TxPipe → Prop where
  | start {k k₁ k₂ : Kernel} {cells : Int → Word}
      (notIdle : task ≠ image.idleTask)
      (reachable : Reachable image image.Untimed k)
      (queue : Step image image.Untimed k
        (.call (.queueCreate (some ei.queue) (some cells) n) (.ret .noErr))
        k₁)
      (pool : Step image image.Untimed k₁
        (.call (.fmemCreate (some ei.memPool) startAddr
          (BitVec.ofNat 32 usbMaxPacket0) n) (.ret .noErr)) k₂)
      (fits : Fits startAddr (BitVec.ofNat 32 usbMaxPacket0) n)
      (all : (k₂.fmp ei.memPool).numBlocks = n)
      (irqEnabled : k₂.irqDisabled = false) :
      TxRun image ei task startAddr n ⟨k₂, .get, [], []⟩
  | next {st st' : TxPipe} (before : TxRun image ei task startAddr n st)
      (step : TxStep image ei task st st') :
      TxRun image ei task startAddr n st'

end UsbBulk
