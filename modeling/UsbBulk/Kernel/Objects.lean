import UsbBulk.Kernel.Tasks

/-!
# Semaphores, event flags, data queues and memory pools

The services of `tn_sem.c`, `tn_event.c`, `tn_dqueue.c` and `tn_mem.c`, except
the deletions.  Where a file has the same service several times (for tasks, for
interrupts, with and without waiting), the common critical section is one
definition and the members differ in what they pass to it.
-/

namespace UsbBulk

/-- `queue_remove_head` on a wait list, and the task found there. -/
def removeWaiter (k : Kernel) (list : WaitList) : Option (Kernel × TaskId) := do
  let (links, que) := queueRemoveHead k.taskLinks (.head (.wait list))
  let task ← getTaskByTskQueue (← que)
  some ({ k with taskLinks := links }, task)

def Kernel.noWaiters (k : Kernel) (list : WaitList) : Bool :=
  isQueueEmpty k.taskLinks (.head (.wait list))

/-! ## Semaphores -/

section Semaphores

def Kernel.isSem (k : Kernel) (sem : SemId) : Bool :=
  (k.sem sem).idSem = tnIdSemaphore

/-- The check `sem->max_count == 0`. -/
def Kernel.semUnusable (k : Kernel) (sem : SemId) : Bool :=
  (k.sem sem).maxCount = 0

/-- A refused creation stores 0 into `max_count`, also through `NULL`. -/
def tnSemCreate (k : Kernel) (sem : Option SemId) (startValue maxVal : Int) :
    Outcome := do
  let sem ← sem
  if maxVal ≤ 0 ∨ startValue < 0 ∨ startValue > maxVal ∨
      (k.sem sem).idSem ≠ 0 then
    some (k.setSem sem { k.sem sem with maxCount := 0 }, .ret .wrongParam)
  else if k.wrongNonIntContext then some (k, .ret .wcontext)
  else
    some ({ k.setSem sem ⟨startValue, maxVal, tnIdSemaphore⟩ with
      taskLinks := queueReset k.taskLinks (.head (.wait (.sem sem))) },
      .ret .noErr)

/-- The critical section of `tn_sem_signal` and `tn_sem_isignal`. -/
def signalBody (fuel : Nat) (k : Kernel) (sem : SemId) : Outcome :=
  if !k.noWaiters (.sem sem) then do
    let (k, task) ← removeWaiter k (.sem sem)
    let (k, woken) ← taskWaitComplete fuel k task
    some (k, .retSwitch .noErr woken)
  else if (k.sem sem).count < (k.sem sem).maxCount then
    some (k.setSem sem { k.sem sem with count := (k.sem sem).count + 1 },
      .ret .noErr)
  else some (k, .ret .overflow)

def tnSemSignal (fuel : Nat) (k : Kernel) (sem : Option SemId) : Outcome :=
  checked k sem k.semUnusable k.isSem k.wrongNonIntContext
    (signalBody fuel k)

def tnSemIsignal (fuel : Nat) (k : Kernel) (sem : Option SemId) : Outcome :=
  checked k sem k.semUnusable k.isSem k.wrongIntContext fun sem =>
    (signalBody fuel k sem).fromInterrupt

/-- The critical section of the three services that take a unit; `taken` is
what they do when there is none. -/
def acquireBody (k : Kernel) (sem : SemId) (taken : Outcome) : Outcome :=
  if (k.sem sem).count ≥ 1 then
    some (k.setSem sem { k.sem sem with count := (k.sem sem).count - 1 },
      .ret .noErr)
  else taken

def tnSemAcquire (k : Kernel) (sem : Option SemId) (timeout : Word) :
    Outcome :=
  checked k sem (fun sem => timeout = 0 || k.semUnusable sem) k.isSem
    k.wrongNonIntContext fun sem => acquireBody k sem do
      let k ← taskCurrToWaitAction k (some (.sem sem)) .sem timeout
      some (k, .block)

def tnSemPolling (k : Kernel) (sem : Option SemId) : Outcome :=
  checked k sem k.semUnusable k.isSem k.wrongNonIntContext fun sem =>
    acquireBody k sem (some (k, .ret .timeout))

def tnSemIpolling (k : Kernel) (sem : Option SemId) : Outcome :=
  checked k sem k.semUnusable k.isSem k.wrongIntContext fun sem =>
    acquireBody k sem (some (k, .ret .timeout))

end Semaphores

/-! ## Event flags -/

section Events

def Kernel.isEvent (k : Kernel) (evf : EventId) : Bool :=
  (k.event evf).idEvent = tnIdEvent

/-- `(flags & mask) != 0`. -/
def Word.has (flags mask : Word) : Bool := flags &&& mask ≠ 0

/-- The attribute is checked once more after the fields have been stored. -/
def tnEventCreate (k : Kernel) (evf : Option EventId) (attr pattern : Word) :
    Outcome :=
  match evf with
  | none => some (k, .ret .wrongParam)
  | some evf =>
      if k.isEvent evf ||
          (!Word.has attr tnEventAttrSingle &&
            !Word.has attr tnEventAttrMulti) then
        some (k, .ret .wrongParam)
      else
        let k := { k with
          taskLinks := queueReset k.taskLinks (.head (.wait (.event evf))) }
        let event := { k.event evf with pattern := pattern, attr := attr }
        if Word.has attr tnEventAttrClr &&
            !Word.has attr tnEventAttrSingle then
          some (k.setEvent evf { event with attr := tnInvalidVal },
            .ret .wrongParam)
        else
          some (k.setEvent evf { event with idEvent := tnIdEvent },
            .ret .noErr)

/-- The release condition of a wait. -/
def eventCond (pattern waitPattern waitMode : Word) : Bool :=
  if Word.has waitMode tnEventWcondOr then pattern &&& waitPattern ≠ 0
  else pattern &&& waitPattern = waitPattern

/-- The critical section of the three services that wait for flags; `unmet`
is what they do while the condition does not hold. -/
def eventWaitBody (k : Kernel) (waitPattern waitMode : Word)
    (unmet : EventId → Outcome) (evf : EventId) : Outcome :=
  let event := k.event evf
  if Word.has event.attr tnEventAttrSingle && !k.noWaiters (.event evf) then
    some (k, .ret .iluse)
  else if eventCond event.pattern waitPattern waitMode then
    let after := if Word.has event.attr tnEventAttrClr then
        { event with pattern := 0 }
      else event
    some (k.setEvent evf after, .retValue event.pattern false)
  else unmet evf

/-- `pFlagsPattern` says whether that pointer is not `NULL`. -/
def tnEventWait (k : Kernel) (evf : Option EventId)
    (waitPattern waitMode : Word) (pFlagsPattern : Bool) (timeout : Word) :
    Outcome :=
  checked k evf
    (fun _ => waitPattern = 0 || !pFlagsPattern || timeout = 0) k.isEvent
    k.wrongNonIntContext <| eventWaitBody k waitPattern waitMode fun evf => do
      let k := k.setTcb k.tnCurrRunTask { k.tcb k.tnCurrRunTask with
        ewaitMode := waitMode, ewaitPattern := waitPattern }
      let k ← taskCurrToWaitAction k (some (.event evf)) .event timeout
      some (k, .block)

def tnEventWaitPolling (k : Kernel) (evf : Option EventId)
    (waitPattern waitMode : Word) (pFlagsPattern : Bool) : Outcome :=
  checked k evf (fun _ => waitPattern = 0 || !pFlagsPattern) k.isEvent
    k.wrongNonIntContext <| eventWaitBody k waitPattern waitMode fun _ =>
      some (k, .ret .timeout)

def tnEventIwait (k : Kernel) (evf : Option EventId)
    (waitPattern waitMode : Word) (pFlagsPattern : Bool) : Outcome :=
  checked k evf (fun _ => waitPattern = 0 || !pFlagsPattern) k.isEvent
    k.wrongIntContext <| eventWaitBody k waitPattern waitMode fun _ =>
      some (k, .ret .timeout)

/-- The loop of `scan_event_waitqueue`; `que` is the node it has reached and
`wcflag` whether a task has become runnable so far. -/
def scanFrom (fuel : Nat) (evf : EventId) :
    Nat → Kernel → Node QueueHead TaskId → Bool → Option (Kernel × Bool)
  | 0, _, _, _ => none
  | rounds + 1, k, que, wcflag => do
      let task ← getTaskByTskQueue que
      let tcb := k.tcb task
      let pattern := (k.event evf).pattern
      let next := k.taskLinks.next que
      let last : Bool := next = .head (.wait (.event evf))
      if eventCond pattern tcb.ewaitPattern tcb.ewaitMode then
        let k := { k with taskLinks := queueRemoveEntry k.taskLinks que }
        let k := k.setTcb task { k.tcb task with ewaitPattern := pattern }
        let (k, woken) ← taskWaitComplete fuel k task
        if last then some (k, wcflag || woken)
        else scanFrom fuel evf rounds k next (wcflag || woken)
      else if last then some (k, wcflag)
      else scanFrom fuel evf rounds k next wcflag

def scanEventWaitqueue (fuel : Nat) (k : Kernel) (evf : EventId) :
    Option (Kernel × Bool) :=
  scanFrom fuel evf fuel k (k.taskLinks.next (.head (.wait (.event evf))))
    false

/-- The critical section of `tn_event_set` and `tn_event_iset`. -/
def eventSetBody (fuel : Nat) (k : Kernel) (pattern : Word) (evf : EventId) :
    Outcome :=
  let k := k.setEvent evf { k.event evf with
    pattern := (k.event evf).pattern ||| pattern }
  if !k.noWaiters (.event evf) then do
    let (k, wcflag) ← scanEventWaitqueue fuel k evf
    if wcflag then
      let event := k.event evf
      let k := if Word.has event.attr tnEventAttrClr then
          k.setEvent evf { event with pattern := 0 }
        else k
      some (k, .retSwitch .noErr true)
    else some (k, .ret .noErr)
  else some (k, .ret .noErr)

def tnEventSet (fuel : Nat) (k : Kernel) (evf : Option EventId)
    (pattern : Word) : Outcome :=
  checked k evf (fun _ => pattern = 0) k.isEvent k.wrongNonIntContext
    (eventSetBody fuel k pattern)

def tnEventIset (fuel : Nat) (k : Kernel) (evf : Option EventId)
    (pattern : Word) : Outcome :=
  checked k evf (fun _ => pattern = 0) k.isEvent k.wrongIntContext fun evf =>
    (eventSetBody fuel k pattern evf).fromInterrupt

/-- The critical section of `tn_event_clear` and `tn_event_iclear`. -/
def eventClearBody (k : Kernel) (pattern : Word) (evf : EventId) : Outcome :=
  some (k.setEvent evf { k.event evf with
    pattern := (k.event evf).pattern &&& pattern }, .ret .noErr)

def tnEventClear (k : Kernel) (evf : Option EventId) (pattern : Word) :
    Outcome :=
  checked k evf (fun _ => pattern = 0xFFFFFFFF) k.isEvent
    k.wrongNonIntContext (eventClearBody k pattern)

def tnEventIclear (k : Kernel) (evf : Option EventId) (pattern : Word) :
    Outcome :=
  checked k evf (fun _ => pattern = 0xFFFFFFFF) k.isEvent
    k.wrongIntContext (eventClearBody k pattern)

end Events

/-! ## Data queues -/

section DataQueues

def Kernel.isDque (k : Kernel) (dque : DqueId) : Bool :=
  (k.dque dque).idDque = tnIdDataqueue

def tnQueueCreate (k : Kernel) (dque : Option DqueId)
    (dataFifo : Option (Int → Word)) (numEntries : Int) : Outcome :=
  match dque with
  | none => some (k, .ret .wrongParam)
  | some dque =>
      if numEntries < 0 || k.isDque dque then some (k, .ret .wrongParam)
      else
        let links := queueReset k.taskLinks (.head (.wait (.dqueSend dque)))
        let links := queueReset links (.head (.wait (.dqueReceive dque)))
        some ({ k.setDque dque {
            dataFifo := dataFifo
            numEntries := if dataFifo.isNone then 0 else numEntries
            tailCnt := 0
            headerCnt := 0
            idDque := tnIdDataqueue } with taskLinks := links },
          .ret .noErr)

/-- The critical section of the three sending services; `full` is what they do
when nobody waits for the element and the array does not take it. -/
def queueSendBody (fuel : Nat) (k : Kernel) (dataPtr : Word)
    (full : Kernel → DqueId → Outcome) (dque : DqueId) : Outcome :=
  if !k.noWaiters (.dqueReceive dque) then do
    let (k, task) ← removeWaiter k (.dqueReceive dque)
    let k := k.setTcb task { k.tcb task with dataElem := dataPtr }
    let (k, woken) ← taskWaitComplete fuel k task
    some (k, .retSwitch .noErr woken)
  else
    let (after, rc) := dqueFifoWrite (k.dque dque) dataPtr
    let k := k.setDque dque after
    if rc ≠ .noErr then full k dque else some (k, .ret .noErr)

def tnQueueSend (fuel : Nat) (k : Kernel) (dque : Option DqueId)
    (dataPtr timeout : Word) : Outcome :=
  checked k dque (fun _ => timeout = 0) k.isDque k.wrongNonIntContext <|
    queueSendBody fuel k dataPtr fun k dque => do
      let k := k.setTcb k.tnCurrRunTask
        { k.tcb k.tnCurrRunTask with dataElem := dataPtr }
      let k ← taskCurrToWaitAction k (some (.dqueSend dque)) .dqueWsend timeout
      some (k, .block)

def tnQueueSendPolling (fuel : Nat) (k : Kernel) (dque : Option DqueId)
    (dataPtr : Word) : Outcome :=
  checked k dque (fun _ => false) k.isDque k.wrongNonIntContext <|
    queueSendBody fuel k dataPtr fun k _ => some (k, .ret .timeout)

def tnQueueIsendPolling (fuel : Nat) (k : Kernel) (dque : Option DqueId)
    (dataPtr : Word) : Outcome :=
  checked k dque (fun _ => false) k.isDque k.wrongIntContext fun dque =>
    (queueSendBody fuel k dataPtr (fun k _ => some (k, .ret .timeout))
      dque).fromInterrupt

/-- The critical section of the three receiving services; `empty` is what they
do when there is neither an element nor a sender. -/
def queueReceiveBody (fuel : Nat) (k : Kernel)
    (empty : Kernel → DqueId → Outcome) (dque : DqueId) : Outcome :=
  let (after, rc, value) := dqueFifoRead (k.dque dque)
  let k := k.setDque dque after
  if rc = .noErr then
    if !k.noWaiters (.dqueSend dque) then do
      let (k, task) ← removeWaiter k (.dqueSend dque)
      let k := k.setDque dque
        (dqueFifoWrite (k.dque dque) (k.tcb task).dataElem).1
      let (k, woken) ← taskWaitComplete fuel k task
      some (k, ⟨some .noErr, value, woken⟩)
    else some (k, ⟨some .noErr, value, false⟩)
  else if !k.noWaiters (.dqueSend dque) then do
    let (k, task) ← removeWaiter k (.dqueSend dque)
    let elem := (k.tcb task).dataElem
    let (k, woken) ← taskWaitComplete fuel k task
    some (k, .retValue elem woken)
  else empty k dque

/-- `dataPtr` says whether that pointer is not `NULL`. -/
def tnQueueReceive (fuel : Nat) (k : Kernel) (dque : Option DqueId)
    (dataPtr : Bool) (timeout : Word) : Outcome :=
  checked k dque (fun _ => timeout = 0 || !dataPtr) k.isDque
    k.wrongNonIntContext <| queueReceiveBody fuel k fun k dque => do
      let k ← taskCurrToWaitAction k (some (.dqueReceive dque)) .dqueWreceive
        timeout
      some (k, .block)

def tnQueueReceivePolling (fuel : Nat) (k : Kernel) (dque : Option DqueId)
    (dataPtr : Bool) : Outcome :=
  checked k dque (fun _ => !dataPtr) k.isDque k.wrongNonIntContext <|
    queueReceiveBody fuel k fun k _ => some (k, .ret .timeout)

def tnQueueIreceive (fuel : Nat) (k : Kernel) (dque : Option DqueId)
    (dataPtr : Bool) : Outcome :=
  checked k dque (fun _ => !dataPtr) k.isDque k.wrongIntContext fun dque =>
    (queueReceiveBody fuel k (fun k _ => some (k, .ret .timeout))
      dque).fromInterrupt

end DataQueues

/-! ## Memory pools -/

section MemoryPools

def Kernel.isFmp (k : Kernel) (fmp : FmpId) : Bool :=
  (k.fmp fmp).idFmp = tnIdFsmemorypool

/-- `TN_ALIG`. -/
def tnAlig : Word := 4

def alignUp (value : Word) : Word := (value + (tnAlig - 1)) / tnAlig * tnAlig

/-- The loop that gives up the blocks that do not fit: `j` is the end of the
blocks and `i` the end of the memory. -/
def dropBlocks (i blockSize : Word) : Nat → Word → Int → Option Int
  | 0, _, _ => none
  | fuel + 1, j, numBlocks =>
      if j > i then
        dropBlocks i blockSize fuel (j - blockSize) (numBlocks - 1)
      else some numBlocks

/-- The loop that chains the blocks, and the `NULL` in the last one. -/
def chainBlocks (blockSize : Word) :
    Nat → (Word → Word) → Word → (Word → Word)
  | 0, mem, pTmp => Function.update mem pTmp 0
  | count + 1, mem, pTmp =>
      chainBlocks blockSize count
        (Function.update mem pTmp (pTmp + blockSize)) (pTmp + blockSize)

def tnFmemCreate (fuel : Nat) (k : Kernel) (fmp : Option FmpId)
    (startAddr blockSize : Word) (numBlocks : Int) : Outcome :=
  match fmp with
  | none => some (k, .ret .wrongParam)
  | some fmp =>
      let pool := k.fmp fmp
      if k.isFmp fmp then some (k, .ret .wrongParam)
      else if startAddr = 0 ∨ numBlocks < 2 ∨ blockSize < 4 then
        some (k.setFmp fmp { pool with
            fblkcnt := 0, numBlocks := 0, idFmp := 0, freeList := 0 },
          .ret .wrongParam)
      else do
        let k := { k with
          taskLinks := queueReset k.taskLinks (.head (.wait (.fmp fmp))) }
        let pool := { pool with
          startAddr := alignUp startAddr, blockSize := alignUp blockSize }
        let i := startAddr + blockSize * BitVec.ofInt 32 numBlocks
        let j := pool.startAddr + pool.blockSize * BitVec.ofInt 32 numBlocks
        let numBlocks ← dropBlocks i pool.blockSize fuel j numBlocks
        if numBlocks < 2 then
          some (k.setFmp fmp { pool with
              fblkcnt := 0, numBlocks := 0, freeList := 0 },
            .ret .wrongParam)
        else
          let mem := chainBlocks pool.blockSize (numBlocks - 1).toNat k.mem
            pool.startAddr
          some ((k.setFmp fmp { pool with
              numBlocks := numBlocks
              freeList := pool.startAddr
              fblkcnt := numBlocks
              idFmp := tnIdFsmemorypool }).setMem mem, .ret .noErr)

/-- The block taken, or 0. -/
def fmGet (k : Kernel) (fmp : FmpId) : Kernel × Word :=
  let pool := k.fmp fmp
  if pool.fblkcnt > 0 then
    (k.setFmp fmp { pool with
        freeList := k.mem pool.freeList
        fblkcnt := pool.fblkcnt - 1 },
      pool.freeList)
  else (k, 0)

def fmPut (k : Kernel) (fmp : FmpId) (mem : Word) : Kernel × Terr :=
  let pool := k.fmp fmp
  if pool.fblkcnt < pool.numBlocks then
    ((k.setFmp fmp { pool with
        freeList := mem
        fblkcnt := pool.fblkcnt + 1 }).setMem
      (Function.update k.mem mem pool.freeList), .noErr)
  else (k, .overflow)

/-- The critical section of the three services that take a block; `taken` is
what they do when there is none. -/
def fmemGetBody (k : Kernel) (taken : Kernel → FmpId → Outcome)
    (fmp : FmpId) : Outcome :=
  let (k, ptr) := fmGet k fmp
  if ptr ≠ 0 then some (k, .retValue ptr false) else taken k fmp

/-- `pData` says whether that pointer is not `NULL`. -/
def tnFmemGet (k : Kernel) (fmp : Option FmpId) (pData : Bool)
    (timeout : Word) : Outcome :=
  checked k fmp (fun _ => !pData || timeout = 0) k.isFmp
    k.wrongNonIntContext <| fmemGetBody k fun k fmp => do
      let k ← taskCurrToWaitAction k (some (.fmp fmp)) .wfixmem timeout
      some (k, .block)

def tnFmemGetPolling (k : Kernel) (fmp : Option FmpId) (pData : Bool) :
    Outcome :=
  checked k fmp (fun _ => !pData) k.isFmp k.wrongNonIntContext <|
    fmemGetBody k fun k _ => some (k, .ret .timeout)

def tnFmemGetIpolling (k : Kernel) (fmp : Option FmpId) (pData : Bool) :
    Outcome :=
  checked k fmp (fun _ => !pData) k.isFmp k.wrongIntContext <|
    fmemGetBody k fun k _ => some (k, .ret .timeout)

/-- The critical section of both releasing services.  The answer of `fm_put`
is ignored. -/
def fmemReleaseBody (fuel : Nat) (k : Kernel) (pData : Word) (fmp : FmpId) :
    Outcome :=
  if !k.noWaiters (.fmp fmp) then do
    let (k, task) ← removeWaiter k (.fmp fmp)
    let k := k.setTcb task { k.tcb task with dataElem := pData }
    let (k, woken) ← taskWaitComplete fuel k task
    some (k, .retSwitch .noErr woken)
  else some ((fmPut k fmp pData).1, .ret .noErr)

def tnFmemRelease (fuel : Nat) (k : Kernel) (fmp : Option FmpId)
    (pData : Word) : Outcome :=
  checked k fmp (fun _ => pData = 0) k.isFmp k.wrongNonIntContext
    (fmemReleaseBody fuel k pData)

def tnFmemIrelease (fuel : Nat) (k : Kernel) (fmp : Option FmpId)
    (pData : Word) : Outcome :=
  checked k fmp (fun _ => pData = 0) k.isFmp k.wrongIntContext fun fmp =>
    (fmemReleaseBody fuel k pData fmp).fromInterrupt

end MemoryPools

end UsbBulk
