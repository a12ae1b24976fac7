import UsbBulk.Kernel.Port
import UsbBulk.Kernel.Utils

/-!
# Scheduling primitives and task services (`tn_tasks.c`)

A service is a function from the kernel before the call to the kernel and the
answer after its critical section.  `none` stands for a wild or `NULL` pointer
that the source would follow, or for a loop that `fuel` rounds do not finish.
`tn_switch_context` is not part of the service: the answer records that the
source calls it.  The mask of interrupts that surrounds a critical section is
restored at its end, so it does not show.
-/

namespace UsbBulk

/-! ## The ready lists -/

def findNextTaskToRun (k : Kernel) : Option Kernel :=
  match ffsAsm k.tnReadyToRunBmp with
  | 0 => none
  | tmp + 1 => do
      let task ← getTaskByTskQueue (k.taskLinks.next (.head (.ready tmp)))
      some { k with tnNextTaskToRun := some task }

def taskToNonRunnable (k : Kernel) (task : TaskId) : Option Kernel := do
  let priority := (k.tcb task).priority
  let k := { k with taskLinks := queueRemoveEntry k.taskLinks (.entry task) }
  if isQueueEmpty k.taskLinks (.head (.ready priority)) then
    let k := { k with
      tnReadyToRunBmp := k.tnReadyToRunBmp &&& ~~~ (1#32 <<< priority) }
    if k.tnReadyToRunBmp = 0 then
      some { k with tnNextTaskToRun := none }
    else findNextTaskToRun k
  else if k.tnNextTaskToRun = some task then
    let next ← getTaskByTskQueue (k.taskLinks.next (.head (.ready priority)))
    some { k with tnNextTaskToRun := some next }
  else some k

def taskToRunnable (k : Kernel) (task : TaskId) : Kernel :=
  let priority := (k.tcb task).priority
  let k := k.setTcb task { k.tcb task with
    taskState := .runnable, pwaitQueue := none }
  let k := { k with
    taskLinks := queueAddTail k.taskLinks (.head (.ready priority))
      (.entry task)
    tnReadyToRunBmp := k.tnReadyToRunBmp ||| (1#32 <<< priority) }
  match k.tnNextTaskToRun with
  | none => { k with tnNextTaskToRun := some task }
  | some next =>
      if priority < (k.tcb next).priority then
        { k with tnNextTaskToRun := some task }
      else k

def changeRunningTaskPriority (k : Kernel) (task : TaskId)
    (newPriority : Nat) : Option (Kernel × Bool) := do
  let oldPriority := (k.tcb task).priority
  let k := { k with taskLinks := queueRemoveEntry k.taskLinks (.entry task) }
  let k := { k with
    tnReadyToRunBmp :=
      if isQueueEmpty k.taskLinks (.head (.ready oldPriority)) then
        k.tnReadyToRunBmp &&& ~~~ (1#32 <<< oldPriority)
      else k.tnReadyToRunBmp }
  let k := k.setTcb task { k.tcb task with priority := newPriority }
  let k := { k with
    taskLinks := queueAddTail k.taskLinks (.head (.ready newPriority))
      (.entry task)
    tnReadyToRunBmp := k.tnReadyToRunBmp ||| (1#32 <<< newPriority) }
  if k.tnNextTaskToRun = some task then
    if newPriority ≥ oldPriority then
      let k ← findNextTaskToRun k
      if k.tnNextTaskToRun ≠ some task then
        some (k, k.tnEnableSwitchContext)
      else some (k, false)
    else some (k, false)
  else
    let next ← k.tnNextTaskToRun
    if newPriority < (k.tcb next).priority then
      some ({ k with tnNextTaskToRun := some task }, k.tnEnableSwitchContext)
    else some (k, false)

/-! ## Priorities of mutex holders -/

/-- The loop of `find_max_blocked_priority` over the wait list of a mutex. -/
def maxWaiterPriority (k : Kernel) (mutex : MutexId) :
    Nat → Node QueueHead TaskId → Nat → Option Nat
  | 0, _, _ => none
  | fuel + 1, currQue, priority => do
      let task ← getTaskByTskQueue currQue
      let priority :=
        if (k.tcb task).priority < priority then (k.tcb task).priority
        else priority
      if k.taskLinks.next currQue = .head (.wait (.mutex mutex)) then
        some priority
      else maxWaiterPriority k mutex fuel (k.taskLinks.next currQue) priority

def findMaxBlockedPriority (fuel : Nat) (k : Kernel) (mutex : MutexId)
    (refPriority : Nat) : Option Nat :=
  if (k.mutex mutex).attr = tnMutexAttrInherit ∨
      (k.mutex mutex).attr = tnMutexAttrCeiling then
    if isQueueEmpty k.taskLinks (.head (.wait (.mutex mutex))) then
      some refPriority
    else maxWaiterPriority k mutex fuel
      (k.taskLinks.next (.head (.wait (.mutex mutex)))) refPriority
  else some refPriority

/-- The loop of `set_current_priority`.  `task` is its argument; the walk along
the chain of holders has reached `currTask`. -/
def setPriorityAlong (task : TaskId) :
    Nat → Kernel → TaskId → Nat → Option (Kernel × Bool)
  | 0, _, _, _ => none
  | fuel + 1, k, currTask, newPriority =>
      let curr := k.tcb currTask
      let oldPriority := curr.priority
      let store := k.setTcb task { k.tcb task with priority := newPriority }
      if oldPriority = newPriority then some (k, false)
      else if curr.taskState = .runnable then
        changeRunningTaskPriority k currTask newPriority
      else if curr.taskState.isWait then
        if curr.taskWaitReason.isMutex then do
          let mutex ← getMutexByWaitQueque curr.pwaitQueue
          let holder ←
            if curr.taskWaitReason = .mutexCBlk then curr.blkTask
            else (k.mutex mutex).holder
          let newPriority ←
            if oldPriority < newPriority then
              findMaxBlockedPriority fuel k mutex (k.tcb holder).basePriority
            else some newPriority
          setPriorityAlong task fuel k holder newPriority
        else some (store, false)
      else some (store, false)

def setCurrentPriority (fuel : Nat) (k : Kernel) (task : TaskId)
    (priority : Nat) : Option (Kernel × Bool) :=
  setPriorityAlong task fuel k task priority

/-! ## Ending and starting a wait -/

/-- The last part of `task_wait_complete`: the priority of the task that held
the mutex is calculated again.  The test of `task_wait_reason` comes after the
reason has been reset. -/
def restoreHolderPriority (fuel : Nat) (k : Kernel) (task : TaskId)
    (tQue : Option WaitList) (rc : Bool) : Option (Kernel × Bool) := do
  let mutex ← getMutexByWaitQueque tQue
  let tmpTask :=
    if (k.tcb task).taskWaitReason = .mutexCBlk then (k.tcb task).blkTask
    else (k.mutex mutex).holder
  match tmpTask with
  | none => some (k, rc)
  | some tmpTask =>
      if (k.tcb tmpTask).priority ≠ (k.tcb tmpTask).basePriority ∧
          (k.tcb tmpTask).priority = (k.tcb task).priority then
        let currPriority ← findMaxBlockedPriority fuel k mutex
          (k.tcb tmpTask).basePriority
        let (k, changed) ← setCurrentPriority fuel k tmpTask currPriority
        some (k, rc || changed)
      else some (k, rc)

def taskWaitComplete (fuel : Nat) (k : Kernel) (task : TaskId) :
    Option (Kernel × Bool) :=
  let flMutex := (k.tcb task).taskWaitReason.isMutex
  let tQue := (k.tcb task).pwaitQueue
  let k := k.setTcb task { k.tcb task with
    taskWaitReason := .none, pwaitQueue := none, taskWaitRc := .noErr }
  let k := if (k.tcb task).tickCount ≠ tnWaitInfinite then
      { k with timerLinks := queueRemoveEntry k.timerLinks (.entry task) }
    else k
  let k := k.setTcb task { k.tcb task with tickCount := tnWaitInfinite }
  let (k, rc) :=
    if !(k.tcb task).taskState.isSuspend then (taskToRunnable k task, true)
    else (k.setTcb task { k.tcb task with taskState := .suspend }, false)
  if flMutex then restoreHolderPriority fuel k task tQue rc
  else some (k, rc)

def taskCurrToWaitAction (k : Kernel) (waitQue : Option WaitList)
    (waitReason : WaitReason) (timeout : Word) : Option Kernel := do
  let curr := k.tnCurrRunTask
  let k ← taskToNonRunnable k curr
  let k := k.setTcb curr { k.tcb curr with
    taskState := .wait, taskWaitReason := waitReason, tickCount := timeout }
  let k := match waitQue with
    | none => k
    | some waitQue =>
        { k.setTcb curr { k.tcb curr with pwaitQueue := some waitQue } with
          taskLinks := queueAddTail k.taskLinks (.head (.wait waitQue))
            (.entry curr) }
  if timeout ≠ tnWaitInfinite then
    some { k with
      timerLinks := queueAddTail k.timerLinks (.head ()) (.entry curr) }
  else some k

def taskSetDormantState (k : Kernel) (task : TaskId) : Kernel :=
  let k := { k with
    taskLinks := queueReset k.taskLinks (.entry task)
    timerLinks := queueReset k.timerLinks (.entry task)
    createLinks := queueReset k.createLinks (.entry task)
    mutexLinks := queueReset k.mutexLinks (.head task)
    blockLinks := queueReset k.blockLinks (.entry task) }
  k.setTcb task { k.tcb task with
    pwaitQueue := none
    blkTask := none
    priority := (k.tcb task).basePriority
    taskState := .dormant
    taskWaitReason := .none
    taskWaitRc := .noErr
    ewaitPattern := 0
    ewaitMode := 0
    dataElem := 0
    tickCount := tnWaitInfinite
    wakeupCount := 0
    suspendCount := 0
    tsliceCount := 0 }

/-! ## Task services -/

abbrev Outcome := Option (Kernel × Reply)

/-- A service for interrupts sets `tn_context_switch_request` where its sibling
for tasks calls `tn_switch_context`. -/
def Outcome.fromInterrupt (outcome : Outcome) : Outcome :=
  outcome.map fun (k, reply) =>
    if reply.switch then
      ({ k with tnContextSwitchRequest := true },
        { reply with switch := false })
    else (k, reply)

/-- The condition of the calls of `tn_switch_context` that are not
unconditional. -/
def Kernel.needSwitch (k : Kernel) : Bool :=
  k.tnNextTaskToRun ≠ some k.tnCurrRunTask && k.tnEnableSwitchContext

/-- The checks that open a service: the pointer to the object and the other
arguments, the identity field of the object, the context. -/
def checked (k : Kernel) (object : Option Nat) (badParam : Nat → Bool)
    (valid : Nat → Bool) (wrongContext : Bool) (body : Nat → Outcome) :
    Outcome :=
  match object with
  | none => some (k, .ret .wrongParam)
  | some object =>
      if badParam object then some (k, .ret .wrongParam)
      else if !valid object then some (k, .ret .noexs)
      else if wrongContext then some (k, .ret .wcontext)
      else body object

def Kernel.isTask (k : Kernel) (task : TaskId) : Bool :=
  (k.tcb task).idTask = tnIdTask

/-- The checks of a service for tasks that takes a task and nothing else. -/
def onTask (k : Kernel) (task : Option TaskId) (body : TaskId → Outcome) :
    Outcome :=
  checked k task (fun _ => false) k.isTask k.wrongNonIntContext body

/-- The checks of a service for interrupts that takes a task. -/
def onTaskInt (k : Kernel) (task : Option TaskId)
    (body : TaskId → Outcome) : Outcome :=
  checked k task (fun _ => false) k.isTask k.wrongIntContext body

/-- The arguments of `tn_task_create`; `none` is `NULL`. -/
structure TaskParams where
  taskFunc : Word
  priority : Int
  taskStackStart : Word
  taskStackSize : Int
  param : Word
  option : Word

/-- The loop that fills the stack space, from its bottom down. -/
def fillStack (mem : Word → Word) : Nat → Word → (Word → Word)
  | 0, _ => mem
  | count + 1, ptrStack =>
      fillStack (Function.update mem ptrStack 0xFFFFFFFF) count (ptrStack - 4)

/-- The critical section of `tn_task_create`, but for the start of the task:
the control block, the stack and the place in `tn_create_queue`. -/
def initTask (tnTaskExit : Word) (k : Kernel) (task : TaskId)
    (args : TaskParams) : Kernel :=
  let k := k.setTcb task { k.tcb task with
    taskFuncAddr := args.taskFunc
    taskFuncParam := args.param
    stkStart := args.taskStackStart
    stkSize := args.taskStackSize
    basePriority := args.priority.toNat
    activateCount := 0
    idTask := tnIdTask }
  let k := { k with
    mem := fillStack k.mem args.taskStackSize.toNat args.taskStackStart }
  let k := taskSetDormantState k task
  let (mem, ptrStack) := tnStackInit tnTaskExit k.mem
    (k.tcb task).taskFuncAddr (k.tcb task).stkStart (k.tcb task).taskFuncParam
  let k := k.setTcb task { k.tcb task with taskStk := ptrStack }
  { k with
    mem := mem
    createLinks := queueAddTail k.createLinks (.head ()) (.entry task)
    tnCreatedTasksQty := k.tnCreatedTasksQty + 1 }

def tnTaskCreate (tnTaskExit : Word) (k : Kernel) (task : Option TaskId)
    (args : TaskParams) : Outcome :=
  if (args.priority = 0 ∧ args.option &&& tnTaskTimer = 0) ∨
      (args.priority = tnNumPriority - 1 ∧ args.option &&& tnTaskIdle = 0) then
    some (k, .ret .wrongParam)
  else if args.priority < 0 ∨ args.priority > tnNumPriority - 1 ∨
      args.taskStackSize < tnMinStackSize ∨ args.taskFunc = 0 then
    some (k, .ret .wrongParam)
  else match task with
  | none => some (k, .ret .wrongParam)
  | some task =>
      if args.taskStackStart = 0 ∨ (k.tcb task).idTask ≠ 0 then
        some (k, .ret .wrongParam)
      else if k.wrongNonIntContext then some (k, .ret .wcontext)
      else
        let k := initTask tnTaskExit k task args
        let k := if args.option &&& tnTaskStartOnCreation ≠ 0 then
            taskToRunnable k task
          else k
        some (k, .ret .noErr)

def tnTaskSuspend (k : Kernel) (task : Option TaskId) : Outcome :=
  onTask k task fun task =>
    let tcb := k.tcb task
    if tcb.taskState.isSuspend then some (k, .ret .overflow)
    else if tcb.taskState = .dormant then some (k, .ret .wstate)
    else if task = k.tnCurrRunTask ∧ k.tnEnableSwitchContext = false then
      some (k, .ret .wcontext)
    else if tcb.taskState = .runnable then do
      let k := k.setTcb task { tcb with taskState := .suspend }
      let k ← taskToNonRunnable k task
      some (k, .retSwitch .noErr k.needSwitch)
    else
      some (k.setTcb task { tcb with taskState := tcb.taskState.addSuspend },
        .ret .noErr)

def tnTaskResume (k : Kernel) (task : Option TaskId) : Outcome :=
  onTask k task fun task =>
    let tcb := k.tcb task
    if !tcb.taskState.isSuspend then some (k, .ret .wstate)
    else if !tcb.taskState.isWait then
      let k := taskToRunnable k task
      some (k, .retSwitch .noErr k.needSwitch)
    else
      some (k.setTcb task
        { tcb with taskState := tcb.taskState.removeSuspend }, .ret .noErr)

def tnTaskSleep (k : Kernel) (timeout : Word) : Outcome :=
  if timeout = 0 then some (k, .ret .wrongParam)
  else if k.wrongNonIntContext then some (k, .ret .wcontext)
  else
    let curr := k.tcb k.tnCurrRunTask
    if curr.wakeupCount > 0 then
      some (k.setTcb k.tnCurrRunTask
        { curr with wakeupCount := curr.wakeupCount - 1 }, .ret .noErr)
    else do
      let k ← taskCurrToWaitAction k none .sleep timeout
      some (k, .retSwitch .noErr true)

/-- The critical section of both wake-up services.  The request that finds the
task awake is stored in the running task. -/
def wakeupBody (fuel : Nat) (k : Kernel) (task : TaskId) : Outcome :=
  let tcb := k.tcb task
  if tcb.taskState = .dormant then some (k, .ret .wcontext)
  else if tcb.taskState.isWait && tcb.taskWaitReason = .sleep then do
    let (k, woken) ← taskWaitComplete fuel k task
    some (k, .retSwitch .noErr woken)
  else
    let curr := k.tcb k.tnCurrRunTask
    if curr.wakeupCount = 0 then
      some (k.setTcb k.tnCurrRunTask
        { curr with wakeupCount := curr.wakeupCount + 1 }, .ret .noErr)
    else some (k, .ret .overflow)

def tnTaskWakeup (fuel : Nat) (k : Kernel) (task : Option TaskId) : Outcome :=
  onTask k task (wakeupBody fuel k)

def tnTaskIwakeup (fuel : Nat) (k : Kernel) (task : Option TaskId) : Outcome :=
  onTaskInt k task fun task => (wakeupBody fuel k task).fromInterrupt

/-- The critical section of both activation services. -/
def activateBody (k : Kernel) (task : TaskId) : Outcome :=
  let tcb := k.tcb task
  if tcb.taskState = .dormant then
    let k := taskToRunnable k task
    some (k, .retSwitch .noErr k.needSwitch)
  else if tcb.activateCount = 0 then
    some (k.setTcb task { tcb with activateCount := tcb.activateCount + 1 },
      .ret .noErr)
  else some (k, .ret .overflow)

def tnTaskActivate (k : Kernel) (task : Option TaskId) : Outcome :=
  onTask k task (activateBody k)

def tnTaskIactivate (k : Kernel) (task : Option TaskId) : Outcome :=
  onTaskInt k task fun task => (activateBody k task).fromInterrupt

/-- The critical section of both services that release a task from waiting. -/
def releaseWaitBody (fuel : Nat) (k : Kernel) (task : TaskId) : Outcome :=
  if !(k.tcb task).taskState.isWait then some (k, .ret .wcontext)
  else do
    let (k, woken) ← taskWaitComplete fuel k task
    some (k, .retSwitch .noErr woken)

def tnTaskReleaseWait (fuel : Nat) (k : Kernel) (task : Option TaskId) :
    Outcome :=
  onTask k task (releaseWaitBody fuel k)

def tnTaskIreleaseWait (fuel : Nat) (k : Kernel) (task : Option TaskId) :
    Outcome :=
  onTaskInt k task fun task => (releaseWaitBody fuel k task).fromInterrupt

def tnTaskChangePriority (k : Kernel) (task : Option TaskId)
    (newPriority : Int) : Outcome :=
  match task with
  | none => some (k, .ret .wrongParam)
  | some task =>
      if (k.tcb task).idTask ≠ tnIdTask then some (k, .ret .noexs)
      else if newPriority < 0 ∨ newPriority > tnNumPriority - 2 then
        some (k, .ret .wrongParam)
      else if k.wrongNonIntContext then some (k, .ret .wcontext)
      else
        let tcb := k.tcb task
        let newPriority :=
          if newPriority = 0 then tcb.basePriority else newPriority.toNat
        if tcb.taskState = .dormant then some (k, .ret .wcontext)
        else if tcb.taskState = .runnable then do
          let (k, changed) ← changeRunningTaskPriority k task newPriority
          some (k, .retSwitch .noErr changed)
        else
          some (k.setTcb task { tcb with priority := newPriority },
            .ret .noErr)

end UsbBulk
