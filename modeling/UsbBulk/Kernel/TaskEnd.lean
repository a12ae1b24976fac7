import UsbBulk.Kernel.System

/-!
# The end of a task (`tn_tasks.c`)

`tn_task_exit`, `tn_task_terminate` and `tn_task_delete`.  The first one does not
come back to its caller: it ends in `tn_switch_context_exit`.
-/

namespace UsbBulk

def tnExitAndDeleteTask : Word := 1

/-- The loop that unlocks all mutexes locked by a task. -/
def unlockAll (fuel : Nat) (task : TaskId) : Nat → Kernel → Option Kernel
  | 0, _ => none
  | rounds + 1, k =>
      if isQueueEmpty k.mutexLinks (.head task) then some k
      else do
        let (links, que) := queueRemoveHead k.mutexLinks (.head task)
        let mutex ← getMutexByMutexQueque (← que)
        let (k, _) ← doUnlockMutex fuel { k with mutexLinks := links } mutex
        unlockAll fuel task rounds k

/-- The control block and the stack of a task that starts from the beginning. -/
def resetTask (tnTaskExit : Word) (k : Kernel) (task : TaskId) : Kernel :=
  let k := taskSetDormantState k task
  let (mem, ptrStack) := tnStackInit tnTaskExit k.mem
    (k.tcb task).taskFuncAddr (k.tcb task).stkStart (k.tcb task).taskFuncParam
  { k.setTcb task { k.tcb task with taskStk := ptrStack } with mem := mem }

/-- A pending activation is served. -/
def serveActivation (k : Kernel) (task : TaskId) : Kernel :=
  let tcb := k.tcb task
  taskToRunnable
    (k.setTcb task { tcb with activateCount := tcb.activateCount - 1 }) task

/-- A task is taken out of `tn_create_queue`. -/
def unregisterTask (k : Kernel) (task : TaskId) : Kernel :=
  { k.setTcb task { k.tcb task with idTask := 0 } with
    createLinks := queueRemoveEntry k.createLinks (.entry task)
    tnCreatedTasksQty := k.tnCreatedTasksQty - 1 }

def tnTaskExit (tnTaskExit : Word) (fuel : Nat) (k : Kernel) (attr : Word) :
    Option Kernel :=
  if k.wrongIntContext then some k
  else do
    let task := k.tnCurrRunTask
    let k ← unlockAll fuel task fuel k
    let k ← taskToNonRunnable k task
    let k := resetTask tnTaskExit k task
    let k := if (k.tcb task).activateCount > 0 then serveActivation k task
      else k
    let k := if attr = tnExitAndDeleteTask then unregisterTask k task else k
    tnSwitchContext k

/-- The part of `tn_task_terminate` that takes the task out of the lists for
running and waiting. -/
def leaveQueues (fuel : Nat) (k : Kernel) (task : TaskId) : Option Kernel :=
  if (k.tcb task).taskState = .runnable then taskToNonRunnable k task
  else if (k.tcb task).taskState.isWait then do
    let k := { k with taskLinks := queueRemoveEntry k.taskLinks (.entry task) }
    let listed ← queueContainsEntry k.blockLinks (.head ()) (.entry task) fuel
      (k.blockLinks.next (.head ()))
    let k := if listed then
        { k with blockLinks := queueRemoveEntry k.blockLinks (.entry task) }
      else k
    if (k.tcb task).tickCount ≠ tnWaitInfinite then
      some { k with
        timerLinks := queueRemoveEntry k.timerLinks (.entry task) }
    else some k
  else some k

/-- The critical section of `tn_task_terminate`. -/
def terminateBody (tnTaskExit : Word) (fuel : Nat) (k : Kernel)
    (task : TaskId) : Outcome :=
  if (k.tcb task).taskState = .dormant ∨ k.tnCurrRunTask = task then
    some (k, .ret .wcontext)
  else do
    let k ← leaveQueues fuel k task
    let k ← unlockAll fuel task fuel k
    let k := resetTask tnTaskExit k task
    if (k.tcb task).activateCount > 0 then
      let k := serveActivation k task
      some (k, .retSwitch .noErr k.needSwitch)
    else some (k, .ret .noErr)

def tnTaskTerminate (tnTaskExit : Word) (fuel : Nat) (k : Kernel)
    (task : Option TaskId) : Outcome :=
  onTask k task (terminateBody tnTaskExit fuel k)

def tnTaskDelete (k : Kernel) (task : Option TaskId) : Outcome :=
  onTask k task fun task =>
    if (k.tcb task).taskState ≠ .dormant then some (k, .ret .wcontext)
    else some (unregisterTask k task, .ret .noErr)

end UsbBulk
