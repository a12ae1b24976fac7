import UsbBulk.Kernel.Mutex

/-!
# Start of the system and the timer tick (`tn.c`)
-/

namespace UsbBulk

/-- What the linker decides: where the two system tasks, their functions and
their stacks are. -/
structure Image where
  timerTask : TaskId
  idleTask : TaskId
  distinct : timerTask ≠ idleTask
  timerTaskFunc : Word
  idleTaskFunc : Word
  timerTaskStack : Word
  idleTaskStack : Word
  tnTaskExit : Word
  nonNull : timerTaskFunc ≠ 0 ∧ idleTaskFunc ≠ 0 ∧ timerTaskStack ≠ 0 ∧
    idleTaskStack ≠ 0

/-- One layout: the two system tasks first, their code and stacks anywhere. -/
def Image.sample : Image where
  timerTask := 0
  idleTask := 1
  distinct := by decide
  timerTaskFunc := 0x8000
  idleTaskFunc := 0x8040
  timerTaskStack := 0x40000FFC
  idleTaskStack := 0x400011FC
  tnTaskExit := 0x8080
  nonNull := by decide

/-- The arguments for the timer task: priority 0 and a stack of 64 words. -/
def Image.timerParams (image : Image) : TaskParams where
  taskFunc := image.timerTaskFunc
  priority := 0
  taskStackStart := image.timerTaskStack
  taskStackSize := 64
  param := 0
  option := tnTaskTimer

/-- The arguments for the idle task: the last priority and a stack of 48
words. -/
def Image.idleParams (image : Image) : TaskParams where
  taskFunc := image.idleTaskFunc
  priority := tnNumPriority - 1
  taskStackStart := image.idleTaskStack
  taskStackSize := 48
  param := 0
  option := tnTaskIdle

/-- The loop of `tn_start_system` over the ready lists. -/
def resetReadyLists : Nat → Kernel → Kernel
  | 0, k => k
  | i + 1, k =>
      let k := resetReadyLists i k
      { k with
        taskLinks := queueReset k.taskLinks (.head (.ready i))
        tnTsliceTicks := Function.update k.tnTsliceTicks i 0 }

/-- `tn_switch_context` and `tn_switch_context_exit`, as far as the kernel's own
variables go. -/
def tnSwitchContext (k : Kernel) : Option Kernel := do
  let next ← k.tnNextTaskToRun
  some { k with tnCurrRunTask := next }

/-- The lists and the variables that `tn_start_system` sets first. -/
def resetKernel (k : Kernel) : Kernel :=
  let k := resetReadyLists tnNumPriority k
  { k with
    createLinks := queueReset k.createLinks (.head ())
    tnCreatedTasksQty := 0
    tnSystemRunning := false
    tnEnableSwitchContext := true
    tnReadyToRunBmp := 0
    tnContextSwitchRequest := false
    tnIntCounter := 0
    tnNextTaskToRun := none
    lockLinks := queueReset k.lockLinks (.head ())
    blockLinks := queueReset k.blockLinks (.head ())
    timerLinks := queueReset k.timerLinks (.head ()) }

/-- `tn_start_exe` is the last step.  The first task starts with interrupts
enabled. -/
def tnStartSystem (image : Image) (k : Kernel) : Option Kernel := do
  let k := resetKernel k
  let (k, _) ← tnTaskCreate image.tnTaskExit k (some image.timerTask)
    image.timerParams
  let (k, _) ← tnTaskCreate image.tnTaskExit k (some image.idleTask)
    image.idleParams
  let k := taskToRunnable k image.idleTask
  let k := taskToRunnable k image.timerTask
  let k := { k with tnCurrRunTask := image.idleTask }
  let k ← tnSwitchContext { k with tnSystemRunning := true }
  some { k with irqDisabled := false }

/-- The part of the tick that rotates a ready list. -/
def roundRobin (k : Kernel) : Option Kernel :=
  let curr := k.tcb k.tnCurrRunTask
  let priority := curr.priority
  let priQueue := Node.head (.ready priority)
  if k.tnTsliceTicks priority ≠ 0 then
    if curr.tsliceCount + 1 > k.tnTsliceTicks priority then
      let k := k.setTcb k.tnCurrRunTask { curr with tsliceCount := 0 }
      if !isQueueEmpty k.taskLinks priQueue &&
          k.taskLinks.next (k.taskLinks.next priQueue) ≠ priQueue then do
        let (links, currQue) := queueRemoveTail k.taskLinks priQueue
        some { k with taskLinks := queueAddHead links priQueue (← currQue) }
      else some k
    else
      some (k.setTcb k.tnCurrRunTask
        { curr with tsliceCount := curr.tsliceCount + 1 })
  else some k

/-- One round of the loop over `tn_wait_timeout_list`, without the step to the
next node.  `tick_count` is compared with 0 as a signed number and with
`TN_WAIT_INFINITE` as an unsigned one. -/
def tickTask (fuel : Nat) (k : Kernel) (task : TaskId) : Option Kernel :=
  let tickCount := (k.tcb task).tickCount
  if 0 < tickCount.toInt ∧ tickCount ≠ tnWaitInfinite then
    let k := k.setTcb task { k.tcb task with tickCount := tickCount - 1 }
    if tickCount - 1 = 0 then do
      let (k, woken) ← taskWaitComplete fuel k task
      if woken then
        let k := { k with tnContextSwitchRequest := true }
        some (k.setTcb task { k.tcb task with taskWaitRc := .timeout })
      else some k
    else some k
  else some k

/-- The loop over `tn_wait_timeout_list`, from the node `currQue` on. -/
def tickFrom (fuel : Nat) :
    Nat → Kernel → Node Unit TaskId → Option Kernel
  | 0, _, _ => none
  | rounds + 1, k, currQue => do
      let task ← getTaskByTimerQueque currQue
      let k ← tickTask fuel k task
      if k.timerLinks.next currQue = .head () then some k
      else tickFrom fuel rounds k (k.timerLinks.next currQue)

def tnTickIntProcessing (fuel : Nat) (k : Kernel) : Option Kernel :=
  if k.wrongIntContext then some k
  else do
    let k ← roundRobin k
    if !isQueueEmpty k.timerLinks (.head ()) then
      tickFrom fuel fuel k (k.timerLinks.next (.head ()))
    else some k

/-- The values are checked after the interrupts have been disabled, and a refused
call returns without enabling them again. -/
def tnSysTsliceTicks (k : Kernel) (priority value : Int) : Outcome :=
  if k.wrongNonIntContext then some (k, .ret .wcontext)
  else if priority ≤ 0 ∨ priority ≥ tnNumPriority - 1 ∨ value < 0 ∨
      value > 0xFFFE then
    some ({ k with irqDisabled := true }, .ret .wrongParam)
  else
    some ({ k with tnTsliceTicks :=
        Function.update k.tnTsliceTicks priority.toNat value.toNat },
      .ret .noErr)

end UsbBulk
