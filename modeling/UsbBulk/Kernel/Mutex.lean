import UsbBulk.Kernel.Objects

/-!
# Mutexes (`tn_mutex.c`)

The services of mutexes, except the deletion.  The searches through lists are
loops with a bound on their rounds.
-/

namespace UsbBulk

def Kernel.isMutex (k : Kernel) (mutex : MutexId) : Bool :=
  (k.mutex mutex).idMutex = tnIdMutex

def tnMutexCreate (k : Kernel) (mutex : Option MutexId) (attr : Word)
    (ceilPriority : Int) : Outcome :=
  match mutex with
  | none => some (k, .ret .wrongParam)
  | some mutex =>
      if (k.mutex mutex).idMutex ≠ 0 then some (k, .ret .wrongParam)
      else if attr ≠ tnMutexAttrCeiling ∧
          attr ≠ tnMutexAttrInherit then
        some (k, .ret .wrongParam)
      else if attr = tnMutexAttrCeiling ∧
          (ceilPriority < 1 ∨ ceilPriority > tnNumPriority - 2) then
        some (k, .ret .wrongParam)
      else
        some ({ k.setMutex mutex {
            attr := attr
            holder := none
            ceilPriority := ceilPriority
            cnt := 0
            idMutex := tnIdMutex } with
          taskLinks := queueReset k.taskLinks (.head (.wait (.mutex mutex)))
          mutexLinks := queueReset k.mutexLinks (.entry mutex)
          lockLinks := queueReset k.lockLinks (.entry mutex) },
          .ret .noErr)

/-! ## Routines -/

/-- The loop of `enable_lock_mutex`, from the node `currQue` on: the answer, and
the holder of the mutex with the lowest ceiling that is in the way. -/
def enableLockFrom (k : Kernel) (currTask : TaskId) :
    Nat → Node Unit MutexId → Bool → Int → Option TaskId →
      Option (Bool × Option TaskId)
  | 0, _, _, _, _ => none
  | fuel + 1, currQue, result, priority, resT => do
      let tmpMutex := k.mutex (← getMutexByLockMutexQueque currQue)
      let blocks : Bool := tmpMutex.attr = tnMutexAttrCeiling ∧
        tmpMutex.holder ≠ some currTask ∧
        tmpMutex.ceilPriority < (k.tcb currTask).priority
      let lower : Bool := blocks && tmpMutex.ceilPriority > priority
      let result := result && !blocks
      let priority := if lower then tmpMutex.ceilPriority else priority
      let resT := if lower then tmpMutex.holder else resT
      if k.lockLinks.next currQue = .head () then some (result, resT)
      else
        enableLockFrom k currTask fuel (k.lockLinks.next currQue) result
          priority resT

def enableLockMutex (fuel : Nat) (k : Kernel) (currTask : TaskId) :
    Option (Bool × Option TaskId) :=
  if isQueueEmpty k.lockLinks (.head ()) then some (true, none)
  else
    enableLockFrom k currTask fuel (k.lockLinks.next (.head ())) true 0 none

/-- The loop of `remove_task_from_blocked_list`. -/
def removeBlockedFrom (k : Kernel) (task : TaskId) :
    Nat → Node Unit TaskId → Option Kernel
  | 0, _ => none
  | fuel + 1, currQue =>
      if currQue = .entry task then
        some { k with
          blockLinks := queueRemoveEntry k.blockLinks (.entry task) }
      else if k.blockLinks.next currQue = .head () then some k
      else removeBlockedFrom k task fuel (k.blockLinks.next currQue)

def removeTaskFromBlockedList (fuel : Nat) (k : Kernel) (task : TaskId) :
    Option Kernel :=
  removeBlockedFrom k task fuel (k.blockLinks.next (.head ()))

/-- Make a task the holder of a mutex and put the mutex into its list. -/
def takeMutex (k : Kernel) (task : TaskId) (mutex : MutexId) : Kernel :=
  { k.setMutex mutex { k.mutex mutex with holder := some task } with
    mutexLinks := queueAddTail k.mutexLinks (.head task) (.entry mutex) }

/-- The same for a mutex with a ceiling, which is also listed as locked. -/
def takeCeilingMutex (k : Kernel) (task : TaskId) (mutex : MutexId) :
    Kernel :=
  let k := k.setTcb task { k.tcb task with blkTask := none }
  { takeMutex k task mutex with
    lockLinks := queueAddTail k.lockLinks (.head ()) (.entry mutex) }

def tryLockMutex (fuel : Nat) (k : Kernel) (task : TaskId) :
    Option (Kernel × Bool) := do
  let mutex ← getMutexByWaitQueque (k.tcb task).pwaitQueue
  if (k.mutex mutex).holder = none then
    let (enabled, _) ← enableLockMutex fuel k task
    if enabled then
      let k := { k with
        taskLinks := queueRemoveEntry k.taskLinks (.entry task)
        blockLinks := queueRemoveEntry k.blockLinks (.entry task) }
      let (k, woken) ← taskWaitComplete fuel k task
      some (takeCeilingMutex k task mutex, woken)
    else some (k, false)
  else some (k, false)

/-- The loop of `do_unlock_mutex` over the mutexes that the running task still
locks. -/
def maxHeldPriority (fuel : Nat) (k : Kernel) :
    Nat → Node TaskId MutexId → Nat → Option Nat
  | 0, _, _ => none
  | rounds + 1, currQue, pr => do
      let tmpMutex ← getMutexByMutexQueque currQue
      let pr ← findMaxBlockedPriority fuel k tmpMutex pr
      if k.mutexLinks.next currQue = .head k.tnCurrRunTask then some pr
      else maxHeldPriority fuel k rounds (k.mutexLinks.next currQue) pr

/-- The first part of `do_unlock_mutex`: the priority of the running task once
the mutex is out of its list. -/
def unlockPriority (fuel : Nat) (k : Kernel) (mutex : MutexId) :
    Option (Kernel × Bool) :=
  let curr := k.tnCurrRunTask
  if isQueueEmpty k.mutexLinks (.head curr) then
    setCurrentPriority fuel k curr (k.tcb curr).basePriority
  else if (k.mutex mutex).attr = tnMutexAttrInherit ∨
      (k.mutex mutex).attr = tnMutexAttrCeiling then do
    let pr ← maxHeldPriority fuel k fuel (k.mutexLinks.next (.head curr))
      (k.tcb curr).basePriority
    if pr ≠ (k.tcb curr).priority then setCurrentPriority fuel k curr pr
    else some (k, false)
  else some (k, false)

/-- The loop of `do_unlock_mutex` that looks for the waiting task with the
highest priority. -/
def highestWaiter (k : Kernel) (mutex : MutexId) :
    Nat → Node QueueHead TaskId → Option TaskId → Nat →
      Option (Option TaskId)
  | 0, _, _, _ => none
  | fuel + 1, currQue, hiPriTask, priority => do
      let task ← getTaskByTskQueue currQue
      let higher : Bool := (k.tcb task).priority < priority
      let hiPriTask := if higher then some task else hiPriTask
      let priority := if higher then (k.tcb task).priority else priority
      if k.taskLinks.next currQue = .head (.wait (.mutex mutex)) then
        some hiPriTask
      else
        highestWaiter k mutex fuel (k.taskLinks.next currQue) hiPriTask
          priority

/-- The second part of `do_unlock_mutex`: the mutex goes to a waiting task, or
becomes free.  The last component is `hi_pri_task`. -/
def handOver (fuel : Nat) (k : Kernel) (mutex : MutexId) :
    Option (Kernel × Bool × Option TaskId) :=
  if k.noWaiters (.mutex mutex) then
    some (k.setMutex mutex { k.mutex mutex with holder := none }, false,
      some k.tnCurrRunTask)
  else if (k.mutex mutex).attr = tnMutexAttrCeiling then do
    let found ← highestWaiter k mutex fuel
      (k.taskLinks.next (.head (.wait (.mutex mutex)))) none
      (tnNumPriority - 1)
    let hiPriTask ← found
    let (enabled, blkTask) ← enableLockMutex fuel k hiPriTask
    if enabled then
      let k := { k with
        taskLinks := queueRemoveEntry k.taskLinks (.entry hiPriTask) }
      let k ← removeTaskFromBlockedList fuel k hiPriTask
      let (k, woken) ← taskWaitComplete fuel k hiPriTask
      some (takeCeilingMutex k hiPriTask mutex, woken, some hiPriTask)
    else
      let listed ← queueContainsEntry k.blockLinks (.head ())
        (.entry hiPriTask) fuel (k.blockLinks.next (.head ()))
      if listed then some (k, false, some hiPriTask)
      else
        some ({ k.setTcb hiPriTask { k.tcb hiPriTask with
            taskWaitReason := .mutexCBlk, blkTask := blkTask } with
          blockLinks := queueAddTail k.blockLinks (.head ())
            (.entry hiPriTask) }, false, some hiPriTask)
  else if (k.mutex mutex).attr = tnMutexAttrInherit then do
    let (k, task) ← removeWaiter k (.mutex mutex)
    let (k, woken) ← taskWaitComplete fuel k task
    some (takeMutex k task mutex, woken, none)
  else some (k, false, none)

/-- The loop at the end of `do_unlock_mutex` over `tn_blocked_tasks_list`. -/
def retryBlocked (fuel : Nat) (hiPriTask : Option TaskId) :
    Nat → Kernel → Node Unit TaskId → Bool → Option (Kernel × Bool)
  | 0, _, _, _ => none
  | rounds + 1, k, currQue, needSwitch => do
      let tmpTask ← getTaskByBlockQueque currQue
      let (k, woken) ←
        if some tmpTask ≠ hiPriTask then tryLockMutex fuel k tmpTask
        else some (k, false)
      if k.blockLinks.next currQue = .head () then
        some (k, needSwitch || woken)
      else
        retryBlocked fuel hiPriTask rounds k (k.blockLinks.next currQue)
          (needSwitch || woken)

def doUnlockMutex (fuel : Nat) (k : Kernel) (mutex : MutexId) :
    Option (Kernel × Bool) := do
  let k := { k with
    mutexLinks := queueRemoveEntry k.mutexLinks (.entry mutex)
    lockLinks := queueRemoveEntry k.lockLinks (.entry mutex) }
  let (k, lowered) ← unlockPriority fuel k mutex
  let (k, woken, hiPriTask) ← handOver fuel k mutex
  if (k.mutex mutex).holder = none ∧
      (k.mutex mutex).attr = tnMutexAttrCeiling then
    retryBlocked fuel hiPriTask fuel k (k.blockLinks.next (.head ()))
      (lowered || woken)
  else some (k, lowered || woken)

/-! ## Services -/

/-- The base priority inheritance protocol: the holder of the mutex, or the
task that is in the way, runs at least at the priority of the running task. -/
def inheritPriority (fuel : Nat) (k : Kernel) (holder : TaskId) :
    Option Kernel :=
  let priority := (k.tcb k.tnCurrRunTask).priority
  if priority < (k.tcb holder).priority then do
    let (k, _) ← setCurrentPriority fuel k holder priority
    some k
  else some k

/-- A task may lock neither a mutex that it holds nor one with a ceiling below
its base priority. -/
def Kernel.lockIllegal (k : Kernel) (mutex : MutexId) : Bool :=
  (k.mutex mutex).holder = some k.tnCurrRunTask ∨
    ((k.mutex mutex).attr = tnMutexAttrCeiling ∧
      ((k.tcb k.tnCurrRunTask).basePriority : Int) <
        (k.mutex mutex).ceilPriority)

/-- The critical section of `tn_mutex_lock`. -/
def mutexLockBody (fuel : Nat) (k : Kernel) (timeout : Word)
    (mutex : MutexId) : Outcome :=
  let curr := k.tnCurrRunTask
  let wait := fun (k : Kernel) (reason : WaitReason) => do
    let k ← taskCurrToWaitAction k (some (.mutex mutex)) reason timeout
    some (k, Reply.block)
  if k.lockIllegal mutex then some (k, .ret .iluse)
  else if (k.mutex mutex).attr = tnMutexAttrCeiling then
    match (k.mutex mutex).holder with
    | none => do
        let (enabled, blkTask) ← enableLockMutex fuel k curr
        if enabled then some (takeCeilingMutex k curr mutex, .ret .noErr)
        else
          let k ← match blkTask with
            | some blkTask => inheritPriority fuel k blkTask
            | none => some k
          let k := { k.setTcb curr { k.tcb curr with blkTask := blkTask } with
            blockLinks := queueAddTail k.blockLinks (.head ())
              (.entry curr) }
          wait k .mutexCBlk
    | some holder => do
        let k ← inheritPriority fuel k holder
        wait k .mutexC
  else if (k.mutex mutex).attr = tnMutexAttrInherit then
    match (k.mutex mutex).holder with
    | none => some (takeMutex k curr mutex, .ret .noErr)
    | some holder => do
        let k ← inheritPriority fuel k holder
        wait k .mutexI
  else some (k, .ret .noErr)

def tnMutexLock (fuel : Nat) (k : Kernel) (mutex : Option MutexId)
    (timeout : Word) : Outcome :=
  checked k mutex (fun _ => timeout = 0) k.isMutex k.wrongNonIntContext
    (mutexLockBody fuel k timeout)

/-- The critical section of `tn_mutex_lock_polling`. -/
def mutexLockPollingBody (fuel : Nat) (k : Kernel) (mutex : MutexId) :
    Outcome :=
  let curr := k.tnCurrRunTask
  if k.lockIllegal mutex then some (k, .ret .iluse)
  else if (k.mutex mutex).holder = none then
    if (k.mutex mutex).attr = tnMutexAttrCeiling then do
      let (enabled, _) ← enableLockMutex fuel k curr
      if enabled then some (takeCeilingMutex k curr mutex, .ret .noErr)
      else some (k, .ret .timeout)
    else if (k.mutex mutex).attr = tnMutexAttrInherit then
      some (takeMutex k curr mutex, .ret .noErr)
    else some (k, .ret .noErr)
  else some (k, .ret .timeout)

def tnMutexLockPolling (fuel : Nat) (k : Kernel) (mutex : Option MutexId) :
    Outcome :=
  checked k mutex (fun _ => false) k.isMutex k.wrongNonIntContext
    (mutexLockPollingBody fuel k)

/-- The critical section of `tn_mutex_unlock`. -/
def mutexUnlockBody (fuel : Nat) (k : Kernel) (mutex : MutexId) : Outcome :=
  if (k.mutex mutex).holder ≠ some k.tnCurrRunTask then
    some (k, .ret .iluse)
  else do
    let (k, needSwitch) ← doUnlockMutex fuel k mutex
    some (k, .retSwitch .noErr needSwitch)

def tnMutexUnlock (fuel : Nat) (k : Kernel) (mutex : Option MutexId) :
    Outcome :=
  checked k mutex (fun _ => false) k.isMutex k.wrongNonIntContext
    (mutexUnlockBody fuel k)

end UsbBulk
