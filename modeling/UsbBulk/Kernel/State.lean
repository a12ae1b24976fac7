import Mathlib.Algebra.Group.Nat.Defs
import UsbBulk.CircularList

/-!
# Data of the kernel

The control blocks and global variables of `tn.h` and `tn.c`.

Pointers to control blocks are identifiers, and `NULL` is `none`.  The link
fields of the control blocks are kept apart from their other fields, one store
of links for each kind of link field: a `task_queue` field is only ever linked
with the ready lists and the wait lists, a `timer_queue` field only with
`tn_wait_timeout_list`, and so on.
-/

namespace UsbBulk

/-- A machine word: `unsigned int`, `void *`, and the bits of an `int`. -/
abbrev Word := BitVec 32

abbrev TaskId := Nat
abbrev SemId := Nat
abbrev EventId := Nat
abbrev DqueId := Nat
abbrev FmpId := Nat
abbrev MutexId := Nat

/-! ## Constants -/

def tnNumPriority : Nat := 32
def tnMinStackSize : Int := 20
def tnWaitInfinite : Word := 0xFFFFFFFF
def tnInvalidVal : Word := 0xFFFFFFFF

def tnTaskStartOnCreation : Word := 1
def tnTaskTimer : Word := 0x80
def tnTaskIdle : Word := 0x40

def tnIdTask : Word := 0x47ABCF69
def tnIdSemaphore : Word := 0x6FA173EB
def tnIdEvent : Word := 0x5E224F25
def tnIdDataqueue : Word := 0x8C8A6C89
def tnIdFsmemorypool : Word := 0x26B7CE8B
def tnIdMutex : Word := 0x17129E45

def tnEventAttrSingle : Word := 1
def tnEventAttrMulti : Word := 2
def tnEventAttrClr : Word := 4
def tnEventWcondOr : Word := 8

def tnMutexAttrCeiling : Word := 1
def tnMutexAttrInherit : Word := 2

/-- The service return codes `TERR_*`. -/
inductive Terr where
  | noErr | overflow | wcontext | wstate | timeout | wrongParam
  | underflow | outOfMem | iluse | noexs | dlt
  deriving DecidableEq, Repr

/-- The task states `TSK_STATE_*`. -/
inductive TaskState where
  | runnable | wait | suspend | waitsusp | dormant
  deriving DecidableEq, Repr

/-- The test `task_state & TSK_STATE_WAIT`. -/
def TaskState.isWait : TaskState → Bool
  | .wait | .waitsusp => true
  | _ => false

/-- The test `task_state & TSK_STATE_SUSPEND`. -/
def TaskState.isSuspend : TaskState → Bool
  | .suspend | .waitsusp => true
  | _ => false

/-- `task_state |= TSK_STATE_SUSPEND`, reached for waiting tasks only. -/
def TaskState.addSuspend : TaskState → TaskState
  | .wait => .waitsusp
  | state => state

/-- `task_state &= ~TSK_STATE_SUSPEND`, reached for waiting tasks only. -/
def TaskState.removeSuspend : TaskState → TaskState
  | .waitsusp => .wait
  | state => state

/-- The wait reasons `TSK_WAIT_REASON_*`; `none` is the value 0. -/
inductive WaitReason where
  | none | sleep | sem | event | dqueWsend | dqueWreceive
  | mutexC | mutexCBlk | mutexI | wfixmem
  deriving DecidableEq, Repr

/-- The three reasons of a task that waits for a mutex. -/
def WaitReason.isMutex : WaitReason → Bool
  | .mutexI | .mutexC | .mutexCBlk => true
  | _ => false

/-- The wait lists of the kernel objects. -/
inductive WaitList where
  | sem (sem : SemId)
  | event (evf : EventId)
  | dqueSend (dque : DqueId)
  | dqueReceive (dque : DqueId)
  | fmp (fmp : FmpId)
  | mutex (mutex : MutexId)
  deriving DecidableEq, Repr

/-- The heads that a `task_queue` field can be linked under. -/
inductive QueueHead where
  | ready (priority : Nat)
  | wait (list : WaitList)
  deriving DecidableEq, Repr

/-! ## Control blocks -/

/-- `TN_TCB` without its link fields. -/
structure Tcb where
  taskStk : Word
  pwaitQueue : Option WaitList
  blkTask : Option TaskId
  stkStart : Word
  stkSize : Int
  taskFuncAddr : Word
  taskFuncParam : Word
  basePriority : Nat
  priority : Nat
  idTask : Word
  taskState : TaskState
  taskWaitReason : WaitReason
  taskWaitRc : Terr
  tickCount : Word
  tsliceCount : Nat
  ewaitPattern : Word
  ewaitMode : Word
  dataElem : Word
  activateCount : Nat
  wakeupCount : Nat
  suspendCount : Nat

/-- `TN_SEM`. -/
structure Sem where
  count : Int
  maxCount : Int
  idSem : Word

/-- `TN_EVENT`. -/
structure Event where
  attr : Word
  pattern : Word
  idEvent : Word

/-- `TN_DQUE`.  The array behind `data_fifo` is part of the record. -/
structure Dque where
  dataFifo : Option (Int → Word)
  numEntries : Int
  tailCnt : Int
  headerCnt : Int
  idDque : Word

/-- `TN_FMP`. -/
structure Fmp where
  blockSize : Word
  numBlocks : Int
  startAddr : Word
  freeList : Word
  fblkcnt : Int
  idFmp : Word

/-- `TN_MUTEX` without its link fields. -/
structure Mutex where
  attr : Word
  holder : Option TaskId
  ceilPriority : Int
  cnt : Int
  idMutex : Word

/-- The kernel's memory: the control blocks, the global variables, the IRQ
mask bit of CPSR, and the words of memory that pool blocks are made of. -/
structure Kernel where
  taskLinks : Links (Node QueueHead TaskId)
  timerLinks : Links (Node Unit TaskId)
  blockLinks : Links (Node Unit TaskId)
  createLinks : Links (Node Unit TaskId)
  mutexLinks : Links (Node TaskId MutexId)
  lockLinks : Links (Node Unit MutexId)
  tcb : TaskId → Tcb
  sem : SemId → Sem
  event : EventId → Event
  dque : DqueId → Dque
  fmp : FmpId → Fmp
  mutex : MutexId → Mutex
  mem : Word → Word
  tnCreatedTasksQty : Int
  tnSystemRunning : Bool
  /-- `NULL` until `tn_start_system` installs the idle task; not read before. -/
  tnCurrRunTask : TaskId
  tnNextTaskToRun : Option TaskId
  tnReadyToRunBmp : Word
  tnTsliceTicks : Nat → Nat
  tnEnableSwitchContext : Bool
  tnContextSwitchRequest : Bool
  tnIntCounter : Int
  irqDisabled : Bool

namespace Kernel

def setTcb (k : Kernel) (task : TaskId) (tcb : Tcb) : Kernel :=
  { k with tcb := Function.update k.tcb task tcb }

def setSem (k : Kernel) (sem : SemId) (value : Sem) : Kernel :=
  { k with sem := Function.update k.sem sem value }

def setEvent (k : Kernel) (evf : EventId) (value : Event) : Kernel :=
  { k with event := Function.update k.event evf value }

def setDque (k : Kernel) (dque : DqueId) (value : Dque) : Kernel :=
  { k with dque := Function.update k.dque dque value }

def setFmp (k : Kernel) (fmp : FmpId) (value : Fmp) : Kernel :=
  { k with fmp := Function.update k.fmp fmp value }

def setMutex (k : Kernel) (mutex : MutexId) (value : Mutex) : Kernel :=
  { k with mutex := Function.update k.mutex mutex value }

def setMem (k : Kernel) (mem : Word → Word) : Kernel :=
  { k with mem := mem }

/-- Replace what the scheduling primitives work on. -/
def setReady (k : Kernel) (links : Links (Node QueueHead TaskId))
    (bmp : Word) (next : Option TaskId) : Kernel :=
  { k with
    taskLinks := links, tnReadyToRunBmp := bmp, tnNextTaskToRun := next }

/-- `TN_CHECK_INT_CONTEXT`: a service for interrupts refuses to run. -/
def wrongIntContext (k : Kernel) : Bool :=
  k.tnIntCounter > 1 || (k.irqDisabled && !k.tnSystemRunning)

/-- `TN_CHECK_NON_INT_CONTEXT`: a service for tasks refuses to run. -/
def wrongNonIntContext (k : Kernel) : Bool :=
  k.tnIntCounter > 0 || (k.irqDisabled && k.tnSystemRunning)

end Kernel

/-! ## From a link field back to its control block

The source computes the address of the control block from the address of the
field.  On a list head that address is no control block, hence `none`. -/

def getTaskByTskQueue : Node QueueHead TaskId → Option TaskId
  | .head _ => none
  | .entry task => some task

def getTaskByTimerQueque : Node Unit TaskId → Option TaskId
  | .head _ => none
  | .entry task => some task

def getTaskByBlockQueque : Node Unit TaskId → Option TaskId
  | .head _ => none
  | .entry task => some task

def getMutexByMutexQueque : Node TaskId MutexId → Option MutexId
  | .head _ => none
  | .entry mutex => some mutex

def getMutexByLockMutexQueque : Node Unit MutexId → Option MutexId
  | .head _ => none
  | .entry mutex => some mutex

/-- The wait queue is the first field of `TN_MUTEX`; any other wait list, and
`NULL`, is no mutex. -/
def getMutexByWaitQueque : Option WaitList → Option MutexId
  | some (.mutex mutex) => some mutex
  | _ => none

/-- The answer of a service to its caller: the return code (`none` while the
caller is blocked inside the service), the word stored through a pointer
argument, and whether the service ends in `tn_switch_context`. -/
structure Reply where
  rc : Option Terr
  value : Option Word
  switch : Bool
  deriving DecidableEq, Repr

def Reply.ret (rc : Terr) : Reply := ⟨some rc, none, false⟩

def Reply.retSwitch (rc : Terr) (switch : Bool) : Reply := ⟨some rc, none, switch⟩

def Reply.retValue (value : Word) (switch : Bool) : Reply :=
  ⟨some .noErr, some value, switch⟩

def Reply.block : Reply := ⟨none, none, true⟩

end UsbBulk
