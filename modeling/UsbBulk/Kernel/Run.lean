import UsbBulk.Kernel.Invariant

/-!
# Runs of the system

A run is a sequence of service calls by the running task, of service calls (and
ticks) from interrupts, and of switches to the chosen task.  The critical section
of a service is one step; between two critical sections any other step may
come.
-/

namespace UsbBulk

/-- A call of a kernel service with its arguments; the timer tick is one of the
services for interrupts. -/
inductive Call where
  | taskCreate (task : Option TaskId) (args : TaskParams)
  | taskSuspend (task : Option TaskId)
  | taskResume (task : Option TaskId)
  | taskSleep (timeout : Word)
  | taskWakeup (task : Option TaskId)
  | taskIwakeup (task : Option TaskId)
  | taskActivate (task : Option TaskId)
  | taskIactivate (task : Option TaskId)
  | taskReleaseWait (task : Option TaskId)
  | taskIreleaseWait (task : Option TaskId)
  | taskChangePriority (task : Option TaskId) (newPriority : Int)
  | semCreate (sem : Option SemId) (startValue maxVal : Int)
  | semSignal (sem : Option SemId)
  | semIsignal (sem : Option SemId)
  | semAcquire (sem : Option SemId) (timeout : Word)
  | semPolling (sem : Option SemId)
  | semIpolling (sem : Option SemId)
  | eventCreate (evf : Option EventId) (attr pattern : Word)
  | eventWait (evf : Option EventId) (waitPattern waitMode : Word)
      (pFlagsPattern : Bool) (timeout : Word)
  | eventWaitPolling (evf : Option EventId) (waitPattern waitMode : Word)
      (pFlagsPattern : Bool)
  | eventIwait (evf : Option EventId) (waitPattern waitMode : Word)
      (pFlagsPattern : Bool)
  | eventSet (evf : Option EventId) (pattern : Word)
  | eventIset (evf : Option EventId) (pattern : Word)
  | eventClear (evf : Option EventId) (pattern : Word)
  | eventIclear (evf : Option EventId) (pattern : Word)
  | queueCreate (dque : Option DqueId) (dataFifo : Option (Int → Word))
      (numEntries : Int)
  | queueSend (dque : Option DqueId) (dataPtr timeout : Word)
  | queueSendPolling (dque : Option DqueId) (dataPtr : Word)
  | queueIsendPolling (dque : Option DqueId) (dataPtr : Word)
  | queueReceive (dque : Option DqueId) (dataPtr : Bool) (timeout : Word)
  | queueReceivePolling (dque : Option DqueId) (dataPtr : Bool)
  | queueIreceive (dque : Option DqueId) (dataPtr : Bool)
  | fmemCreate (fmp : Option FmpId) (startAddr blockSize : Word)
      (numBlocks : Int)
  | fmemGet (fmp : Option FmpId) (pData : Bool) (timeout : Word)
  | fmemGetPolling (fmp : Option FmpId) (pData : Bool)
  | fmemGetIpolling (fmp : Option FmpId) (pData : Bool)
  | fmemRelease (fmp : Option FmpId) (pData : Word)
  | fmemIrelease (fmp : Option FmpId) (pData : Word)
  | mutexCreate (mutex : Option MutexId) (attr : Word) (ceilPriority : Int)
  | mutexLock (mutex : Option MutexId) (timeout : Word)
  | mutexLockPolling (mutex : Option MutexId)
  | mutexUnlock (mutex : Option MutexId)
  | tickIntProcessing
  | sysTsliceTicks (priority value : Int)

namespace Call

/-- The services that are called from interrupts. -/
def fromInterrupt : Call → Bool
  | taskIwakeup _ | taskIactivate _ | taskIreleaseWait _ => true
  | semIsignal _ | semIpolling _ => true
  | eventIwait .. | eventIset .. | eventIclear .. => true
  | queueIsendPolling .. | queueIreceive .. => true
  | fmemGetIpolling .. | fmemIrelease .. => true
  | tickIntProcessing => true
  | _ => false

def exec (tnTaskExit : Word) (fuel : Nat) (k : Kernel) : Call → Outcome
  | taskCreate task args => tnTaskCreate tnTaskExit k task args
  | taskSuspend task => tnTaskSuspend k task
  | taskResume task => tnTaskResume k task
  | taskSleep timeout => tnTaskSleep k timeout
  | taskWakeup task => tnTaskWakeup fuel k task
  | taskIwakeup task => tnTaskIwakeup fuel k task
  | taskActivate task => tnTaskActivate k task
  | taskIactivate task => tnTaskIactivate k task
  | taskReleaseWait task => tnTaskReleaseWait fuel k task
  | taskIreleaseWait task => tnTaskIreleaseWait fuel k task
  | taskChangePriority task newPriority =>
      tnTaskChangePriority k task newPriority
  | semCreate sem startValue maxVal => tnSemCreate k sem startValue maxVal
  | semSignal sem => tnSemSignal fuel k sem
  | semIsignal sem => tnSemIsignal fuel k sem
  | semAcquire sem timeout => tnSemAcquire k sem timeout
  | semPolling sem => tnSemPolling k sem
  | semIpolling sem => tnSemIpolling k sem
  | eventCreate evf attr pattern => tnEventCreate k evf attr pattern
  | eventWait evf waitPattern waitMode pFlagsPattern timeout =>
      tnEventWait k evf waitPattern waitMode pFlagsPattern timeout
  | eventWaitPolling evf waitPattern waitMode pFlagsPattern =>
      tnEventWaitPolling k evf waitPattern waitMode pFlagsPattern
  | eventIwait evf waitPattern waitMode pFlagsPattern =>
      tnEventIwait k evf waitPattern waitMode pFlagsPattern
  | eventSet evf pattern => tnEventSet fuel k evf pattern
  | eventIset evf pattern => tnEventIset fuel k evf pattern
  | eventClear evf pattern => tnEventClear k evf pattern
  | eventIclear evf pattern => tnEventIclear k evf pattern
  | queueCreate dque dataFifo numEntries =>
      tnQueueCreate k dque dataFifo numEntries
  | queueSend dque dataPtr timeout => tnQueueSend fuel k dque dataPtr timeout
  | queueSendPolling dque dataPtr => tnQueueSendPolling fuel k dque dataPtr
  | queueIsendPolling dque dataPtr => tnQueueIsendPolling fuel k dque dataPtr
  | queueReceive dque dataPtr timeout =>
      tnQueueReceive fuel k dque dataPtr timeout
  | queueReceivePolling dque dataPtr =>
      tnQueueReceivePolling fuel k dque dataPtr
  | queueIreceive dque dataPtr => tnQueueIreceive fuel k dque dataPtr
  | fmemCreate fmp startAddr blockSize numBlocks =>
      tnFmemCreate fuel k fmp startAddr blockSize numBlocks
  | fmemGet fmp pData timeout => tnFmemGet k fmp pData timeout
  | fmemGetPolling fmp pData => tnFmemGetPolling k fmp pData
  | fmemGetIpolling fmp pData => tnFmemGetIpolling k fmp pData
  | fmemRelease fmp pData => tnFmemRelease fuel k fmp pData
  | fmemIrelease fmp pData => tnFmemIrelease fuel k fmp pData
  | mutexCreate mutex attr ceilPriority =>
      tnMutexCreate k mutex attr ceilPriority
  | mutexLock mutex timeout => tnMutexLock fuel k mutex timeout
  | mutexLockPolling mutex => tnMutexLockPolling fuel k mutex
  | mutexUnlock mutex => tnMutexUnlock fuel k mutex
  | tickIntProcessing =>
      (tnTickIntProcessing fuel k).map fun k => (k, .ret .noErr)
  | sysTsliceTicks priority value => tnSysTsliceTicks k priority value

end Call

/-- Entry of `tn_cpu_irq_isr`. -/
def Kernel.enterIrq (k : Kernel) : Kernel :=
  { k with tnIntCounter := k.tnIntCounter + 1, irqDisabled := true }

/-- The end of `tn_cpu_irq_isr`. -/
def Kernel.leaveIrq (k : Kernel) : Kernel :=
  { k with tnIntCounter := k.tnIntCounter - 1, irqDisabled := false }

/-- What happens in one step. -/
inductive Action where
  | call (call : Call) (reply : Reply)
  | interrupt (call : Call) (reply : Reply)
  | dispatch

/-- One step, with the calls restricted to those that `allowed` admits.  The
idle task calls no service.  A switch may happen at any time: this includes
the switches that a service or an interrupt asks for. -/
inductive Step (image : Image) (allowed : Kernel → Call → Prop) :
    Kernel → Action → Kernel → Prop where
  | call {k k' : Kernel} {call : Call} {reply : Reply} (fuel : Nat)
      (task : call.fromInterrupt = false)
      (running : (k.tcb k.tnCurrRunTask).taskState = .runnable)
      (notIdle : k.tnCurrRunTask ≠ image.idleTask)
      (may : allowed k call)
      (run : call.exec image.tnTaskExit fuel k = some (k', reply)) :
      Step image allowed k (.call call reply) k'
  | interrupt {k k' : Kernel} {call : Call} {reply : Reply} (fuel : Nat)
      (irq : call.fromInterrupt = true)
      (may : allowed k call)
      (run : call.exec image.tnTaskExit fuel k.enterIrq = some (k', reply)) :
      Step image allowed k (.interrupt call reply) k'.leaveIrq
  | dispatch {k k' : Kernel} (run : tnSwitchContext k = some k') :
      Step image allowed k .dispatch k'

/-- Nothing has been created: no control block carries an identifier. -/
structure Kernel.Fresh (k : Kernel) : Prop where
  task : ∀ t, (k.tcb t).idTask = 0
  sem : ∀ sem, (k.sem sem).idSem = 0
  event : ∀ evf, (k.event evf).idEvent = 0
  dque : ∀ dque, (k.dque dque).idDque = 0
  fmp : ∀ fmp, (k.fmp fmp).idFmp = 0
  mutex : ∀ mutex, (k.mutex mutex).idMutex = 0

/-- The memory as the C runtime hands it over: every variable is zero.  A control
block without a task has no state; `dormant` stands in for it. -/
def Kernel.zeroed : Kernel where
  taskLinks := ⟨id, id⟩
  timerLinks := ⟨id, id⟩
  blockLinks := ⟨id, id⟩
  createLinks := ⟨id, id⟩
  mutexLinks := ⟨id, id⟩
  lockLinks := ⟨id, id⟩
  tcb _ := {
    taskStk := 0, pwaitQueue := none, blkTask := none, stkStart := 0
    stkSize := 0, taskFuncAddr := 0, taskFuncParam := 0, basePriority := 0
    priority := 0, idTask := 0, taskState := .dormant
    taskWaitReason := .none, taskWaitRc := .noErr, tickCount := 0
    tsliceCount := 0, ewaitPattern := 0, ewaitMode := 0, dataElem := 0
    activateCount := 0, wakeupCount := 0, suspendCount := 0 }
  sem _ := ⟨0, 0, 0⟩
  event _ := ⟨0, 0, 0⟩
  dque _ := ⟨none, 0, 0, 0, 0⟩
  fmp _ := ⟨0, 0, 0, 0, 0, 0⟩
  mutex _ := ⟨0, none, 0, 0, 0⟩
  mem _ := 0
  tnCreatedTasksQty := 0
  tnSystemRunning := false
  tnCurrRunTask := 0
  tnNextTaskToRun := none
  tnReadyToRunBmp := 0
  tnTsliceTicks _ := 0
  tnEnableSwitchContext := false
  tnContextSwitchRequest := false
  tnIntCounter := 0
  irqDisabled := true

theorem Kernel.fresh_zeroed : Kernel.zeroed.Fresh :=
  ⟨fun _ => rfl, fun _ => rfl, fun _ => rfl, fun _ => rfl, fun _ => rfl,
    fun _ => rfl⟩

/-- The states that runs reach from the start of the system. -/
inductive Reachable (image : Image) (allowed : Kernel → Call → Prop) :
    Kernel → Prop where
  | start {k k' : Kernel}
      (fresh : k.Fresh)
      (run : tnStartSystem image k = some k') :
      Reachable image allowed k'
  | next {k k' : Kernel} {action : Action} (before : Reachable image allowed k)
      (step : Step image allowed k action k') : Reachable image allowed k'

theorem Step.mono {image : Image} {allowed allowed' : Kernel → Call → Prop}
    (weaker : ∀ k call, allowed k call → allowed' k call) {k k' : Kernel}
    {action : Action} (step : Step image allowed k action k') :
    Step image allowed' k action k' := by
  cases step with
  | call fuel task running notIdle may run =>
      exact .call fuel task running notIdle (weaker _ _ may) run
  | interrupt fuel irq may run =>
      exact .interrupt fuel irq (weaker _ _ may) run
  | dispatch run => exact .dispatch run

theorem Reachable.mono {image : Image} {allowed allowed' : Kernel → Call → Prop}
    (weaker : ∀ k call, allowed k call → allowed' k call) {k : Kernel}
    (reachable : Reachable image allowed k) : Reachable image allowed' k := by
  induction reachable with
  | start fresh run => exact .start fresh run
  | next _ step before => exact .next before (step.mono weaker)

/-! ## Runs that can be evaluated -/

/-- The state in which a service leaves the kernel, if it answers. -/
def Outcome.after (outcome : Outcome) : Kernel :=
  (outcome.map Prod.fst).getD .zeroed

theorem Outcome.eq_after {outcome : Outcome} {reply : Reply}
    (answer : outcome.map Prod.snd = some reply) :
    outcome = some (outcome.after, reply) := by
  obtain ⟨⟨k, answered⟩, rfl, rfl⟩ := Option.map_eq_some_iff.mp answer
  rfl

/-- A task of priority 5 that is ready as soon as it is created. -/
def TaskParams.sample : TaskParams where
  taskFunc := 0x9000
  priority := 5
  taskStackStart := 0x40002000
  taskStackSize := 64
  param := 0
  option := tnTaskStartOnCreation

/-- The system after its start. -/
def Kernel.started : Kernel :=
  (tnStartSystem .sample .zeroed).getD .zeroed

theorem tnStartSystem_started :
    tnStartSystem .sample .zeroed = some .started := by
  have answers : (tnStartSystem .sample .zeroed).isSome = true := by rfl
  obtain ⟨k, run⟩ := Option.isSome_iff_exists.mp answers
  rw [Kernel.started, run]
  rfl

theorem Step.answer {image : Image} {allowed : Kernel → Call → Prop}
    {k : Kernel} (call : Call) (reply : Reply) (fuel : Nat)
    (answer : (call.exec image.tnTaskExit fuel k).map Prod.snd = some reply)
    (task : call.fromInterrupt = false)
    (running : (k.tcb k.tnCurrRunTask).taskState = .runnable)
    (notIdle : k.tnCurrRunTask ≠ image.idleTask) (may : allowed k call) :
    Step image allowed k (.call call reply)
      (call.exec image.tnTaskExit fuel k).after :=
  .call fuel task running notIdle may (Outcome.eq_after answer)

end UsbBulk
