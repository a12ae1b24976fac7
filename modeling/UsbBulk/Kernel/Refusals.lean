import UsbBulk.Kernel.Context
import UsbBulk.Kernel.Deletions

/-!
# Calls that fail

A service that answers with an error leaves the kernel as it was.  Two services
do not: the creation of a semaphore that exists already, and the request for a
block of a pool whose memory has been overwritten.
-/

namespace UsbBulk

/-- A call of any service that answers with a return code. -/
inductive Service where
  | plain (call : Call)
  | taskTerminate (task : Option TaskId)
  | taskDelete (task : Option TaskId)
  | semDelete (sem : Option SemId)
  | eventDelete (evf : Option EventId)
  | queueDelete (dque : Option DqueId)
  | fmemDelete (fmp : Option FmpId)
  | mutexDelete (mutex : Option MutexId)

def Service.exec (exitAddress : Word) (fuel : Nat) (k : Kernel) :
    Service → Outcome
  | plain call => call.exec exitAddress fuel k
  | taskTerminate task => tnTaskTerminate exitAddress fuel k task
  | taskDelete task => tnTaskDelete k task
  | semDelete sem => tnSemDelete fuel k sem
  | eventDelete evf => tnEventDelete fuel k evf
  | queueDelete dque => tnQueueDelete fuel k dque
  | fmemDelete fmp => tnFmemDelete fuel k fmp
  | mutexDelete mutex => tnMutexDelete fuel k mutex

/-- The service has returned an error.  A caller that is blocked has not been
answered yet. -/
def Reply.Fails (reply : Reply) : Prop :=
  ∃ rc, reply.rc = some rc ∧ rc ≠ .noErr

/-- Control blocks, objects that exist, and lists are as before.  The head of a
list that belongs to no object is in no list. -/
structure Untouched (k k' : Kernel) : Prop where
  tcb : k'.tcb = k.tcb
  sem : ∀ sem, k.isSem sem = true → k'.sem sem = k.sem sem
  event : ∀ evf, k.isEvent evf = true → k'.event evf = k.event evf
  dque : ∀ dque, k.isDque dque = true → k'.dque dque = k.dque dque
  fmp : ∀ fmp, k.isFmp fmp = true → k'.fmp fmp = k.fmp fmp
  mutex : ∀ mutex, k.isMutex mutex = true → k'.mutex mutex = k.mutex mutex
  taskLinks : ∀ node,
    (∀ list, node = .head (.wait list) → k.hasList list = true) →
      k'.taskLinks.next node = k.taskLinks.next node ∧
        k'.taskLinks.prev node = k.taskLinks.prev node
  timerLinks : k'.timerLinks = k.timerLinks
  blockLinks : k'.blockLinks = k.blockLinks
  createLinks : k'.createLinks = k.createLinks
  mutexLinks : k'.mutexLinks = k.mutexLinks
  lockLinks : k'.lockLinks = k.lockLinks
  bmp : k'.tnReadyToRunBmp = k.tnReadyToRunBmp
  next : k'.tnNextTaskToRun = k.tnNextTaskToRun
  qty : k'.tnCreatedTasksQty = k.tnCreatedTasksQty

theorem Untouched.refl (k : Kernel) : Untouched k k :=
  ⟨rfl, fun _ _ => rfl, fun _ _ => rfl, fun _ _ => rfl, fun _ _ => rfl,
    fun _ _ => rfl, fun _ _ => ⟨rfl, rfl⟩, rfl, rfl, rfl, rfl, rfl, rfl, rfl,
    rfl⟩

/-- The two kinds of failing calls that change an object: a semaphore that exists
is created once more, and a pool counts free blocks that its list has not. -/
def Service.Damages (k : Kernel) : Service → Prop
  | plain (.semCreate (some sem) _ _) =>
      k.isSem sem = true ∧ (k.sem sem).maxCount ≠ 0
  | plain (.fmemGetPolling (some fmp) pData) =>
      pData = true ∧ k.isFmp fmp = true ∧ k.wrongNonIntContext = false ∧
        (k.fmp fmp).fblkcnt > 0 ∧ (k.fmp fmp).freeList = 0
  | plain (.fmemGetIpolling (some fmp) pData) =>
      pData = true ∧ k.isFmp fmp = true ∧ k.wrongIntContext = false ∧
        (k.fmp fmp).fblkcnt > 0 ∧ (k.fmp fmp).freeList = 0
  | _ => False

/-! ## Services that refuse before they change anything -/

/-- An answer that is an error leaves the kernel alone. -/
def Unmoved (k : Kernel) (outcome : Outcome) : Prop :=
  Ends outcome fun result => result.2.Fails →
    result.1 = k ∧ result.2.switch = false

section Unmoved

variable {k k' : Kernel} {reply : Reply} {α : Type}

theorem unmoved_ret (rc : Terr) : Unmoved k (some (k, .ret rc)) :=
  ends_some fun _ => ⟨rfl, rfl⟩

theorem unmoved_success (noErr : reply.rc = some .noErr) :
    Unmoved k (some (k', reply)) := by
  refine ends_some fun fails => ?_
  obtain ⟨rc, isRc, differs⟩ := fails
  cases noErr.symm.trans isRc
  exact absurd rfl differs

theorem unmoved_block : Unmoved k (some (k', .block)) := by
  refine ends_some fun fails => ?_
  obtain ⟨rc, isRc, -⟩ := fails
  cases isRc

theorem unmoved_bind {result : Option α} {next : α → Outcome}
    (unmoved : ∀ value, Unmoved k (next value)) :
    Unmoved k (result.bind next) :=
  ends_bind unmoved

theorem unmoved_checked {object : Option Nat} {badParam valid : Nat → Bool}
    {wrongContext : Bool} {body : Nat → Outcome}
    (unmoved : ∀ id, Unmoved k (body id)) :
    Unmoved k (checked k object badParam valid wrongContext body) := by
  unfold checked
  cases object with
  | none => exact unmoved_ret _
  | some id =>
      exact ends_ite (fun _ => unmoved_ret _) fun _ =>
        ends_ite (fun _ => unmoved_ret _) fun _ =>
          ends_ite (fun _ => unmoved_ret _) fun _ => unmoved id

theorem Unmoved.fromInterrupt {outcome : Outcome}
    (unmoved : Unmoved k outcome) : Unmoved k outcome.fromInterrupt := by
  rintro ⟨k₁, reply₁⟩ run fails
  obtain ⟨⟨k₀, reply₀⟩, before, after⟩ := Option.map_eq_some_iff.mp run
  dsimp only at after
  split at after
  case isTrue switch =>
      cases after
      exact absurd (switch.symm.trans (unmoved _ before fails).2) (by decide)
  case isFalse =>
      cases after
      exact unmoved _ before fails

/-! ### Tasks -/

theorem tnTaskSuspend_unmoved (task : Option TaskId) :
    Unmoved k (tnTaskSuspend k task) :=
  unmoved_checked fun _ =>
    ends_ite (fun _ => unmoved_ret _) fun _ =>
      ends_ite (fun _ => unmoved_ret _) fun _ =>
        ends_ite (fun _ => unmoved_ret _) fun _ =>
          ends_ite (fun _ => unmoved_bind fun _ => unmoved_success rfl)
            fun _ => unmoved_success rfl

theorem tnTaskResume_unmoved (task : Option TaskId) :
    Unmoved k (tnTaskResume k task) :=
  unmoved_checked fun _ =>
    ends_ite (fun _ => unmoved_ret _) fun _ =>
      ends_ite (fun _ => unmoved_success rfl) fun _ => unmoved_success rfl

theorem tnTaskSleep_unmoved (timeout : Word) :
    Unmoved k (tnTaskSleep k timeout) :=
  ends_ite (fun _ => unmoved_ret _) fun _ =>
    ends_ite (fun _ => unmoved_ret _) fun _ =>
      ends_ite (fun _ => unmoved_success rfl) fun _ =>
        unmoved_bind fun _ => unmoved_success rfl

theorem wakeupBody_unmoved (fuel : Nat) (task : TaskId) :
    Unmoved k (wakeupBody fuel k task) :=
  ends_ite (fun _ => unmoved_ret _) fun _ =>
    ends_ite (fun _ => unmoved_bind fun _ => unmoved_success rfl) fun _ =>
      ends_ite (fun _ => unmoved_success rfl) fun _ => unmoved_ret _

theorem activateBody_unmoved (task : TaskId) :
    Unmoved k (activateBody k task) :=
  ends_ite (fun _ => unmoved_success rfl) fun _ =>
    ends_ite (fun _ => unmoved_success rfl) fun _ => unmoved_ret _

theorem releaseWaitBody_unmoved (fuel : Nat) (task : TaskId) :
    Unmoved k (releaseWaitBody fuel k task) :=
  ends_ite (fun _ => unmoved_ret _) fun _ =>
    unmoved_bind fun _ => unmoved_success rfl

theorem tnTaskCreate_unmoved (exitAddress : Word) (task : Option TaskId)
    (args : TaskParams) :
    Unmoved k (tnTaskCreate exitAddress k task args) := by
  unfold tnTaskCreate
  refine ends_ite (fun _ => unmoved_ret _) fun _ =>
    ends_ite (fun _ => unmoved_ret _) fun _ => ?_
  cases task with
  | none => exact unmoved_ret _
  | some t =>
      exact ends_ite (fun _ => unmoved_ret _) fun _ =>
        ends_ite (fun _ => unmoved_ret _) fun _ => unmoved_success rfl

theorem tnTaskChangePriority_unmoved (task : Option TaskId)
    (newPriority : Int) :
    Unmoved k (tnTaskChangePriority k task newPriority) := by
  unfold tnTaskChangePriority
  cases task with
  | none => exact unmoved_ret _
  | some t =>
      exact ends_ite (fun _ => unmoved_ret _) fun _ =>
        ends_ite (fun _ => unmoved_ret _) fun _ =>
          ends_ite (fun _ => unmoved_ret _) fun _ =>
            ends_ite (fun _ => unmoved_ret _) fun _ =>
              ends_ite (fun _ => unmoved_bind fun _ => unmoved_success rfl)
                fun _ => unmoved_success rfl

theorem terminateBody_unmoved (exitAddress : Word) (fuel : Nat)
    (task : TaskId) : Unmoved k (terminateBody exitAddress fuel k task) :=
  ends_ite (fun _ => unmoved_ret _) fun _ =>
    unmoved_bind fun _ => unmoved_bind fun _ =>
      ends_ite (fun _ => unmoved_success rfl) fun _ => unmoved_success rfl

/-! ### Semaphores and event flags -/

theorem signalBody_unmoved (fuel : Nat) (sem : SemId) :
    Unmoved k (signalBody fuel k sem) :=
  ends_ite
    (fun _ => unmoved_bind fun _ => unmoved_bind fun _ => unmoved_success rfl)
    fun _ => ends_ite (fun _ => unmoved_success rfl) fun _ => unmoved_ret _

theorem acquireBody_unmoved (sem : SemId) {taken : Outcome}
    (unmoved : Unmoved k taken) : Unmoved k (acquireBody k sem taken) :=
  ends_ite (fun _ => unmoved_success rfl) fun _ => unmoved

theorem eventWaitBody_unmoved (waitPattern waitMode : Word)
    {unmet : EventId → Outcome} (unmoved : ∀ evf, Unmoved k (unmet evf))
    (evf : EventId) :
    Unmoved k (eventWaitBody k waitPattern waitMode unmet evf) :=
  ends_ite (fun _ => unmoved_ret _) fun _ =>
    ends_ite (fun _ => unmoved_success rfl) fun _ => unmoved evf

theorem eventSetBody_unmoved (fuel : Nat) (pattern : Word) (evf : EventId) :
    Unmoved k (eventSetBody fuel k pattern evf) :=
  ends_ite
    (fun _ => unmoved_bind fun _ =>
      ends_ite (fun _ => unmoved_success rfl) fun _ => unmoved_success rfl)
    fun _ => unmoved_success rfl

/-! ### Data queues and memory pools -/

/-- An element that the array does not take leaves the queue as it is. -/
theorem dqueFifoWrite_refused {dque : Dque} {dataPtr : Word}
    (refused : (dqueFifoWrite dque dataPtr).2 ≠ .noErr) :
    (dqueFifoWrite dque dataPtr).1 = dque := by
  rw [dqueFifoWrite] at refused ⊢
  dsimp only at refused ⊢
  split_ifs at refused ⊢
  · rfl
  · rfl
  · exact absurd rfl refused
  · exact absurd rfl refused

theorem dqueFifoRead_refused {dque : Dque}
    (refused : (dqueFifoRead dque).2.1 ≠ .noErr) :
    (dqueFifoRead dque).1 = dque := by
  rw [dqueFifoRead] at refused ⊢
  dsimp only at refused ⊢
  split_ifs at refused ⊢
  · rfl
  · rfl
  · exact absurd rfl refused
  · exact absurd rfl refused

theorem queueSendBody_unmoved (fuel : Nat) (dataPtr : Word)
    {full : Kernel → DqueId → Outcome}
    (unmoved : ∀ dque, Unmoved k (full k dque)) (dque : DqueId) :
    Unmoved k (queueSendBody fuel k dataPtr full dque) := by
  unfold queueSendBody
  dsimp only
  refine ends_ite (fun _ => unmoved_bind fun _ => unmoved_bind fun _ =>
    unmoved_success rfl) fun _ => ends_ite (fun refused => ?_) fun _ =>
      unmoved_success rfl
  rw [dqueFifoWrite_refused refused, Kernel.setDque_self]
  exact unmoved dque

theorem queueReceiveBody_unmoved (fuel : Nat)
    {empty : Kernel → DqueId → Outcome}
    (unmoved : ∀ dque, Unmoved k (empty k dque)) (dque : DqueId) :
    Unmoved k (queueReceiveBody fuel k empty dque) := by
  unfold queueReceiveBody
  dsimp only
  refine ends_ite (fun _ => ends_ite (fun _ => unmoved_bind fun _ =>
    unmoved_bind fun _ => unmoved_success rfl) fun _ => unmoved_success rfl)
    fun refused => ends_ite (fun _ => unmoved_bind fun _ =>
      unmoved_bind fun _ => unmoved_success rfl) fun _ => ?_
  rw [dqueFifoRead_refused refused, Kernel.setDque_self]
  exact unmoved dque

theorem fmemReleaseBody_unmoved (fuel : Nat) (pData : Word) (fmp : FmpId) :
    Unmoved k (fmemReleaseBody fuel k pData fmp) :=
  ends_ite
    (fun _ => unmoved_bind fun _ => unmoved_bind fun _ => unmoved_success rfl)
    fun _ => unmoved_success rfl

theorem tnQueueCreate_unmoved (dque : Option DqueId)
    (dataFifo : Option (Int → Word)) (numEntries : Int) :
    Unmoved k (tnQueueCreate k dque dataFifo numEntries) := by
  unfold tnQueueCreate
  cases dque with
  | none => exact unmoved_ret _
  | some d =>
      exact ends_ite (fun _ => unmoved_ret _) fun _ => unmoved_success rfl

/-! ### Mutexes -/

theorem tnMutexCreate_unmoved (mutex : Option MutexId) (attr : Word)
    (ceilPriority : Int) :
    Unmoved k (tnMutexCreate k mutex attr ceilPriority) := by
  unfold tnMutexCreate
  cases mutex with
  | none => exact unmoved_ret _
  | some m =>
      exact ends_ite (fun _ => unmoved_ret _) fun _ =>
        ends_ite (fun _ => unmoved_ret _) fun _ =>
          ends_ite (fun _ => unmoved_ret _) fun _ => unmoved_success rfl

theorem mutexLockBody_unmoved (fuel : Nat) (timeout : Word) (mutex : MutexId) :
    Unmoved k (mutexLockBody fuel k timeout mutex) := by
  unfold mutexLockBody
  dsimp only
  refine ends_ite (fun _ => unmoved_ret _) fun _ =>
    ends_ite (fun _ => ?_) fun _ =>
      ends_ite (fun _ => ?_) fun _ => unmoved_success rfl
  · split
    · refine unmoved_bind fun _ => ends_ite (fun _ => unmoved_success rfl)
        fun _ => ?_
      split
      · exact unmoved_bind fun _ => unmoved_bind fun _ => unmoved_block
      · exact unmoved_bind fun _ => unmoved_bind fun _ => unmoved_block
    · exact unmoved_bind fun _ => unmoved_bind fun _ => unmoved_block
  · split
    · exact unmoved_success rfl
    · exact unmoved_bind fun _ => unmoved_bind fun _ => unmoved_block

theorem mutexLockPollingBody_unmoved (fuel : Nat) (mutex : MutexId) :
    Unmoved k (mutexLockPollingBody fuel k mutex) :=
  ends_ite (fun _ => unmoved_ret _) fun _ =>
    ends_ite
      (fun _ => ends_ite
        (fun _ => unmoved_bind fun _ =>
          ends_ite (fun _ => unmoved_success rfl) fun _ => unmoved_ret _)
        fun _ => ends_ite (fun _ => unmoved_success rfl) fun _ =>
          unmoved_success rfl)
      fun _ => unmoved_ret _

theorem mutexUnlockBody_unmoved (fuel : Nat) (mutex : MutexId) :
    Unmoved k (mutexUnlockBody fuel k mutex) :=
  ends_ite (fun _ => unmoved_ret _) fun _ =>
    unmoved_bind fun _ => unmoved_success rfl

/-! ### Deletions -/

theorem deleteSection_unmoved (fuel : Nat)
    (prepare : Kernel → TaskId → Option Kernel) (finish : Kernel → Kernel)
    (lists : List WaitList) :
    ∀ k', Unmoved k (deleteSection fuel prepare finish lists k') := by
  induction lists with
  | nil => exact fun _ => unmoved_success rfl
  | cons list lists ih =>
      exact fun k' => unmoved_bind fun result =>
        ends_ite (fun _ => unmoved_block) fun _ => ih result.1

/-! ### All of them -/

/-- The services that change something before they know that they fail. -/
def Service.late : Service → Bool
  | plain (.semCreate ..) | plain (.eventCreate ..) => true
  | plain (.fmemCreate ..) | plain (.sysTsliceTicks ..) => true
  | plain (.fmemGetPolling ..) | plain (.fmemGetIpolling ..) => true
  | _ => false

theorem Call.exec_unmoved (call : Call)
    (early : (Service.plain call).late = false) (exitAddress : Word)
    (fuel : Nat) : Unmoved k (call.exec exitAddress fuel k) := by
  cases call with
  | taskCreate task args => exact tnTaskCreate_unmoved exitAddress task args
  | taskSuspend task => exact tnTaskSuspend_unmoved task
  | taskResume task => exact tnTaskResume_unmoved task
  | taskSleep timeout => exact tnTaskSleep_unmoved timeout
  | taskWakeup task => exact unmoved_checked (wakeupBody_unmoved fuel)
  | taskIwakeup task =>
      exact unmoved_checked fun t => (wakeupBody_unmoved fuel t).fromInterrupt
  | taskActivate task => exact unmoved_checked activateBody_unmoved
  | taskIactivate task =>
      exact unmoved_checked fun t => (activateBody_unmoved t).fromInterrupt
  | taskReleaseWait task =>
      exact unmoved_checked (releaseWaitBody_unmoved fuel)
  | taskIreleaseWait task =>
      exact unmoved_checked fun t =>
        (releaseWaitBody_unmoved fuel t).fromInterrupt
  | taskChangePriority task newPriority =>
      exact tnTaskChangePriority_unmoved task newPriority
  | semCreate sem startValue maxVal => cases early
  | semSignal sem => exact unmoved_checked (signalBody_unmoved fuel)
  | semIsignal sem =>
      exact unmoved_checked fun s => (signalBody_unmoved fuel s).fromInterrupt
  | semAcquire sem timeout =>
      exact unmoved_checked fun s =>
        acquireBody_unmoved s (unmoved_bind fun _ => unmoved_block)
  | semPolling sem =>
      exact unmoved_checked fun s => acquireBody_unmoved s (unmoved_ret _)
  | semIpolling sem =>
      exact unmoved_checked fun s => acquireBody_unmoved s (unmoved_ret _)
  | eventCreate evf attr pattern => cases early
  | eventWait evf waitPattern waitMode pFlagsPattern timeout =>
      exact unmoved_checked (eventWaitBody_unmoved waitPattern waitMode
        fun _ => unmoved_bind fun _ => unmoved_block)
  | eventWaitPolling evf waitPattern waitMode pFlagsPattern =>
      exact unmoved_checked (eventWaitBody_unmoved waitPattern waitMode
        fun _ => unmoved_ret _)
  | eventIwait evf waitPattern waitMode pFlagsPattern =>
      exact unmoved_checked (eventWaitBody_unmoved waitPattern waitMode
        fun _ => unmoved_ret _)
  | eventSet evf pattern =>
      exact unmoved_checked (eventSetBody_unmoved fuel pattern)
  | eventIset evf pattern =>
      exact unmoved_checked fun e =>
        (eventSetBody_unmoved fuel pattern e).fromInterrupt
  | eventClear evf pattern =>
      exact unmoved_checked fun _ => unmoved_success rfl
  | eventIclear evf pattern =>
      exact unmoved_checked fun _ => unmoved_success rfl
  | queueCreate dque dataFifo numEntries =>
      exact tnQueueCreate_unmoved dque dataFifo numEntries
  | queueSend dque dataPtr timeout =>
      exact unmoved_checked (queueSendBody_unmoved fuel dataPtr
        fun _ => unmoved_bind fun _ => unmoved_block)
  | queueSendPolling dque dataPtr =>
      exact unmoved_checked (queueSendBody_unmoved fuel dataPtr
        fun _ => unmoved_ret _)
  | queueIsendPolling dque dataPtr =>
      exact unmoved_checked fun d => (queueSendBody_unmoved fuel dataPtr
        (fun _ => unmoved_ret _) d).fromInterrupt
  | queueReceive dque dataPtr timeout =>
      exact unmoved_checked (queueReceiveBody_unmoved fuel
        fun _ => unmoved_bind fun _ => unmoved_block)
  | queueReceivePolling dque dataPtr =>
      exact unmoved_checked (queueReceiveBody_unmoved fuel
        fun _ => unmoved_ret _)
  | queueIreceive dque dataPtr =>
      exact unmoved_checked fun d => (queueReceiveBody_unmoved fuel
        (fun _ => unmoved_ret _) d).fromInterrupt
  | fmemCreate fmp startAddr blockSize numBlocks => cases early
  | fmemGet fmp pData timeout =>
      exact unmoved_checked fun f =>
        ends_ite (fun _ => unmoved_success rfl) fun _ =>
          unmoved_bind fun _ => unmoved_block
  | fmemGetPolling fmp pData => cases early
  | fmemGetIpolling fmp pData => cases early
  | fmemRelease fmp pData =>
      exact unmoved_checked (fmemReleaseBody_unmoved fuel pData)
  | fmemIrelease fmp pData =>
      exact unmoved_checked fun f =>
        (fmemReleaseBody_unmoved fuel pData f).fromInterrupt
  | mutexCreate mutex attr ceilPriority =>
      exact tnMutexCreate_unmoved mutex attr ceilPriority
  | mutexLock mutex timeout =>
      exact unmoved_checked (mutexLockBody_unmoved fuel timeout)
  | mutexLockPolling mutex =>
      exact unmoved_checked (mutexLockPollingBody_unmoved fuel)
  | mutexUnlock mutex => exact unmoved_checked (mutexUnlockBody_unmoved fuel)
  | tickIntProcessing =>
      rintro result run
      obtain ⟨k₁, -, rfl⟩ := Option.map_eq_some_iff.mp run
      exact (unmoved_success rfl : Unmoved k (some (k₁, .ret .noErr))) _ rfl
  | sysTsliceTicks priority value => cases early

theorem Service.exec_unmoved (service : Service)
    (early : service.late = false) (exitAddress : Word) (fuel : Nat) :
    Unmoved k (service.exec exitAddress fuel k) := by
  cases service with
  | plain call => exact call.exec_unmoved early exitAddress fuel
  | taskTerminate task =>
      exact unmoved_checked (terminateBody_unmoved exitAddress fuel)
  | taskDelete task =>
      exact unmoved_checked fun _ =>
        ends_ite (fun _ => unmoved_ret _) fun _ => unmoved_success rfl
  | semDelete sem =>
      exact unmoved_checked fun _ => deleteSection_unmoved fuel _ _ _ k
  | eventDelete evf =>
      exact unmoved_checked fun _ => deleteSection_unmoved fuel _ _ _ k
  | queueDelete dque =>
      exact unmoved_checked fun _ => deleteSection_unmoved fuel _ _ _ k
  | fmemDelete fmp =>
      exact unmoved_checked fun _ => deleteSection_unmoved fuel _ _ _ k
  | mutexDelete mutex =>
      exact unmoved_checked fun _ => deleteSection_unmoved fuel _ _ _ k

end Unmoved

/-! ## Services that change something first -/

section Late

variable {k k' : Kernel} {reply : Reply}

/-- The record of a semaphore that does not exist may change. -/
theorem untouched_setSem {sem : SemId} (value : Sem)
    (same : k.isSem sem = true → value = k.sem sem) :
    Untouched k (k.setSem sem value) := by
  refine { Untouched.refl k with sem := fun s isSem => ?_ }
  change Function.update k.sem sem value s = k.sem s
  by_cases at_sem : s = sem
  · subst at_sem
    rw [Function.update_self, same isSem]
  · rw [Function.update_of_ne at_sem]

theorem untouched_setEvent {evf : EventId} (value : Event)
    (absent : k.isEvent evf = false) :
    Untouched k ({ k.setEvent evf value with
      taskLinks := queueReset k.taskLinks (.head (.wait (.event evf))) }) := by
  refine { Untouched.refl k with
    event := fun e isEvent => ?_, taskLinks := fun node owned => ?_ }
  · refine Function.update_of_ne (fun at_evf => ?_) ..
    exact absurd (at_evf ▸ isEvent) (by rw [absent]; decide)
  · have other : node ≠ .head (.wait (.event evf)) := fun at_head =>
      absurd (owned _ at_head) (by change ¬k.isEvent evf = true; simp [absent])
    exact ⟨Function.update_of_ne other .., Function.update_of_ne other ..⟩

theorem untouched_setFmp {fmp : FmpId} (value : Fmp)
    (absent : k.isFmp fmp = false) : Untouched k (k.setFmp fmp value) := by
  refine { Untouched.refl k with fmp := fun f isFmp => ?_ }
  refine Function.update_of_ne (fun at_fmp => ?_) ..
  exact absurd (at_fmp ▸ isFmp) (by rw [absent]; decide)

theorem untouched_fmpReset {fmp : FmpId} (value : Fmp)
    (absent : k.isFmp fmp = false) :
    Untouched k (({ k with
      taskLinks := queueReset k.taskLinks
        (.head (.wait (.fmp fmp))) } : Kernel).setFmp fmp value) := by
  refine { untouched_setFmp value absent with
    taskLinks := fun node owned => ?_ }
  have other : node ≠ .head (.wait (.fmp fmp)) := fun at_head =>
    absurd (owned _ at_head) (by change ¬k.isFmp fmp = true; simp [absent])
  exact ⟨Function.update_of_ne other .., Function.update_of_ne other ..⟩

/-- Only a creation that refuses its parameters writes to the semaphore. -/
theorem tnSemCreate_fails {sem : Option SemId} {startValue maxVal : Int}
    (run : tnSemCreate k sem startValue maxVal = some (k', reply))
    (fails : reply.Fails) :
    Untouched k k' ↔
      ¬(Service.plain (.semCreate sem startValue maxVal)).Damages k := by
  obtain ⟨s, rfl, body⟩ := Option.bind_eq_some_iff.mp run
  dsimp only at body
  split_ifs at body with refused context
  case pos =>
      cases body
      constructor
      · rintro same ⟨isSem, counted⟩
        have := congrArg Sem.maxCount (same.sem s isSem)
        simp only [Kernel.setSem, Function.update_self] at this
        exact counted this.symm
      · intro intact
        refine untouched_setSem _ fun isSem => ?_
        have zero : (k.sem s).maxCount = 0 := by
          by_contra counted
          exact intact ⟨isSem, counted⟩
        rw [← zero]
  case pos =>
      cases body
      have absent : k.isSem s = false := by
        have : (k.sem s).idSem = 0 := by
          by_contra used
          exact refused (.inr (.inr (.inr used)))
        simp [Kernel.isSem, this, tnIdSemaphore]
      exact iff_of_true (Untouched.refl k) fun damages =>
        absurd damages.1 (by simp [absent])
  case neg =>
      cases body
      obtain ⟨rc, isRc, differs⟩ := fails
      cases isRc
      exact absurd rfl differs

theorem tnEventCreate_fails {evf : Option EventId} {attr pattern : Word}
    (run : tnEventCreate k evf attr pattern = some (k', reply))
    (fails : reply.Fails) : Untouched k k' := by
  unfold tnEventCreate at run
  cases evf with
  | none =>
      cases run
      exact Untouched.refl k
  | some e =>
      dsimp only at run
      split_ifs at run with refused clears
      · cases run
        exact Untouched.refl k
      · cases run
        exact untouched_setEvent _ (by
          simp only [Bool.or_eq_true, not_or, Bool.not_eq_true] at refused
          exact refused.1)
      · cases run
        obtain ⟨rc, isRc, differs⟩ := fails
        cases isRc
        exact absurd rfl differs

theorem tnFmemCreate_fails {fuel : Nat} {fmp : Option FmpId}
    {startAddr blockSize : Word} {numBlocks : Int}
    (run : tnFmemCreate fuel k fmp startAddr blockSize numBlocks =
      some (k', reply))
    (fails : reply.Fails) : Untouched k k' := by
  unfold tnFmemCreate at run
  cases fmp with
  | none =>
      cases run
      exact Untouched.refl k
  | some f =>
      dsimp only at run
      split_ifs at run with exists_ refused
      · cases run
        exact Untouched.refl k
      · cases run
        exact untouched_setFmp _ (eq_false_of_ne_true exists_)
      · obtain ⟨blocks, -, run⟩ := Option.bind_eq_some_iff.mp run
        split_ifs at run with few
        · cases run
          exact untouched_fmpReset _ (eq_false_of_ne_true exists_)
        · cases run
          obtain ⟨rc, isRc, differs⟩ := fails
          cases isRc
          exact absurd rfl differs

theorem tnSysTsliceTicks_fails {priority value : Int}
    (run : tnSysTsliceTicks k priority value = some (k', reply))
    (fails : reply.Fails) : Untouched k k' := by
  unfold tnSysTsliceTicks at run
  split_ifs at run
  · cases run
    exact Untouched.refl k
  · cases run
    exact { Untouched.refl k with }
  · cases run
    obtain ⟨rc, isRc, differs⟩ := fails
    cases isRc
    exact absurd rfl differs

/-- A poll for a block fails with a block taken if the list of free blocks ends
before the count. -/
theorem fmemPoll_fails {fmp : Option FmpId} {pData wrongContext : Bool}
    (run : checked k fmp (fun _ => !pData) k.isFmp wrongContext
      (fmemGetBody k fun k _ => some (k, .ret .timeout)) = some (k', reply))
    (fails : reply.Fails) :
    Untouched k k' ↔ ¬∃ f, fmp = some f ∧ pData = true ∧ k.isFmp f = true ∧
      wrongContext = false ∧ (k.fmp f).fblkcnt > 0 ∧
        (k.fmp f).freeList = 0 := by
  unfold checked at run
  cases fmp with
  | none =>
      cases run
      exact iff_of_true (Untouched.refl k) (by rintro ⟨f, isFmp, -⟩; cases isFmp)
  | some f =>
      dsimp only at run
      split_ifs at run with noData absent context
      · cases run
        exact iff_of_true (Untouched.refl k) (by
          rintro ⟨-, -, data, -⟩
          rw [data] at noData
          exact absurd noData (by decide))
      · cases run
        exact iff_of_true (Untouched.refl k) (by
          rintro ⟨_, isSome, -, isFmp, -⟩
          cases isSome
          rw [isFmp] at absent
          exact absurd absent (by decide))
      · cases run
        exact iff_of_true (Untouched.refl k) (by
          rintro ⟨-, -, -, -, allowed, -⟩
          exact absurd (allowed.symm.trans context) (by decide))
      · simp only [fmemGetBody, fmGet] at run
        split_ifs at run with some_left nonNull nonNull'
        · cases run
          obtain ⟨rc, isRc, differs⟩ := fails
          cases isRc
          exact absurd rfl differs
        · cases run
          have isFmp : k.isFmp f = true := by simpa using absent
          refine iff_of_false (fun same => ?_) (not_not.mpr ⟨f, rfl, ?_, isFmp,
            eq_false_of_ne_true context, some_left, not_not.mp nonNull⟩)
          · have := congrArg Fmp.fblkcnt (same.fmp f isFmp)
            simp only [Kernel.setFmp, Function.update_self] at this
            omega
          · simpa using noData
        · exact absurd rfl nonNull'
        · cases run
          exact iff_of_true (Untouched.refl k) (by
            rintro ⟨_, isSome, -, -, -, left, -⟩
            cases isSome
            exact absurd left some_left)

end Late

/-- The two damages are done by services that are late to fail. -/
theorem Service.Damages.late {k : Kernel} {service : Service}
    (damages : service.Damages k) : service.late = true := by
  unfold Service.Damages at damages
  split at damages
  case h_4 => exact damages.elim
  all_goals rfl

/-- A call that fails, of any service in any state, leaves all as it was, up to
the two damages. -/
theorem failing_untouched {exitAddress : Word} {fuel : Nat} {k k' : Kernel}
    {service : Service} {reply : Reply}
    (run : service.exec exitAddress fuel k = some (k', reply))
    (fails : reply.Fails) : Untouched k k' ↔ ¬service.Damages k := by
  by_cases late : service.late = true
  case neg =>
      obtain ⟨same, -⟩ := service.exec_unmoved (eq_false_of_ne_true late)
        exitAddress fuel _ run fails
      rw [show k' = k from same]
      exact iff_of_true (Untouched.refl k) fun damages => late damages.late
  case pos =>
      unfold Service.late at late
      split at late
      · exact tnSemCreate_fails run fails
      · exact iff_of_true (tnEventCreate_fails run fails) id
      · exact iff_of_true (tnFmemCreate_fails run fails) id
      · exact iff_of_true (tnSysTsliceTicks_fails run fails) id
      · rename_i fmp pData
        rw [fmemPoll_fails run fails]
        cases fmp
        · exact iff_of_true (by rintro ⟨_, isFmp, -⟩; cases isFmp) id
        · simp [Service.Damages]
      · rename_i fmp pData
        rw [fmemPoll_fails run fails]
        cases fmp
        · exact iff_of_true (by rintro ⟨_, isFmp, -⟩; cases isFmp) id
        · simp [Service.Damages]
      · cases late

/-- The system with one semaphore. -/
def Kernel.withSem : Kernel :=
  (tnSemCreate .started (some 0) 1 1).after

theorem Kernel.withSem_reachable :
    Reachable .sample (fun _ _ => True) .withSem :=
  .next (.start Kernel.fresh_zeroed tnStartSystem_started)
    (.answer (.semCreate (some 0) 1 1) (.ret .noErr) 0 rfl rfl rfl
      (by decide) trivial)

/-- Polling a semaphore that does not exist. -/
theorem failing_untouched_withSem :
    Untouched .withSem .withSem ↔
      ¬(Service.plain (.semPolling (some 1))).Damages .withSem :=
  @failing_untouched 0 0 .withSem .withSem (.plain (.semPolling (some 1)))
    (.ret .wrongParam) rfl ⟨_, rfl, by decide⟩

/-- Created once more, the semaphore is not created, but it loses its bound. -/
theorem failing_touched : ∃ (k k' : Kernel) (service : Service)
    (reply : Reply), Reachable .sample (fun _ _ => True) k ∧
      service.exec Image.sample.tnTaskExit 0 k = some (k', reply) ∧
        reply.Fails ∧ ¬Untouched k k' := by
  refine ⟨.withSem, (tnSemCreate .withSem (some 0) 1 1).after,
    .plain (.semCreate (some 0) 1 1), .ret .wrongParam,
    Kernel.withSem_reachable, rfl, ⟨_, rfl, by decide⟩, fun same => ?_⟩
  exact absurd (congrArg Sem.maxCount (same.sem 0 rfl)) (by decide)

end UsbBulk
