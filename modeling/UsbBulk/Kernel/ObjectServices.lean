import UsbBulk.Kernel.Services

/-!
# What the services of the objects preserve

Semaphores, event flags, data queues and memory pools.  Every service does one
of three things to the tasks: nothing, let the running task wait, or end the
wait of the first task of one list (of several tasks, for event flags).
-/

namespace UsbBulk

/-- The wait lists of mutexes are those whose waits end with a new priority for
another task. -/
def WaitList.ofMutex : WaitList → Bool
  | .mutex _ => true
  | _ => false

/-- What `task_wait_complete` relies on. -/
structure Tcb.Waiter (tcb : Tcb) : Prop where
  idTask : tcb.idTask = tnIdTask
  waiting : tcb.taskState.isWait = true
  noMutex : tcb.taskWaitReason.isMutex = false

theorem Tcb.Waiter.samePlace {before after : Tcb} (waiter : before.Waiter)
    (same : Tcb.SamePlace before after) : after.Waiter where
  idTask := same.idTask.trans waiter.idTask
  waiting := same.taskState ▸ waiter.waiting
  noMutex := same.taskWaitReason ▸ waiter.noMutex

theorem WaitReason.not_isMutex {reason : WaitReason} {list : WaitList}
    (fits : reason.fits (some list) = true) (plain : list.ofMutex = false) :
    reason.isMutex = false := by
  cases list <;> cases reason <;>
    simp_all [WaitReason.fits, WaitList.ofMutex, WaitReason.isMutex]

/-! ## Which wait lists exist after an object has changed -/

namespace Kernel

variable (k : Kernel) (list : WaitList)

theorem hasList_setSem (sem : SemId) (value : Sem) :
    (k.setSem sem value).hasList list =
      if list = .sem sem then decide (value.idSem = tnIdSemaphore)
      else k.hasList list := by
  cases list with
  | sem other =>
      by_cases equal : other = sem <;> simp [hasList, isSem, setSem, equal]
  | _ => simp [hasList]; try rfl

theorem hasList_setEvent (evf : EventId) (value : Event) :
    (k.setEvent evf value).hasList list =
      if list = .event evf then decide (value.idEvent = tnIdEvent)
      else k.hasList list := by
  cases list with
  | event other =>
      by_cases equal : other = evf <;>
        simp [hasList, isEvent, setEvent, equal]
  | _ => simp [hasList]; try rfl

theorem hasList_setDque (dque : DqueId) (value : Dque) :
    (k.setDque dque value).hasList list =
      if list = .dqueSend dque ∨ list = .dqueReceive dque then
        decide (value.idDque = tnIdDataqueue)
      else k.hasList list := by
  cases list with
  | dqueSend other | dqueReceive other =>
      by_cases equal : other = dque <;>
        simp [hasList, isDque, setDque, equal]
  | _ => simp [hasList]; try rfl

theorem hasList_setFmp (fmp : FmpId) (value : Fmp) :
    (k.setFmp fmp value).hasList list =
      if list = .fmp fmp then decide (value.idFmp = tnIdFsmemorypool)
      else k.hasList list := by
  cases list with
  | fmp other =>
      by_cases equal : other = fmp <;> simp [hasList, isFmp, setFmp, equal]
  | _ => simp [hasList]; try rfl

theorem hasList_setMutex (mutex : MutexId) (value : Mutex) :
    (k.setMutex mutex value).hasList list =
      if list = .mutex mutex then decide (value.idMutex = tnIdMutex)
      else k.hasList list := by
  cases list with
  | mutex other =>
      by_cases equal : other = mutex <;>
        simp [hasList, isMutex, setMutex, equal]
  | _ => simp [hasList]; try rfl

end Kernel

namespace Kept

variable {rule : Rule} {detached : Option TaskId} {k k' : Kernel}
variable {lists : Lists} {list : WaitList} {t : TaskId}

theorem noWaiters_iff (kept : Kept rule detached k lists)
    (has : k.hasList list = true) :
    k.noWaiters list = true ↔ lists.task (.wait list) = [] := by
  have alive : liveHead lists.live (.wait list) :=
    kept.consistent.live list has
  exact kept.consistent.scheduled.represents.isQueueEmpty_iff alive

/-- A wait list that is not empty has a first task. -/
theorem first (kept : Kept rule detached k lists)
    (has : k.hasList list = true) (some : k.noWaiters list = false) :
    ∃ t rest, lists.task (.wait list) = t :: rest := by
  refine List.exists_cons_of_ne_nil fun empty => ?_
  have none := (kept.noWaiters_iff has).mpr empty
  exact absurd (some.symm.trans none) (by decide)

theorem waiter (kept : Kept rule none k lists)
    (plain : list.ofMutex = false) (member : t ∈ lists.task (.wait list)) :
    (k.tcb t).Waiter := by
  obtain ⟨task, isWait, pwait⟩ := Tcb.home_eq_wait.mp
    ((kept.consistent.tasks.home t _).mp member).2
  have fits := (kept.consistent.tasks.valid t task).waiting isWait
  rw [pwait] at fits
  exact ⟨task, isWait, WaitReason.not_isMutex fits plain⟩

/-- The wait of a task that has been unlinked is completed. -/
theorem finish (kept : Kept rule (some t) k lists) (waiter : (k.tcb t).Waiter)
    (fuel : Nat) (reply : Bool → Reply) :
    Keeps rule (do
      let (k, woken) ← UsbBulk.taskWaitComplete fuel k t
      some (k, reply woken)) := by
  obtain ⟨_, _, _, run, after⟩ := kept.taskWaitComplete waiter.idTask
    waiter.waiting waiter.noMutex fuel
  rw [run]
  exact after.keeps

theorem handOver (kept : Kept rule (some t) k lists)
    (waiter : (k.tcb t).Waiter) (fuel : Nat) (elem : Word)
    (reply : Bool → Reply) :
    Keeps rule (do
      let (k, woken) ← UsbBulk.taskWaitComplete fuel
        (k.setTcb t { k.tcb t with dataElem := elem }) t
      some (k, reply woken)) := by
  have same : Tcb.SamePlace (k.tcb t) { k.tcb t with dataElem := elem } :=
    ⟨rfl, rfl, rfl, rfl, rfl, rfl, rfl⟩
  refine (kept.setTcb same rfl).finish ?_ fuel reply
  simpa [Kernel.setTcb] using waiter.samePlace same

theorem setSem (kept : Kept rule detached k lists) {sem : SemId}
    {value : Sem} (sameId : value.idSem = (k.sem sem).idSem) :
    Kept rule detached (k.setSem sem value) lists := by
  refine kept.of_objects rfl rfl rfl rfl rfl rfl rfl fun list => ?_
  rw [Kernel.hasList_setSem, sameId]
  split
  · next equal => rw [equal]; rfl
  · rfl

theorem setEvent (kept : Kept rule detached k lists) {evf : EventId}
    {value : Event} (sameId : value.idEvent = (k.event evf).idEvent) :
    Kept rule detached (k.setEvent evf value) lists := by
  refine kept.of_objects rfl rfl rfl rfl rfl rfl rfl fun list => ?_
  rw [Kernel.hasList_setEvent, sameId]
  split
  · next equal => rw [equal]; rfl
  · rfl

theorem setDque (kept : Kept rule detached k lists) {dque : DqueId}
    {value : Dque} (sameId : value.idDque = (k.dque dque).idDque) :
    Kept rule detached (k.setDque dque value) lists := by
  refine kept.of_objects rfl rfl rfl rfl rfl rfl rfl fun list => ?_
  rw [Kernel.hasList_setDque, sameId]
  split
  · next equal => rcases equal with equal | equal <;> rw [equal] <;> rfl
  · rfl

theorem setFmp (kept : Kept rule detached k lists) {fmp : FmpId}
    {value : Fmp}
    (same : decide (value.idFmp = tnIdFsmemorypool) = k.isFmp fmp) :
    Kept rule detached (k.setFmp fmp value) lists := by
  refine kept.of_objects rfl rfl rfl rfl rfl rfl rfl fun list => ?_
  rw [Kernel.hasList_setFmp, same]
  split
  · next equal => rw [equal]; rfl
  · rfl

theorem created (kept : Kept rule detached k lists) {k₁ : Kernel}
    {lists₁ : Lists} (consistent : Consistent detached k₁ lists₁)
    (taskLinks : k'.taskLinks = k₁.taskLinks)
    (timerLinks : k'.timerLinks = k₁.timerLinks)
    (createLinks : k'.createLinks = k₁.createLinks)
    (tcb : k'.tcb = k₁.tcb)
    (bmp : k'.tnReadyToRunBmp = k₁.tnReadyToRunBmp)
    (next : k'.tnNextTaskToRun = k₁.tnNextTaskToRun)
    (same : k'.tcb = k.tcb ∧ k'.tnCurrRunTask = k.tnCurrRunTask)
    (new : ∀ list, k'.hasList list = true → k.hasList list = false →
      lists₁.live list)
    (old : ∀ list, k.hasList list = true → lists₁.live list)
    (still : ∀ list, k₁.hasList list = true → k'.hasList list = true) :
    Kept rule detached k' lists₁ where
  consistent := by
    refine consistent.of_objects taskLinks timerLinks createLinks tcb bmp
      next (fun list has => ?_) still
    cases before : k.hasList list with
    | false => exact new list has before
    | true => exact old list before
  rule := same.1 ▸ kept.rule
  curr := by
    rw [same.1, same.2]
    exact kept.curr

theorem block (kept : Kept rule none k lists)
    (running : (k.tcb k.tnCurrRunTask).taskState = .runnable)
    (stop : rule.stop k.tnCurrRunTask) {reason : WaitReason}
    {timeout : Word} (waits : rule.waits (some list) timeout)
    (fits : reason.fits (some list) = true) (has : k.hasList list = true) :
    Keeps rule (do
      let k ← UsbBulk.taskCurrToWaitAction k (some list) reason timeout
      some (k, .block)) := by
  obtain ⟨_, _, _, _, run, after⟩ := kept.taskCurrToWaitAction running stop
    waits fits (by simpa using has)
  rw [run]
  exact after.keeps

end Kept

/-! ## Semaphores -/

section Semaphores

variable {rule : Rule} {k : Kernel} {lists : Lists} {sem : Option SemId}

theorem tnSemCreate_keeps (kept : Kept rule none k lists)
    (startValue maxVal : Int) :
    Keeps rule (tnSemCreate k sem startValue maxVal) := by
  cases sem with
  | none => intro _ _ run; cases run
  | some s =>
      change Keeps rule (if _ then _ else _)
      split
      · exact Kept.keeps (kept.setSem rfl)
      next params =>
      split
      · exact kept.keeps
      have fresh : (k.sem s).idSem = 0 := by
        by_contra used
        exact params (.inr (.inr (.inr used)))
      have absent : k.hasList (.sem s) = false := by
        simp [Kernel.hasList, Kernel.isSem, fresh, tnIdSemaphore]
      refine Kept.keeps (kept.created (kept.consistent.resetList _ absent)
        rfl rfl rfl rfl rfl rfl ⟨rfl, rfl⟩ ?_
        (fun list has => .inr (kept.consistent.live list has)) ?_)
      · intro list has before
        have split := k.hasList_setSem list s
          ⟨startValue, maxVal, tnIdSemaphore⟩
        by_cases equal : list = .sem s
        · exact .inl equal
        · rw [if_neg equal] at split
          exact absurd (before.symm.trans (split.symm.trans has)) (by decide)
      · intro list has
        refine (k.hasList_setSem list s _).trans ?_
        split
        · exact decide_eq_true rfl
        · exact has

theorem signalBody_keeps (kept : Kept rule none k lists) {s : SemId}
    (has : k.hasList (.sem s) = true) (fuel : Nat) :
    Keeps rule (signalBody fuel k s) := by
  unfold signalBody
  cases none : k.noWaiters (.sem s) with
  | false =>
      obtain ⟨t, rest, waiting⟩ := kept.first has none
      have waiter := kept.waiter (t := t) rfl (by rw [waiting]; simp)
      obtain ⟨run, detached⟩ := kept.removeWaiter waiting
      simp only [Bool.not_false, if_true, run, Option.bind_eq_bind,
        Option.bind_some]
      exact detached.finish waiter fuel _
  | true =>
      simp only [Bool.not_true, Bool.false_eq_true, if_false]
      split
      · exact Kept.keeps (kept.setSem rfl)
      · exact kept.keeps

theorem tnSemSignal_keeps (kept : Kept rule none k lists) (fuel : Nat) :
    Keeps rule (tnSemSignal fuel k sem) :=
  kept.checked fun _ _ _ valid _ => signalBody_keeps kept valid fuel

theorem tnSemIsignal_keeps (kept : Kept rule none k lists) (fuel : Nat) :
    Keeps rule (tnSemIsignal fuel k sem) :=
  kept.checked fun _ _ _ valid _ =>
    (signalBody_keeps kept valid fuel).fromInterrupt

theorem acquireBody_keeps (kept : Kept rule none k lists) {s : SemId}
    {taken : Outcome} (keeps : Keeps rule taken) :
    Keeps rule (acquireBody k s taken) := by
  unfold acquireBody
  split
  · exact Kept.keeps (kept.setSem rfl)
  · exact keeps

theorem tnSemAcquire_keeps (kept : Kept rule none k lists)
    (running : (k.tcb k.tnCurrRunTask).taskState = .runnable)
    (stop : rule.stop k.tnCurrRunTask) {timeout : Word}
    (waits : ∀ list, list.ofMutex = false → rule.waits (some list) timeout) :
    Keeps rule (tnSemAcquire k sem timeout) :=
  kept.checked fun _ _ _ valid _ => acquireBody_keeps kept
    (kept.block running stop (waits _ rfl) rfl valid)

theorem tnSemPolling_keeps (kept : Kept rule none k lists) :
    Keeps rule (tnSemPolling k sem) :=
  kept.checked fun _ _ _ _ _ => acquireBody_keeps kept kept.keeps

theorem tnSemIpolling_keeps (kept : Kept rule none k lists) :
    Keeps rule (tnSemIpolling k sem) :=
  kept.checked fun _ _ _ _ _ => acquireBody_keeps kept kept.keeps

end Semaphores

/-! ## Data queues -/

section DataQueues

variable {rule : Rule} {k : Kernel} {lists : Lists} {dque : Option DqueId}

theorem dqueFifoWrite_idDque (dque : Dque) (dataPtr : Word) :
    (dqueFifoWrite dque dataPtr).1.idDque = dque.idDque := by
  unfold dqueFifoWrite
  split
  · rfl
  split
  · rfl
  dsimp only
  split <;> rfl

theorem dqueFifoRead_idDque (dque : Dque) :
    (dqueFifoRead dque).1.idDque = dque.idDque := by
  unfold dqueFifoRead
  split
  · rfl
  split
  · rfl
  dsimp only
  split <;> rfl

theorem queueSendBody_keeps (kept : Kept rule none k lists) {d : DqueId}
    (valid : k.isDque d = true) (fuel : Nat) (dataPtr : Word)
    {full : Kernel → DqueId → Outcome}
    (keeps : Kept rule none
        (k.setDque d (dqueFifoWrite (k.dque d) dataPtr).1) lists →
      Keeps rule
        (full (k.setDque d (dqueFifoWrite (k.dque d) dataPtr).1) d)) :
    Keeps rule (queueSendBody fuel k dataPtr full d) := by
  have has : k.hasList (.dqueReceive d) = true := valid
  unfold queueSendBody
  cases none : k.noWaiters (.dqueReceive d) with
  | false =>
      obtain ⟨t, rest, waiting⟩ := kept.first has none
      have waiter := kept.waiter (t := t) rfl (by rw [waiting]; simp)
      obtain ⟨run, detached⟩ := kept.removeWaiter waiting
      simp only [Bool.not_false, if_true, run, Option.bind_eq_bind,
        Option.bind_some]
      exact detached.handOver waiter fuel dataPtr _
  | true =>
      have written := kept.setDque (dqueFifoWrite_idDque (k.dque d) dataPtr)
      simp only [Bool.not_true, Bool.false_eq_true, if_false]
      split
      · exact keeps written
      · exact written.keeps

theorem tnQueueCreate_keeps (kept : Kept rule none k lists)
    (dataFifo : Option (Int → Word)) (numEntries : Int) :
    Keeps rule (tnQueueCreate k dque dataFifo numEntries) := by
  unfold tnQueueCreate
  cases dque with
  | none => exact kept.keeps
  | some d =>
      dsimp only
      split
      · exact kept.keeps
      next params =>
      have fresh : k.isDque d = false := by
        simpa using (not_or.mp (mt Bool.or_eq_true_iff.mpr params)).2
      have sendList := kept.consistent.resetList (.dqueSend d) fresh
      have receiveList := sendList.resetList (.dqueReceive d) fresh
      refine Kept.keeps (kept.created receiveList rfl rfl rfl rfl rfl rfl
        ⟨rfl, rfl⟩ ?_ (fun list has =>
          .inr (.inr (kept.consistent.live list has))) ?_)
      · intro list has before
        have split := k.hasList_setDque list d
          ⟨dataFifo, if dataFifo.isNone then 0 else numEntries, 0, 0,
            tnIdDataqueue⟩
        by_cases equal : list = .dqueSend d ∨ list = .dqueReceive d
        · exact equal.elim (fun equal => .inr (.inl equal)) .inl
        · rw [if_neg equal] at split
          exact absurd (before.symm.trans (split.symm.trans has)) (by decide)
      · intro list has
        refine (k.hasList_setDque list d _).trans ?_
        split
        · exact decide_eq_true rfl
        · exact has

theorem tnQueueSend_keeps (kept : Kept rule none k lists)
    (running : (k.tcb k.tnCurrRunTask).taskState = .runnable)
    (stop : rule.stop k.tnCurrRunTask) (fuel : Nat) (dataPtr : Word)
    {timeout : Word}
    (waits : ∀ list, list.ofMutex = false → rule.waits (some list) timeout) :
    Keeps rule (tnQueueSend fuel k dque dataPtr timeout) :=
  kept.checked fun d _ _ valid _ =>
    queueSendBody_keeps kept valid fuel dataPtr fun written => by
      have same : Tcb.SamePlace (k.tcb k.tnCurrRunTask)
          { k.tcb k.tnCurrRunTask with dataElem := dataPtr } :=
        ⟨rfl, rfl, rfl, rfl, rfl, rfl, rfl⟩
      have stored := written.setTcb same rfl
      refine stored.block ?_ stop (waits _ rfl) rfl ?_
      · simpa [Kernel.setTcb, Kernel.setDque] using running
      · simpa [Kernel.hasList, Kernel.isDque, Kernel.setTcb, Kernel.setDque,
          dqueFifoWrite_idDque] using valid

theorem tnQueueSendPolling_keeps (kept : Kept rule none k lists)
    (fuel : Nat) (dataPtr : Word) :
    Keeps rule (tnQueueSendPolling fuel k dque dataPtr) :=
  kept.checked fun _ _ _ valid _ =>
    queueSendBody_keeps kept valid fuel dataPtr Kept.keeps

theorem tnQueueIsendPolling_keeps (kept : Kept rule none k lists)
    (fuel : Nat) (dataPtr : Word) :
    Keeps rule (tnQueueIsendPolling fuel k dque dataPtr) :=
  kept.checked fun _ _ _ valid _ =>
    (queueSendBody_keeps kept valid fuel dataPtr Kept.keeps).fromInterrupt

theorem queueReceiveBody_keeps (kept : Kept rule none k lists) {d : DqueId}
    (valid : k.isDque d = true) (fuel : Nat)
    {empty : Kernel → DqueId → Outcome}
    (keeps : Kept rule none (k.setDque d (dqueFifoRead (k.dque d)).1) lists →
      Keeps rule (empty (k.setDque d (dqueFifoRead (k.dque d)).1) d)) :
    Keeps rule (queueReceiveBody fuel k empty d) := by
  have read := kept.setDque (dqueFifoRead_idDque (k.dque d))
  have has : (k.setDque d (dqueFifoRead (k.dque d)).1).hasList
      (.dqueSend d) = true := by
    simpa [Kernel.hasList, Kernel.isDque, Kernel.setDque,
      dqueFifoRead_idDque] using valid
  unfold queueReceiveBody
  cases none : (k.setDque d (dqueFifoRead (k.dque d)).1).noWaiters
    (.dqueSend d) with
  | false =>
      obtain ⟨t, rest, waiting⟩ := read.first has none
      have waiter := read.waiter (t := t) rfl (by rw [waiting]; simp)
      obtain ⟨run, detached⟩ := read.removeWaiter waiting
      simp only [none, Bool.not_false, if_true, run, Option.bind_eq_bind,
        Option.bind_some]
      split
      · exact (detached.setDque (dqueFifoWrite_idDque _ _)).finish waiter
          fuel fun woken => ⟨some .noErr, _, woken⟩
      · exact detached.finish waiter fuel _
  | true =>
      simp only [none, Bool.not_true, Bool.false_eq_true, if_false]
      split
      · exact read.keeps
      · exact keeps read

theorem tnQueueReceive_keeps (kept : Kept rule none k lists)
    (running : (k.tcb k.tnCurrRunTask).taskState = .runnable)
    (stop : rule.stop k.tnCurrRunTask) (fuel : Nat) (dataPtr : Bool)
    {timeout : Word}
    (waits : ∀ list, list.ofMutex = false → rule.waits (some list) timeout) :
    Keeps rule (tnQueueReceive fuel k dque dataPtr timeout) :=
  kept.checked fun d _ _ valid _ =>
    queueReceiveBody_keeps kept valid fuel fun read => by
      refine read.block running stop (waits _ rfl) rfl ?_
      simpa [Kernel.hasList, Kernel.isDque, Kernel.setDque,
        dqueFifoRead_idDque] using valid

theorem tnQueueReceivePolling_keeps (kept : Kept rule none k lists)
    (fuel : Nat) (dataPtr : Bool) :
    Keeps rule (tnQueueReceivePolling fuel k dque dataPtr) :=
  kept.checked fun _ _ _ valid _ =>
    queueReceiveBody_keeps kept valid fuel Kept.keeps

theorem tnQueueIreceive_keeps (kept : Kept rule none k lists)
    (fuel : Nat) (dataPtr : Bool) :
    Keeps rule (tnQueueIreceive fuel k dque dataPtr) :=
  kept.checked fun _ _ _ valid _ =>
    (queueReceiveBody_keeps kept valid fuel Kept.keeps).fromInterrupt

end DataQueues

/-! ## Memory pools -/

section MemoryPools

variable {rule : Rule} {k : Kernel} {lists : Lists} {fmp : Option FmpId}

theorem Kept.setMem {detached : Option TaskId}
    (kept : Kept rule detached k lists) (mem : Word → Word) :
    Kept rule detached (k.setMem mem) lists :=
  kept.of_objects rfl rfl rfl rfl rfl rfl rfl fun _ => rfl

theorem tnFmemCreate_keeps (kept : Kept rule none k lists) (fuel : Nat)
    (startAddr blockSize : Word) (numBlocks : Int) :
    Keeps rule (tnFmemCreate fuel k fmp startAddr blockSize numBlocks) := by
  unfold tnFmemCreate
  cases fmp with
  | none => exact kept.keeps
  | some f =>
      dsimp only
      split
      · exact kept.keeps
      next notPool =>
      have absent : k.isFmp f = false := by simpa using notPool
      split
      · refine Kept.keeps (kept.setFmp (.trans ?_ absent.symm))
        exact decide_eq_false (show ¬(0 : Word) = tnIdFsmemorypool by decide)
      -- The wait list is reset; the pool appears only if two blocks fit.
      have reset := kept.consistent.resetList (.fmp f) absent
      intro k' reply run
      obtain ⟨blocks, _, run⟩ := Option.bind_eq_some_iff.mp run
      have old := fun list has =>
        Or.inr (a := list = .fmp f) (kept.consistent.live list has)
      split at run
      · cases run
        refine ⟨_, kept.created reset rfl rfl rfl rfl rfl rfl ⟨rfl, rfl⟩ ?_
          old ?_⟩
        · intro list has _
          have split := k.hasList_setFmp list f { k.fmp f with
            startAddr := alignUp startAddr, blockSize := alignUp blockSize
            fblkcnt := 0, numBlocks := 0, freeList := 0 }
          by_cases equal : list = .fmp f
          · exact .inl equal
          · rw [if_neg equal] at split
            exact old list (split.symm.trans has)
        · intro list has
          refine (k.hasList_setFmp list f _).trans ?_
          split
          · next equal =>
              subst equal
              exact has
          · exact has
      · cases run
        refine ⟨_, kept.created reset rfl rfl rfl rfl rfl rfl ⟨rfl, rfl⟩ ?_
          old ?_⟩
        · intro list has _
          have split := k.hasList_setFmp list f { k.fmp f with
            startAddr := alignUp startAddr, blockSize := alignUp blockSize
            numBlocks := blocks, freeList := alignUp startAddr
            fblkcnt := blocks, idFmp := tnIdFsmemorypool }
          by_cases equal : list = .fmp f
          · exact .inl equal
          · rw [if_neg equal] at split
            exact old list (split.symm.trans has)
        · intro list has
          refine (k.hasList_setFmp list f _).trans ?_
          split
          · exact decide_eq_true rfl
          · exact has

theorem fmGet_keeps (kept : Kept rule none k lists) (f : FmpId) :
    Kept rule none (fmGet k f).1 lists := by
  unfold fmGet
  dsimp only
  split
  · exact kept.setFmp rfl
  · exact kept

theorem fmPut_keeps (kept : Kept rule none k lists) (f : FmpId)
    (block : Word) : Kept rule none (fmPut k f block).1 lists := by
  unfold fmPut
  dsimp only
  split
  · refine Kept.setMem (Kept.setFmp kept ?_) _
    rfl
  · exact kept

theorem fmemGetBody_keeps (kept : Kept rule none k lists) {f : FmpId}
    {taken : Kernel → FmpId → Outcome}
    (keeps : Kept rule none (fmGet k f).1 lists →
      Keeps rule (taken (fmGet k f).1 f)) :
    Keeps rule (fmemGetBody k taken f) := by
  have got := fmGet_keeps kept f
  unfold fmemGetBody
  dsimp only
  split
  · exact got.keeps
  · exact keeps got

theorem fmGet_isFmp (f : FmpId) : (fmGet k f).1.isFmp f = k.isFmp f := by
  unfold fmGet
  dsimp only
  split
  · simp [Kernel.isFmp, Kernel.setFmp]
  · rfl

theorem fmGet_running (f : FmpId) :
    (fmGet k f).1.tcb = k.tcb ∧
      (fmGet k f).1.tnCurrRunTask = k.tnCurrRunTask := by
  unfold fmGet
  dsimp only
  split <;> exact ⟨rfl, rfl⟩

theorem tnFmemGet_keeps (kept : Kept rule none k lists)
    (running : (k.tcb k.tnCurrRunTask).taskState = .runnable)
    (stop : rule.stop k.tnCurrRunTask) (pData : Bool) {timeout : Word}
    (waits : ∀ list, list.ofMutex = false → rule.waits (some list) timeout) :
    Keeps rule (tnFmemGet k fmp pData timeout) :=
  kept.checked fun f _ _ valid _ => fmemGetBody_keeps kept fun got => by
    obtain ⟨tcb, curr⟩ := fmGet_running (k := k) f
    refine got.block ?_ ?_ (waits _ rfl) rfl ((fmGet_isFmp f).trans valid)
    · rw [tcb, curr]
      exact running
    · rw [curr]
      exact stop

theorem tnFmemGetPolling_keeps (kept : Kept rule none k lists)
    (pData : Bool) : Keeps rule (tnFmemGetPolling k fmp pData) :=
  kept.checked fun _ _ _ _ _ => fmemGetBody_keeps kept fun got => got.keeps

theorem tnFmemGetIpolling_keeps (kept : Kept rule none k lists)
    (pData : Bool) : Keeps rule (tnFmemGetIpolling k fmp pData) :=
  kept.checked fun _ _ _ _ _ => fmemGetBody_keeps kept fun got => got.keeps

theorem fmemReleaseBody_keeps (kept : Kept rule none k lists) {f : FmpId}
    (valid : k.isFmp f = true) (fuel : Nat) (pData : Word) :
    Keeps rule (fmemReleaseBody fuel k pData f) := by
  have has : k.hasList (.fmp f) = true := valid
  unfold fmemReleaseBody
  cases none : k.noWaiters (.fmp f) with
  | false =>
      obtain ⟨t, rest, waiting⟩ := kept.first has none
      have waiter := kept.waiter (t := t) rfl (by rw [waiting]; simp)
      obtain ⟨run, detached⟩ := kept.removeWaiter waiting
      simp only [Bool.not_false, if_true, run, Option.bind_eq_bind,
        Option.bind_some]
      exact detached.handOver waiter fuel pData _
  | true => exact (fmPut_keeps kept f pData).keeps

theorem tnFmemRelease_keeps (kept : Kept rule none k lists) (fuel : Nat)
    (pData : Word) : Keeps rule (tnFmemRelease fuel k fmp pData) :=
  kept.checked fun _ _ _ valid _ =>
    fmemReleaseBody_keeps kept valid fuel pData

theorem tnFmemIrelease_keeps (kept : Kept rule none k lists) (fuel : Nat)
    (pData : Word) : Keeps rule (tnFmemIrelease fuel k fmp pData) :=
  kept.checked fun _ _ _ valid _ =>
    (fmemReleaseBody_keeps kept valid fuel pData).fromInterrupt

end MemoryPools

/-! ## Event flags -/

section Events

variable {rule : Rule} {k : Kernel} {lists : Lists} {evf : Option EventId}

theorem tnEventCreate_keeps (kept : Kept rule none k lists)
    (attr pattern : Word) :
    Keeps rule (tnEventCreate k evf attr pattern) := by
  unfold tnEventCreate
  cases evf with
  | none => exact kept.keeps
  | some e =>
      dsimp only
      split
      · exact kept.keeps
      next params =>
      have absent : k.isEvent e = false := by
        simpa using (not_or.mp (mt Bool.or_eq_true_iff.mpr params)).1
      have reset := kept.consistent.resetList (.event e) absent
      have old := fun list has =>
        Or.inr (a := list = .event e) (kept.consistent.live list has)
      split
      · refine Kept.keeps (kept.created reset rfl rfl rfl rfl rfl rfl
          ⟨rfl, rfl⟩ ?_ old ?_)
        · intro list has _
          have split := k.hasList_setEvent list e
            ⟨tnInvalidVal, pattern, (k.event e).idEvent⟩
          by_cases equal : list = .event e
          · exact .inl equal
          · rw [if_neg equal] at split
            exact old list (split.symm.trans has)
        · intro list has
          refine (k.hasList_setEvent list e _).trans ?_
          split
          · next equal =>
              subst equal
              exact has
          · exact has
      · refine Kept.keeps (kept.created reset rfl rfl rfl rfl rfl rfl
          ⟨rfl, rfl⟩ ?_ old ?_)
        · intro list has _
          have split := k.hasList_setEvent list e ⟨attr, pattern, tnIdEvent⟩
          by_cases equal : list = .event e
          · exact .inl equal
          · rw [if_neg equal] at split
            exact old list (split.symm.trans has)
        · intro list has
          refine (k.hasList_setEvent list e _).trans ?_
          split
          · exact decide_eq_true rfl
          · exact has

theorem eventWaitBody_keeps (kept : Kept rule none k lists) {e : EventId}
    (waitPattern waitMode : Word) {unmet : EventId → Outcome}
    (keeps : Keeps rule (unmet e)) :
    Keeps rule (eventWaitBody k waitPattern waitMode unmet e) := by
  unfold eventWaitBody
  dsimp only
  split
  · exact kept.keeps
  split
  · refine Kept.keeps (kept.setEvent ?_)
    split <;> rfl
  · exact keeps

theorem tnEventWait_keeps (kept : Kept rule none k lists)
    (running : (k.tcb k.tnCurrRunTask).taskState = .runnable)
    (stop : rule.stop k.tnCurrRunTask) (waitPattern waitMode : Word)
    (pFlagsPattern : Bool) {timeout : Word}
    (waits : ∀ list, list.ofMutex = false → rule.waits (some list) timeout) :
    Keeps rule
      (tnEventWait k evf waitPattern waitMode pFlagsPattern timeout) :=
  kept.checked fun e _ _ valid _ =>
    eventWaitBody_keeps kept waitPattern waitMode <| by
      have same : Tcb.SamePlace (k.tcb k.tnCurrRunTask)
          { k.tcb k.tnCurrRunTask with
            ewaitMode := waitMode, ewaitPattern := waitPattern } :=
        ⟨rfl, rfl, rfl, rfl, rfl, rfl, rfl⟩
      have stored := kept.setTcb same rfl
      refine stored.block ?_ stop (waits _ rfl) rfl valid
      simpa [Kernel.setTcb] using running

theorem tnEventWaitPolling_keeps (kept : Kept rule none k lists)
    (waitPattern waitMode : Word) (pFlagsPattern : Bool) :
    Keeps rule
      (tnEventWaitPolling k evf waitPattern waitMode pFlagsPattern) :=
  kept.checked fun _ _ _ _ _ =>
    eventWaitBody_keeps kept waitPattern waitMode kept.keeps

theorem tnEventIwait_keeps (kept : Kept rule none k lists)
    (waitPattern waitMode : Word) (pFlagsPattern : Bool) :
    Keeps rule (tnEventIwait k evf waitPattern waitMode pFlagsPattern) :=
  kept.checked fun _ _ _ _ _ =>
    eventWaitBody_keeps kept waitPattern waitMode kept.keeps

/-- The walk over the wait list has reached `u`, and the tasks before it stay
where they are.  Ending the wait of `u` leaves the rest of the list in place. -/
theorem scanFrom_keeps {fuel rounds : Nat} {e : EventId} {u : TaskId}
    {wcflag : Bool} {k' : Kernel} {result : Bool} (front rest : List TaskId)
    (kept : Kept rule none k lists)
    (reached : lists.task (.wait (.event e)) = front ++ u :: rest)
    (run : scanFrom fuel e rounds k (.entry u) wcflag = some (k', result)) :
    ∃ lists', Kept rule none k' lists' := by
  induction rounds generalizing k lists u front rest wcflag with
  | zero => cases run
  | succ rounds ih =>
      have member : u ∈ lists.task (.wait (.event e)) := by simp [reached]
      have next := kept.consistent.scheduled.represents.next_entry reached
      have last : k.taskLinks.next (.entry u) = .head (.wait (.event e)) ↔
          rest = [] := by
        rw [next]
        cases rest <;> simp
      simp only [scanFrom, getTaskByTskQueue, Option.bind_eq_bind,
        Option.bind_some] at run
      split at run
      · -- The condition is met: `u` leaves the list.
        have waiter := kept.waiter rfl member
        have detached := kept.unlinkWaiter member
        have same : Tcb.SamePlace (k.tcb u)
            { k.tcb u with ewaitPattern := (k.event e).pattern } :=
          ⟨rfl, rfl, rfl, rfl, rfl, rfl, rfl⟩
        have stored := detached.setTcb same rfl
        have still : (((Kernel.setTcb { k with
            taskLinks := queueRemoveEntry k.taskLinks (.entry u) } u
            { k.tcb u with ewaitPattern := (k.event e).pattern }).tcb
              u)).Waiter := by
          simpa [Kernel.setTcb] using waiter.samePlace same
        obtain ⟨_, _, _, complete, after⟩ := stored.taskWaitComplete
          still.idTask still.waiting still.noMutex fuel
        simp only [complete, Option.bind_some] at run
        split at run
        · cases run
          exact ⟨_, after⟩
        · next notLast =>
            cases rest with
            | nil => simp [last] at notLast
            | cons v rest =>
                rw [next] at run
                refine ih front rest after ?_ run
                have nodup := kept.consistent.scheduled.represents.nodup
                  (.wait (.event e))
                rw [reached] at nodup
                have absent : u ∉ front := fun inside =>
                  (List.nodup_append.mp nodup).2.2 u inside u (by simp) rfl
                have left : (lists.detach u).task (.wait (.event e)) =
                    front ++ v :: rest := by
                  simp [Lists.detach, drop, reached, List.erase_append,
                    absent]
                rw [Lists.wake_wait]
                exact left
      · split at run
        · cases run
          exact ⟨lists, kept⟩
        · next notLast =>
            cases rest with
            | nil => simp [last] at notLast
            | cons v rest =>
                rw [next] at run
                exact ih (front ++ [u]) rest kept (by simp [reached]) run

theorem eventSetBody_keeps (kept : Kept rule none k lists) {e : EventId}
    (valid : k.isEvent e = true) (fuel : Nat) (pattern : Word) :
    Keeps rule (eventSetBody fuel k pattern e) := by
  have written : Kept rule none (k.setEvent e { k.event e with
      pattern := (k.event e).pattern ||| pattern }) lists :=
    kept.setEvent rfl
  have has : (k.setEvent e { k.event e with
      pattern := (k.event e).pattern ||| pattern }).hasList (.event e) =
        true := by
    simpa [Kernel.hasList, Kernel.isEvent, Kernel.setEvent] using valid
  unfold eventSetBody
  dsimp only
  split
  · next some =>
      obtain ⟨t, rest, waiting⟩ := written.first has (by simpa using some)
      intro k' reply run
      obtain ⟨⟨k₁, wcflag⟩, scan, run⟩ := Option.bind_eq_some_iff.mp run
      have alive : liveHead lists.live (.wait (.event e)) :=
        written.consistent.live _ has
      have first := written.consistent.scheduled.represents.next_head alive
      rw [waiting] at first
      unfold scanEventWaitqueue at scan
      rw [first] at scan
      obtain ⟨lists', after⟩ := scanFrom_keeps [] rest written waiting
        scan
      dsimp only at run
      split at run
      · cases run
        refine ⟨lists', ?_⟩
        split
        · exact after.setEvent rfl
        · exact after
      · cases run
        exact ⟨lists', after⟩
  · exact written.keeps

theorem tnEventSet_keeps (kept : Kept rule none k lists) (fuel : Nat)
    (pattern : Word) : Keeps rule (tnEventSet fuel k evf pattern) :=
  kept.checked fun _ _ _ valid _ =>
    eventSetBody_keeps kept valid fuel pattern

theorem tnEventIset_keeps (kept : Kept rule none k lists) (fuel : Nat)
    (pattern : Word) : Keeps rule (tnEventIset fuel k evf pattern) :=
  kept.checked fun _ _ _ valid _ =>
    (eventSetBody_keeps kept valid fuel pattern).fromInterrupt

theorem tnEventClear_keeps (kept : Kept rule none k lists)
    (pattern : Word) : Keeps rule (tnEventClear k evf pattern) :=
  kept.checked fun _ _ _ _ _ => Kept.keeps (kept.setEvent rfl)

theorem tnEventIclear_keeps (kept : Kept rule none k lists)
    (pattern : Word) : Keeps rule (tnEventIclear k evf pattern) :=
  kept.checked fun _ _ _ _ _ => Kept.keeps (kept.setEvent rfl)

end Events

end UsbBulk
