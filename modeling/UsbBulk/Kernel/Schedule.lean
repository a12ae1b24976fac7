import UsbBulk.Kernel.Script
import UsbBulk.Kernel.Start

/-!
# The scheduler over whole runs

The services that are not about mutexes and do not end the waits of others, put
together: what one call keeps, what one step keeps, and what therefore holds in
every state that a run reaches.
-/

namespace UsbBulk

namespace Call

/-- No service of mutexes, and none that ends any wait whatsoever. -/
def plain : Call → Bool
  | taskReleaseWait _ | taskIreleaseWait _ => false
  | mutexCreate .. | mutexLock .. | mutexLockPolling _ | mutexUnlock _ => false
  | _ => true

/-- The task that is stopped or gets another priority. -/
def stops : Call → Option TaskId
  | taskSuspend task | taskChangePriority task _ => task
  | _ => none

/-- The task that gets another priority. -/
def raises : Call → Option TaskId
  | taskChangePriority task _ => task
  | _ => none

/-- The task that is created. -/
def creates : Call → Option TaskId
  | taskCreate task _ => task
  | _ => none

/-- The timeout of a service that waits for an object. -/
def waits : Call → Option Word
  | semAcquire _ timeout => some timeout
  | eventWait _ _ _ _ timeout => some timeout
  | queueSend _ _ timeout => some timeout
  | queueReceive _ _ timeout => some timeout
  | fmemGet _ _ timeout => some timeout
  | _ => none

end Call

section Calls

variable {rule : Rule} {k k' : Kernel} {lists : Lists}

theorem tnSysTsliceTicks_keeps (kept : Kept rule none k lists)
    (priority value : Int) :
    Keeps rule (tnSysTsliceTicks k priority value) := by
  unfold tnSysTsliceTicks
  split
  · exact kept.keeps
  split
  · exact Kept.keeps (kept.of_objects rfl rfl rfl rfl rfl rfl rfl
      fun _ => rfl)
  · exact Kept.keeps (kept.of_objects rfl rfl rfl rfl rfl rfl rfl
      fun _ => rfl)

theorem Call.exec_keeps (kept : Kept rule none k lists) {call : Call}
    (plain : call.plain = true)
    (running : call.fromInterrupt = false →
      (k.tcb k.tnCurrRunTask).taskState = .runnable ∧
        rule.stop k.tnCurrRunTask)
    (stops : ∀ t, call.stops = some t → rule.stop t)
    (raises : ∀ t, call.raises = some t → rule.raise t)
    (creates : ∀ t, call.creates = some t → rule.born t)
    (sleeps : ∀ timeout, rule.waits none timeout)
    (waits : ∀ timeout, call.waits = some timeout →
      ∀ list, list.ofMutex = false → rule.waits (some list) timeout)
    (due : call = .tickIntProcessing →
      ∀ t, (k.tcb t).Due → (k.tcb t).pwaitQueue = none)
    (tnTaskExit : Word) (fuel : Nat) :
    Keeps rule (call.exec tnTaskExit fuel k) := by
  cases call with
  | taskCreate task args => exact tnTaskCreate_keeps kept creates tnTaskExit args
  | taskSuspend task => exact tnTaskSuspend_keeps kept stops
  | taskResume task => exact tnTaskResume_keeps kept
  | taskSleep timeout =>
      exact tnTaskSleep_keeps kept (running rfl).1 (running rfl).2
        (sleeps timeout)
  | taskWakeup task => exact tnTaskWakeup_keeps kept fuel
  | taskIwakeup task => exact tnTaskIwakeup_keeps kept fuel
  | taskActivate task => exact tnTaskActivate_keeps kept
  | taskIactivate task => exact tnTaskIactivate_keeps kept
  | taskReleaseWait task => cases plain
  | taskIreleaseWait task => cases plain
  | taskChangePriority task newPriority =>
      exact tnTaskChangePriority_keeps kept raises newPriority
  | semCreate sem startValue maxVal =>
      exact tnSemCreate_keeps kept startValue maxVal
  | semSignal sem => exact tnSemSignal_keeps kept fuel
  | semIsignal sem => exact tnSemIsignal_keeps kept fuel
  | semAcquire sem timeout =>
      exact tnSemAcquire_keeps kept (running rfl).1 (running rfl).2
        (waits timeout rfl)
  | semPolling sem => exact tnSemPolling_keeps kept
  | semIpolling sem => exact tnSemIpolling_keeps kept
  | eventCreate evf attr pattern =>
      exact tnEventCreate_keeps kept attr pattern
  | eventWait evf waitPattern waitMode pFlagsPattern timeout =>
      exact tnEventWait_keeps kept (running rfl).1 (running rfl).2
        waitPattern waitMode pFlagsPattern (waits timeout rfl)
  | eventWaitPolling evf waitPattern waitMode pFlagsPattern =>
      exact tnEventWaitPolling_keeps kept waitPattern waitMode pFlagsPattern
  | eventIwait evf waitPattern waitMode pFlagsPattern =>
      exact tnEventIwait_keeps kept waitPattern waitMode pFlagsPattern
  | eventSet evf pattern => exact tnEventSet_keeps kept fuel pattern
  | eventIset evf pattern => exact tnEventIset_keeps kept fuel pattern
  | eventClear evf pattern => exact tnEventClear_keeps kept pattern
  | eventIclear evf pattern => exact tnEventIclear_keeps kept pattern
  | queueCreate dque dataFifo numEntries =>
      exact tnQueueCreate_keeps kept dataFifo numEntries
  | queueSend dque dataPtr timeout =>
      exact tnQueueSend_keeps kept (running rfl).1 (running rfl).2 fuel
        dataPtr (waits timeout rfl)
  | queueSendPolling dque dataPtr =>
      exact tnQueueSendPolling_keeps kept fuel dataPtr
  | queueIsendPolling dque dataPtr =>
      exact tnQueueIsendPolling_keeps kept fuel dataPtr
  | queueReceive dque dataPtr timeout =>
      exact tnQueueReceive_keeps kept (running rfl).1 (running rfl).2 fuel
        dataPtr (waits timeout rfl)
  | queueReceivePolling dque dataPtr =>
      exact tnQueueReceivePolling_keeps kept fuel dataPtr
  | queueIreceive dque dataPtr => exact tnQueueIreceive_keeps kept fuel dataPtr
  | fmemCreate fmp startAddr blockSize numBlocks =>
      exact tnFmemCreate_keeps kept fuel startAddr blockSize numBlocks
  | fmemGet fmp pData timeout =>
      exact tnFmemGet_keeps kept (running rfl).1 (running rfl).2 pData
        (waits timeout rfl)
  | fmemGetPolling fmp pData => exact tnFmemGetPolling_keeps kept pData
  | fmemGetIpolling fmp pData => exact tnFmemGetIpolling_keeps kept pData
  | fmemRelease fmp pData => exact tnFmemRelease_keeps kept fuel pData
  | fmemIrelease fmp pData => exact tnFmemIrelease_keeps kept fuel pData
  | mutexCreate mutex attr ceilPriority => cases plain
  | mutexLock mutex timeout => cases plain
  | mutexLockPolling mutex => cases plain
  | mutexUnlock mutex => cases plain
  | tickIntProcessing =>
      intro k' reply run
      obtain ⟨k'', tick, equal⟩ := Option.map_eq_some_iff.mp run
      cases equal
      obtain ⟨lists', after, _⟩ :=
        (tnTickIntProcessing_spec kept (due rfl) fuel).2 k' tick
      exact ⟨lists', after⟩
  | sysTsliceTicks priority value =>
      exact tnSysTsliceTicks_keeps kept priority value

theorem Kept.enterIrq (kept : Kept rule none k lists) :
    Kept rule none k.enterIrq lists :=
  kept.of_objects rfl rfl rfl rfl rfl rfl rfl fun _ => rfl

theorem Kept.leaveIrq (kept : Kept rule none k lists) :
    Kept rule none k.leaveIrq lists :=
  kept.of_objects rfl rfl rfl rfl rfl rfl rfl fun _ => rfl

theorem Consistent.next_task (consistent : Consistent none k lists)
    {next : TaskId} (cached : k.tnNextTaskToRun = some next) :
    (k.tcb next).idTask = tnIdTask ∧ (k.tcb next).taskState = .runnable := by
  have best := consistent.scheduled.best
  rw [cached] at best
  obtain ⟨p, member, _⟩ := best
  obtain ⟨task, runnable, _⟩ := Tcb.home_eq_ready.mp
    ((consistent.tasks.home next _).mp member).2
  exact ⟨task, runnable⟩

theorem Kept.dispatch (kept : Kept rule none k lists)
    (run : tnSwitchContext k = some k') : Kept rule none k' lists := by
  obtain ⟨next, cached, result⟩ := Option.bind_eq_some_iff.mp run
  cases result
  exact ⟨kept.consistent.of_objects rfl rfl rfl rfl rfl rfl
    kept.consistent.live fun _ has => has, kept.rule,
    (kept.consistent.next_task cached).1⟩

end Calls

/-! ## Runs without timeouts on objects -/

/-- The calls that a run may make: the idle task is neither stopped nor given
another priority, and a wait for an object has no timeout. -/
def Image.Untimed (image : Image) (_ : Kernel) (call : Call) : Prop :=
  call.plain = true ∧ call.stops ≠ some image.idleTask ∧
    ∀ timeout, call.waits = some timeout → timeout = tnWaitInfinite

/-- The idle task is always ready, and only plain sleeps have timeouts. -/
def Image.untimedRule (image : Image) : Rule where
  holds t tcb := (t = image.idleTask →
      tcb.idTask = tnIdTask ∧ tcb.taskState = .runnable) ∧
    (tcb.Timed → tcb.pwaitQueue = none)
  stop t := t ≠ image.idleTask
  raise _ := True
  born _ := True
  waits list timeout := list = none ∨ timeout = tnWaitInfinite
  same := by
    intro t a b same _ holds
    refine ⟨fun idle => ?_, fun timed => ?_⟩
    · rw [same.idTask, same.taskState]
      exact holds.1 idle
    · rw [same.pwaitQueue]
      exact holds.2 (same.timed.mp timed)
  awake := by
    intro t a _ waiting _ holds
    refine ⟨fun idle => ?_, fun timed => absurd timed Tcb.awake_not_timed⟩
    rw [(holds.1 idle).2] at waiting
    cases waiting
  asleep := by
    intro t a list reason timeout _ stop waits running holds
    refine ⟨fun idle => absurd idle stop, fun timed => ?_⟩
    rcases waits with rfl | rfl
    · exact running
    · exact absurd rfl timed.2.2
  suspend := by
    intro t a _ stop _
    refine ⟨fun idle => absurd idle stop, fun timed => ?_⟩
    cases timed.2.1
  ready := by
    intro t a _ _ holds
    exact ⟨fun idle => ⟨(holds.1 idle).1, rfl⟩, fun _ => rfl⟩
  freeze := by
    intro t a state waiting _ holds
    refine ⟨fun idle => ?_, fun timed => ?_⟩
    · rw [(holds.1 idle).2] at waiting
      cases waiting
    · exact holds.2 ⟨timed.1, waiting, timed.2.2⟩
  priority := fun _ holds => holds
  tick := fun timed holds => ⟨holds.1, fun _ => holds.2 timed⟩
  create := by
    intro t a b _ fresh _ dormant _ _ _ holds
    refine ⟨fun idle => ?_, fun timed => ?_⟩
    · rw [(holds.1 idle).1] at fresh
      exact absurd fresh (by decide)
    · have waiting := timed.2.1
      rw [dormant] at waiting
      cases waiting

section Runs

variable {image : Image} {k k' : Kernel} {lists : Lists}

theorem Kept.of_start (fresh : k.Fresh)
    (run : tnStartSystem image k = some k') :
    ∃ lists, Kept image.untimedRule none k' lists := by
  obtain ⟨k₁, run₁, ⟨lists, consistent, _⟩, curr, timer, idle, others⟩ :=
    tnStartSystem_spec image fresh
  obtain rfl : k₁ = k' := Option.some.inj (run₁.symm.trans run)
  refine ⟨lists, consistent, fun t => ⟨?_, fun timed => ?_⟩, curr⟩
  · rintro rfl
    exact ⟨idle.idTask, idle.taskState⟩
  · -- Neither of the two tasks waits.
    have waiting := timed.2.1
    by_cases isTimer : t = image.timerTask
    · rw [isTimer, timer.taskState] at waiting
      cases waiting
    · by_cases isIdle : t = image.idleTask
      · rw [isIdle, idle.taskState] at waiting
        cases waiting
      · exact absurd ((others t isTimer isIdle).symm.trans timed.1)
          (by decide)

theorem Kept.untimedCall (kept : Kept image.untimedRule none k lists)
    {call : Call} (may : image.Untimed k call)
    (running : call.fromInterrupt = false →
      (k.tcb k.tnCurrRunTask).taskState = .runnable ∧
        k.tnCurrRunTask ≠ image.idleTask) (fuel : Nat) :
    Keeps image.untimedRule (call.exec image.tnTaskExit fuel k) := by
  refine call.exec_keeps kept may.1 running ?_ (fun _ _ => trivial)
    (fun _ _ => trivial) (fun _ => .inl rfl)
    (fun timeout waits _ _ => .inr (may.2.2 timeout waits))
    (fun _ t due => (kept.rule t).2 due.1) image.tnTaskExit fuel
  rintro t stops rfl
  exact may.2.1 stops

theorem Kept.step (kept : Kept image.untimedRule none k lists)
    {action : Action} (step : Step image image.Untimed k action k') :
    ∃ lists', Kept image.untimedRule none k' lists' := by
  cases step with
  | call fuel task running notIdle may run =>
      exact kept.untimedCall may (fun _ => ⟨running, notIdle⟩) fuel _ _ run
  | interrupt fuel irq may run =>
      obtain ⟨lists', after⟩ := kept.enterIrq.untimedCall may
        (fun task => absurd (irq.symm.trans task) (by decide)) fuel _ _ run
      exact ⟨lists', after.leaveIrq⟩
  | dispatch run => exact ⟨lists, kept.dispatch run⟩

theorem Reachable.kept (reachable : Reachable image image.Untimed k) :
    ∃ lists, Kept image.untimedRule none k lists := by
  induction reachable with
  | start fresh run => exact Kept.of_start fresh run
  | next _ step ih =>
      obtain ⟨lists, kept⟩ := ih
      exact kept.step step

/-- The four representations of what runs and what waits agree. -/
structure InOrder (k : Kernel) (lists : Lists) : Prop where
  links : Represents k.taskLinks (liveHead lists.live) lists.task
  timerLinks : Represents k.timerLinks (fun _ => True) fun _ => lists.timer
  ready : ∀ t p, t ∈ lists.task (.ready p) ↔
    k.isTask t = true ∧ (k.tcb t).taskState = .runnable ∧
      (k.tcb t).priority = p
  bitmap : ∀ p, k.tnReadyToRunBmp.getLsbD p = true ↔
    lists.task (.ready p) ≠ []
  next : ∃ next, k.tnNextTaskToRun = some next ∧ k.isTask next = true ∧
    (k.tcb next).taskState = .runnable ∧
    ∀ t, k.isTask t = true → (k.tcb t).taskState = .runnable →
      (k.tcb next).priority ≤ (k.tcb t).priority
  waiting : ∀ t list, t ∈ lists.task (.wait list) ↔
    k.isTask t = true ∧ (k.tcb t).taskState.isWait = true ∧
      (k.tcb t).pwaitQueue = some list
  reason : ∀ t, k.isTask t = true → (k.tcb t).taskState.isWait = true →
    (k.tcb t).taskWaitReason.fits (k.tcb t).pwaitQueue = true
  object : ∀ t list, t ∈ lists.task (.wait list) → k.hasList list = true
  timer : ∀ t, t ∈ lists.timer ↔
    k.isTask t = true ∧ (k.tcb t).taskState.isWait = true ∧
      (k.tcb t).tickCount ≠ tnWaitInfinite

theorem Consistent.inOrder (consistent : Consistent none k lists)
    {idle : TaskId} (task : k.isTask idle = true)
    (ready : (k.tcb idle).taskState = .runnable) : InOrder k lists := by
  have tasks := consistent.tasks
  have readyIff : ∀ t p, t ∈ lists.task (.ready p) ↔
      k.isTask t = true ∧ (k.tcb t).taskState = .runnable ∧
        (k.tcb t).priority = p := by
    intro t p
    rw [tasks.home, isTask_iff, ← Tcb.home_eq_ready]
    simp
  have waitIff : ∀ t list, t ∈ lists.task (.wait list) ↔
      k.isTask t = true ∧ (k.tcb t).taskState.isWait = true ∧
        (k.tcb t).pwaitQueue = some list := by
    intro t list
    rw [tasks.home, isTask_iff, ← Tcb.home_eq_wait]
    simp
  refine ⟨consistent.scheduled.represents, consistent.timer, readyIff,
    consistent.scheduled.bitmap, ?_, waitIff, fun t isTask waiting => ?_,
    fun t list member => ?_, fun t => ?_⟩
  · obtain ⟨next, cached, isTask, runnable, least⟩ := consistent.next_some
      ((readyIff idle _).mpr ⟨task, ready, rfl⟩)
    refine ⟨next, cached, isTask_iff.mpr isTask, runnable,
      fun t isTask runnable => least _ ?_⟩
    exact List.ne_nil_of_mem ((readyIff t _).mpr ⟨isTask, runnable, rfl⟩)
  · exact (tasks.valid t (isTask_iff.mp isTask)).waiting waiting
  · exact consistent.waiters list (List.ne_nil_of_mem member)
  · rw [tasks.timed, isTask_iff]
    rfl

/-- The scheduler's invariant, in every state that a run reaches. -/
theorem scheduler_inOrder (reachable : Reachable image image.Untimed k) :
    ∃ lists, InOrder k lists := by
  obtain ⟨lists, kept⟩ := reachable.kept
  obtain ⟨task, ready⟩ := (kept.rule image.idleTask).1 rfl
  exact ⟨lists, kept.consistent.inOrder (isTask_iff.mpr task) ready⟩

/-- Two tasks are created; one waits for a semaphore, and the other one sleeps. -/
def waitScript : List Move := [
  .task (.taskCreate (some 2) .sample),
  .task (.taskCreate (some 3) { TaskParams.sample with priority := 6 }),
  .task (.semCreate (some 0) 0 1), .task (.taskSleep tnWaitInfinite), .switch,
  .task (.semAcquire (some 0) tnWaitInfinite), .switch, .task (.taskSleep 10),
  .irq .tickIntProcessing]

/-- Three tasks wait, one of them for a semaphore, and one for nine ticks more. -/
def Kernel.isWaiting (k : Kernel) : Bool := decide <|
  (k.isTask 2 = true ∧ (k.tcb 2).taskState.isWait = true ∧
    (k.tcb 2).pwaitQueue = some (.sem 0)) ∧
  (k.isTask 3 = true ∧ (k.tcb 3).taskState.isWait = true ∧
    (k.tcb 3).tickCount = 9) ∧ k.tnNextTaskToRun = some 1

theorem scheduler_inOrder_waiting : ∃ k lists,
    Reachable .sample Image.sample.Untimed k ∧
      2 ∈ lists.task (.wait (.sem 0)) ∧ 3 ∈ lists.timer ∧ InOrder k lists := by
  have free : ∀ move ∈ waitScript, move.Free Image.sample.Untimed := by
    simp [waitScript, Move.Free, Image.Untimed, Call.plain, Call.stops,
      Call.waits]
  obtain ⟨k, reachable, found⟩ := Reachable.of_script free
    (show (Kernel.started.follow .sample 4 ⟨[0, 1, 2, 3],
      [.ready 0, .ready 5, .ready 6, .ready 31, .wait (.sem 0)], []⟩ _).any
        Kernel.isWaiting = true by decide +kernel)
  obtain ⟨⟨isTask, waiting, onSem⟩, ⟨isTask', waiting', ticks⟩, -⟩ :=
    of_decide_eq_true found
  obtain ⟨lists, inOrder⟩ := scheduler_inOrder reachable
  refine ⟨k, lists, reachable, (inOrder.waiting 2 _).mpr
    ⟨isTask, waiting, onSem⟩, (inOrder.timer 3).mpr ⟨isTask', waiting', ?_⟩,
    inOrder⟩
  rw [ticks]
  decide

end Runs

end UsbBulk
