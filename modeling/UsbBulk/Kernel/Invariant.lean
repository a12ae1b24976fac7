import UsbBulk.Kernel.Ready

/-!
# The invariant of the kernel

The kernel's state seen as lists of tasks, and the agreement between these
lists, the links, and what every control block says about its task.  A task
that a service has just unlinked is *detached*: it is in no list, whatever its
control block says, until the service puts it back.
-/

namespace UsbBulk

/-- The reason of a wait and the list of the wait belong together. -/
def WaitReason.fits : WaitReason → Option WaitList → Bool
  | .sleep, .none => true
  | .sem, some (.sem _) => true
  | .event, some (.event _) => true
  | .dqueWsend, some (.dqueSend _) => true
  | .dqueWreceive, some (.dqueReceive _) => true
  | .wfixmem, some (.fmp _) => true
  | .mutexC, some (.mutex _) => true
  | .mutexCBlk, some (.mutex _) => true
  | .mutexI, some (.mutex _) => true
  | _, _ => false

namespace Tcb

/-- The list that a control block claims its task is in. -/
def home (tcb : Tcb) : Option QueueHead :=
  if tcb.idTask = tnIdTask then
    match tcb.taskState with
    | .runnable => some (.ready tcb.priority)
    | .wait | .waitsusp => tcb.pwaitQueue.map .wait
    | .suspend | .dormant => none
  else none

/-- The task waits with a timeout. -/
def Timed (tcb : Tcb) : Prop :=
  tcb.idTask = tnIdTask ∧ tcb.taskState.isWait = true ∧
    tcb.tickCount ≠ tnWaitInfinite

/-- What holds of the control block of every task. -/
structure Valid (tcb : Tcb) : Prop where
  priority : tcb.priority < tnNumPriority
  basePriority : tcb.basePriority < tnNumPriority
  waiting : tcb.taskState.isWait = true →
    tcb.taskWaitReason.fits tcb.pwaitQueue = true
  notWaiting : tcb.taskState.isWait = false → tcb.pwaitQueue = none

/-- The control block after `task_wait_complete`. -/
def awake (tcb : Tcb) : Tcb :=
  { tcb with
    taskWaitReason := .none
    pwaitQueue := none
    taskWaitRc := .noErr
    tickCount := tnWaitInfinite
    taskState := if tcb.taskState.isSuspend then .suspend else .runnable }

/-- The control block after `task_curr_to_wait_action`. -/
def asleep (tcb : Tcb) (list : Option WaitList) (reason : WaitReason)
    (timeout : Word) : Tcb :=
  { tcb with
    taskState := .wait
    taskWaitReason := reason
    tickCount := timeout
    pwaitQueue := (list.map some).getD tcb.pwaitQueue }

/-- The fields that decide in which lists a task is. -/
structure SamePlace (before after : Tcb) : Prop where
  idTask : after.idTask = before.idTask
  taskState : after.taskState = before.taskState
  priority : after.priority = before.priority
  basePriority : after.basePriority = before.basePriority
  pwaitQueue : after.pwaitQueue = before.pwaitQueue
  taskWaitReason : after.taskWaitReason = before.taskWaitReason
  tickCount : after.tickCount = before.tickCount

end Tcb

/-- The lists of tasks, and the wait lists that have been initialized. -/
structure Lists where
  task : QueueHead → List TaskId
  timer : List TaskId
  create : List TaskId
  live : WaitList → Prop

/-- The control blocks agree with the lists, apart from a detached task, which
is in none of the ready and wait lists. -/
structure TaskLists (detached : Option TaskId) (tcb : TaskId → Tcb)
    (lists : Lists) : Prop where
  home : ∀ t list, t ∈ lists.task list ↔
    detached ≠ some t ∧ (tcb t).home = some list
  timed : ∀ t, t ∈ lists.timer ↔ (tcb t).Timed
  created : ∀ t, t ∈ lists.create ↔ (tcb t).idTask = tnIdTask
  valid : ∀ t, (tcb t).idTask = tnIdTask → (tcb t).Valid

/-- The object that owns a wait list exists. -/
def Kernel.hasList (k : Kernel) : WaitList → Bool
  | .sem sem => k.isSem sem
  | .event evf => k.isEvent evf
  | .dqueSend dque => k.isDque dque
  | .dqueReceive dque => k.isDque dque
  | .fmp fmp => k.isFmp fmp
  | .mutex mutex => k.isMutex mutex

/-- The invariant between two services, and inside them. -/
structure Consistent (detached : Option TaskId) (k : Kernel) (lists : Lists) :
    Prop where
  scheduled : Scheduled k.taskLinks k.tnReadyToRunBmp k.tnNextTaskToRun
    lists.live lists.task
  timer : Represents k.timerLinks (fun _ => True) fun _ => lists.timer
  create : Represents k.createLinks (fun _ => True) fun _ => lists.create
  tasks : TaskLists detached k.tcb lists
  live : ∀ list, k.hasList list = true → lists.live list
  waiters : ∀ list, lists.task (.wait list) ≠ [] → k.hasList list = true

namespace Lists

/-- The lists without a task that has been unlinked. -/
def detach (lists : Lists) (t : TaskId) : Lists :=
  { lists with task := drop lists.task t }

/-- The lists after the wait of a detached task has ended. -/
def wake (lists : Lists) (t : TaskId) (tcb : Tcb) : Lists :=
  { lists with
    task := if tcb.taskState.isSuspend then lists.task
      else pushLast lists.task (.ready tcb.priority) t
    timer := lists.timer.erase t }

/-- The lists after a detached task has started to wait. -/
def block (lists : Lists) (t : TaskId) (list : Option WaitList)
    (timeout : Word) : Lists :=
  { lists with
    task := match list with
      | none => lists.task
      | some list => pushLast lists.task (.wait list) t
    timer := if timeout ≠ tnWaitInfinite then lists.timer ++ [t]
      else lists.timer }

/-- The lists after a detached task has become ready. -/
def ready (lists : Lists) (t : TaskId) (priority : Nat) : Lists :=
  { lists with task := pushLast lists.task (.ready priority) t }

theorem ready_wait (lists : Lists) (t : TaskId) (priority : Nat)
    (list : WaitList) :
    (lists.ready t priority).task (.wait list) = lists.task (.wait list) := by
  simp only [ready]
  exact pushLast_other (by simp)

theorem wake_wait (lists : Lists) (t : TaskId) (tcb : Tcb)
    (list : WaitList) :
    (lists.wake t tcb).task (.wait list) = lists.task (.wait list) := by
  simp only [wake]
  split
  · rfl
  · exact pushLast_other (by simp)

end Lists

namespace Tcb

variable {before after tcb : Tcb}

theorem SamePlace.home (same : SamePlace before after) :
    after.home = before.home := by
  simp [Tcb.home, same.idTask, same.taskState, same.priority, same.pwaitQueue]

theorem SamePlace.timed (same : SamePlace before after) :
    after.Timed ↔ before.Timed := by
  simp [Tcb.Timed, same.idTask, same.taskState, same.tickCount]

theorem SamePlace.valid (same : SamePlace before after)
    (valid : before.Valid) : after.Valid := by
  obtain ⟨priority, base, waiting, notWaiting⟩ := valid
  constructor
  · rwa [same.priority]
  · rwa [same.basePriority]
  · rwa [same.taskState, same.taskWaitReason, same.pwaitQueue]
  · rwa [same.taskState, same.pwaitQueue]

theorem home_eq_ready {p : Nat} :
    tcb.home = some (.ready p) ↔ tcb.idTask = tnIdTask ∧
      tcb.taskState = .runnable ∧ tcb.priority = p := by
  unfold home
  cases tcb.taskState <;> simp

theorem home_eq_wait {list : WaitList} :
    tcb.home = some (.wait list) ↔ tcb.idTask = tnIdTask ∧
      tcb.taskState.isWait = true ∧ tcb.pwaitQueue = some list := by
  unfold home
  cases tcb.taskState <;> simp [TaskState.isWait]

@[simp] theorem awake_idTask : tcb.awake.idTask = tcb.idTask := rfl

@[simp] theorem awake_priority : tcb.awake.priority = tcb.priority := rfl

theorem awake_not_isWait : tcb.awake.taskState.isWait = false := by
  unfold awake
  cases tcb.taskState <;> rfl

theorem Valid.awake (valid : tcb.Valid) : tcb.awake.Valid where
  priority := valid.priority
  basePriority := valid.basePriority
  waiting isWait := by simp [awake_not_isWait] at isWait
  notWaiting _ := rfl

theorem awake_not_timed : ¬ tcb.awake.Timed := by
  intro timed
  simpa [awake_not_isWait] using timed.2.1

theorem awake_home (task : tcb.idTask = tnIdTask) :
    tcb.awake.home =
      if tcb.taskState.isSuspend then none
      else some (.ready tcb.priority) := by
  unfold home awake
  cases tcb.taskState <;> simp [task, TaskState.isSuspend]

end Tcb

namespace TaskLists

variable {detached : Option TaskId} {tcb : TaskId → Tcb} {lists : Lists}
variable {t : TaskId} {new : Tcb}

/-- A change that leaves the task where it is keeps the agreement. -/
theorem replace (agree : TaskLists detached tcb lists) (new : Tcb)
    (sameId : new.idTask = (tcb t).idTask)
    (sameHome : new.home = (tcb t).home)
    (sameTimed : new.Timed ↔ (tcb t).Timed)
    (valid : (tcb t).Valid → new.Valid) :
    TaskLists detached (Function.update tcb t new) lists where
  home u list := by
    rw [agree.home u list]
    by_cases equal : u = t
    · subst equal
      simp [sameHome]
    · simp [equal]
  timed u := by
    rw [agree.timed u]
    by_cases equal : u = t
    · subst equal
      simp [sameTimed]
    · simp [equal]
  created u := by
    rw [agree.created u]
    by_cases equal : u = t
    · subst equal
      simp [sameId]
    · simp [equal]
  valid u := by
    by_cases equal : u = t
    · subst equal
      simpa [sameId] using fun task => valid (agree.valid u task)
    · simpa [equal] using agree.valid u

theorem update (agree : TaskLists detached tcb lists)
    (same : Tcb.SamePlace (tcb t) new) :
    TaskLists detached (Function.update tcb t new) lists :=
  agree.replace new same.idTask same.home same.timed same.valid

/-- A task that is unlinked from its list becomes the detached one. -/
theorem detach (agree : TaskLists none tcb lists)
    (nodup : ∀ list, (lists.task list).Nodup) :
    TaskLists (some t) tcb (lists.detach t) where
  home u list := by
    change u ∈ (lists.task list).erase t ↔ _
    rw [(nodup list).mem_erase_iff, agree.home u list]
    simp [eq_comm]
  timed := agree.timed
  created := agree.created
  valid := agree.valid

/-- A task without a list can be taken for the detached one. -/
theorem to_detached (agree : TaskLists none tcb lists)
    (homeless : (tcb t).home = none) : TaskLists (some t) tcb lists where
  home u list := by
    rw [agree.home u list]
    by_cases equal : u = t
    · subst equal
      simp [homeless]
    · simp [Ne.symm equal]
  timed := agree.timed
  created := agree.created
  valid := agree.valid

/-- A detached task is settled: its new control block decides where it goes. -/
theorem settle (agree : TaskLists (some t) tcb lists) (new : Tcb)
    (sameId : new.idTask = (tcb t).idTask) (valid : new.Valid)
    {task : QueueHead → List TaskId} {timer : List TaskId}
    (placed : ∀ u list, u ∈ task list ↔
      (u = t ∧ new.home = some list) ∨ u ∈ lists.task list)
    (clocked : ∀ u, u ∈ timer ↔
      (u = t ∧ new.Timed) ∨ (u ≠ t ∧ u ∈ lists.timer)) :
    TaskLists none (Function.update tcb t new)
      { lists with task := task, timer := timer } where
  home u list := by
    rw [placed, agree.home u list]
    by_cases equal : u = t
    · subst equal
      simp
    · simp [equal, Ne.symm equal]
  timed u := by
    rw [clocked, agree.timed u]
    by_cases equal : u = t
    · subst equal
      simp
    · simp [equal]
  created u := by
    rw [agree.created u]
    by_cases equal : u = t
    · subst equal
      simp [sameId]
    · simp [equal]
  valid u := by
    by_cases equal : u = t
    · subst equal
      simpa using fun _ => valid
    · simpa [equal] using agree.valid u

theorem wake (agree : TaskLists (some t) tcb lists)
    (task : (tcb t).idTask = tnIdTask) (nodup : lists.timer.Nodup) :
    TaskLists none (Function.update tcb t (tcb t).awake)
      (lists.wake t (tcb t)) := by
  refine agree.settle (tcb t).awake rfl (agree.valid t task).awake ?_ ?_
  · intro u list
    rw [Tcb.awake_home task]
    cases (tcb t).taskState.isSuspend
    · simp [or_comm, and_comm, eq_comm]
    · simp
  · intro u
    rw [nodup.mem_erase_iff]
    simp [Tcb.awake_not_timed]

theorem block (agree : TaskLists (some t) tcb lists)
    (task : (tcb t).idTask = tnIdTask) (running : (tcb t).pwaitQueue = none)
    (absent : t ∉ lists.timer) {list : Option WaitList} {reason : WaitReason}
    (fits : reason.fits list = true) (timeout : Word) :
    TaskLists none
      (Function.update tcb t ((tcb t).asleep list reason timeout))
      (lists.block t list timeout) := by
  have before := agree.valid t task
  have pwait : ((tcb t).asleep list reason timeout).pwaitQueue = list := by
    cases list <;> simp [Tcb.asleep, running]
  refine agree.settle ((tcb t).asleep list reason timeout) rfl
    ⟨before.priority, before.basePriority, ?_, ?_⟩ ?_ ?_
  · intro _
    rw [pwait]
    exact fits
  · intro awake
    exact absurd awake (by simp [Tcb.asleep, TaskState.isWait])
  · intro u head
    have home : ((tcb t).asleep list reason timeout).home =
        list.map .wait := by
      rw [Tcb.home, pwait]
      simp [Tcb.asleep, task]
    rw [home]
    cases list with
    | none => simp
    | some list => simp [or_comm, and_comm, eq_comm]
  · intro u
    have timed : ((tcb t).asleep list reason timeout).Timed ↔
        timeout ≠ tnWaitInfinite := by
      simp [Tcb.Timed, Tcb.asleep, task, TaskState.isWait]
    rw [timed]
    by_cases infinite : timeout = tnWaitInfinite
    · simp only [infinite, ne_eq, not_true_eq_false, if_false]
      constructor
      · intro member
        exact .inr ⟨fun equal => absent (equal ▸ member), member⟩
      · intro member
        exact (member.resolve_left (by simp)).2
    · simp only [ne_eq, infinite, not_false_eq_true, if_true,
        List.mem_append, List.mem_singleton, and_true]
      constructor
      · rintro (member | equal)
        · by_cases equal : u = t
          · exact .inl equal
          · exact .inr ⟨equal, member⟩
        · exact .inl equal
      · rintro (equal | ⟨_, member⟩)
        · exact .inr equal
        · exact .inl member

theorem park (agree : TaskLists (some t) tcb lists) (new : Tcb)
    (sameId : new.idTask = (tcb t).idTask) (valid : new.Valid)
    (homeless : new.home = none) (untimed : ¬ new.Timed)
    (absent : t ∉ lists.timer) :
    TaskLists none (Function.update tcb t new) lists := by
  refine agree.settle new sameId valid ?_ ?_
  · intro u list
    simp [homeless]
  · intro u
    constructor
    · intro member
      exact .inr ⟨fun equal => absent (equal ▸ member), member⟩
    · rintro (⟨_, timed⟩ | ⟨_, member⟩)
      · exact absurd timed untimed
      · exact member

theorem ready (agree : TaskLists (some t) tcb lists) (new : Tcb)
    (sameId : new.idTask = (tcb t).idTask) (valid : new.Valid)
    {p : Nat} (home : new.home = some (.ready p)) (untimed : ¬ new.Timed)
    (absent : t ∉ lists.timer) :
    TaskLists none (Function.update tcb t new) (lists.ready t p) := by
  refine agree.settle new sameId valid ?_ ?_
  · intro u list
    rw [home]
    simp [or_comm, and_comm, eq_comm]
  · intro u
    constructor
    · intro member
      exact .inr ⟨fun equal => absent (equal ▸ member), member⟩
    · rintro (⟨_, timed⟩ | ⟨_, member⟩)
      · exact absurd timed untimed
      · exact member

/-- A new task is in no list of tasks that run or wait. -/
theorem create (agree : TaskLists none tcb lists) (new : Tcb)
    (fresh : (tcb t).idTask ≠ tnIdTask) (task : new.idTask = tnIdTask)
    (valid : new.Valid) (homeless : new.home = none)
    (untimed : ¬ new.Timed) :
    TaskLists none (Function.update tcb t new)
      { lists with create := lists.create ++ [t] } where
  home u list := by
    rw [agree.home u list]
    by_cases equal : u = t
    · subst equal
      have before : (tcb u).home = none := by simp [Tcb.home, fresh]
      simp [homeless, before]
    · simp [equal]
  timed u := by
    rw [agree.timed u]
    by_cases equal : u = t
    · subst equal
      have before : ¬ (tcb u).Timed := fun timed => fresh timed.1
      simp [untimed, before]
    · simp [equal]
  created u := by
    rw [List.mem_append, agree.created u]
    by_cases equal : u = t
    · subst equal
      simp [task]
    · simp [equal]
  valid u := by
    by_cases equal : u = t
    · subst equal
      simpa using fun _ => valid
    · simpa [equal] using agree.valid u

end TaskLists

/-! ## What the primitives do to a consistent kernel -/

/-- Replace the control blocks and everything that links tasks for running and
waiting. -/
def Kernel.withTasks (k : Kernel) (tcb : TaskId → Tcb)
    (taskLinks : Links (Node QueueHead TaskId))
    (timerLinks : Links (Node Unit TaskId)) (bmp : Word)
    (next : Option TaskId) : Kernel :=
  { k with
    tcb := tcb
    taskLinks := taskLinks
    timerLinks := timerLinks
    tnReadyToRunBmp := bmp
    tnNextTaskToRun := next }

/-- The timer links after `task_wait_complete`. -/
def Kernel.timerWithout (k : Kernel) (t : TaskId) :
    Links (Node Unit TaskId) :=
  if (k.tcb t).tickCount ≠ tnWaitInfinite then
    queueRemoveEntry k.timerLinks (.entry t)
  else k.timerLinks

/-- What `tn_task_create` makes of the control block of the new task. -/
structure Tcb.Created (args : TaskParams) (tcb : Tcb) : Prop where
  idTask : tcb.idTask = tnIdTask
  taskState : tcb.taskState = .dormant
  pwaitQueue : tcb.pwaitQueue = none
  blkTask : tcb.blkTask = none
  priority : tcb.priority = args.priority.toNat
  basePriority : tcb.basePriority = args.priority.toNat

theorem initTask_tcb (tnTaskExit : Word) (k : Kernel) (t : TaskId)
    (args : TaskParams) :
    ∃ new, (initTask tnTaskExit k t args).tcb = Function.update k.tcb t new ∧
      new.Created args := by
  refine ⟨(initTask tnTaskExit k t args).tcb t, ?_, ?_⟩
  · simp [initTask, taskSetDormantState, Kernel.setTcb]
  · constructor <;> simp [initTask, taskSetDormantState, Kernel.setTcb]

namespace Consistent

variable {detached : Option TaskId} {k : Kernel} {lists : Lists}
variable {t : TaskId}

theorem priorityOf (consistent : Consistent detached k lists) :
    PriorityOf k lists.task := fun u _ member =>
  (Tcb.home_eq_ready.mp ((consistent.tasks.home u _).mp member).2).2.2

theorem timer_nodup (consistent : Consistent detached k lists) :
    lists.timer.Nodup := consistent.timer.nodup ()

theorem setTcb (consistent : Consistent detached k lists) {new : Tcb}
    (same : Tcb.SamePlace (k.tcb t) new) :
    Consistent detached (k.setTcb t new) lists where
  scheduled := consistent.scheduled
  timer := consistent.timer
  create := consistent.create
  tasks := consistent.tasks.update same
  live := consistent.live
  waiters := consistent.waiters

theorem unlinkWaiter (consistent : Consistent none k lists)
    {list : WaitList} (member : t ∈ lists.task (.wait list)) :
    Consistent (some t) { k with
      taskLinks := queueRemoveEntry k.taskLinks (.entry t) }
      (lists.detach t) := by
  obtain ⟨scheduled, timer, create, tasks, live, waiters⟩ := consistent
  refine ⟨scheduled.dropWait member, timer, create,
    tasks.detach scheduled.represents.nodup, live, ?_⟩
  intro other some
  refine waiters other fun empty => some ?_
  simp [Lists.detach, drop, empty]

/-- The first task of a wait list is the one that `queue_remove_head` gives. -/
theorem removeWaiter_eq (consistent : Consistent none k lists)
    {list : WaitList} {rest : List TaskId}
    (waiting : lists.task (.wait list) = t :: rest) :
    removeWaiter k list = some ({ k with
      taskLinks := queueRemoveEntry k.taskLinks (.entry t) }, t) := by
  simp [UsbBulk.removeWaiter,
    consistent.scheduled.represents.removeHead_eq waiting, getTaskByTskQueue]

/-- The first part of `task_wait_complete`: everything but the new state. -/
private def endWait (k : Kernel) (t : TaskId) : Kernel :=
  k.withTasks
    (Function.update k.tcb t { k.tcb t with
      taskWaitReason := .none
      pwaitQueue := none
      taskWaitRc := .noErr
      tickCount := tnWaitInfinite })
    k.taskLinks (k.timerWithout t) k.tnReadyToRunBmp k.tnNextTaskToRun

private theorem taskWaitComplete_eq (k : Kernel) (t : TaskId) (fuel : Nat) :
    UsbBulk.taskWaitComplete fuel k t =
      (let after := if !(k.tcb t).taskState.isSuspend then
          (taskToRunnable (endWait k t) t, true)
        else (k.withTasks (Function.update k.tcb t (k.tcb t).awake)
          k.taskLinks (k.timerWithout t) k.tnReadyToRunBmp
          k.tnNextTaskToRun, false)
      if (k.tcb t).taskWaitReason.isMutex then
        restoreHolderPriority fuel after.1 t (k.tcb t).pwaitQueue after.2
      else some after) := by
  unfold UsbBulk.taskWaitComplete endWait Kernel.timerWithout
  by_cases finite : (k.tcb t).tickCount ≠ tnWaitInfinite <;>
    cases suspended : (k.tcb t).taskState.isSuspend <;>
    simp [finite, suspended, Kernel.setTcb, Kernel.withTasks, Tcb.awake]

/-- `task_wait_complete`: the task becomes ready, or suspended if it was
suspended meanwhile.  After a wait for a mutex the priority of its holder is
restored. -/
theorem completeWait (consistent : Consistent (some t) k lists)
    (task : (k.tcb t).idTask = tnIdTask)
    (waiting : (k.tcb t).taskState.isWait = true) :
    ∃ taskLinks bmp next,
      (∀ fuel, UsbBulk.taskWaitComplete fuel k t =
        if (k.tcb t).taskWaitReason.isMutex then
          restoreHolderPriority fuel
            (k.withTasks (Function.update k.tcb t (k.tcb t).awake) taskLinks
              (k.timerWithout t) bmp next) t (k.tcb t).pwaitQueue
            (!(k.tcb t).taskState.isSuspend)
        else some
          (k.withTasks (Function.update k.tcb t (k.tcb t).awake) taskLinks
            (k.timerWithout t) bmp next, !(k.tcb t).taskState.isSuspend)) ∧
      Consistent none
        (k.withTasks (Function.update k.tcb t (k.tcb t).awake) taskLinks
          (k.timerWithout t) bmp next) (lists.wake t (k.tcb t)) := by
  have valid := consistent.tasks.valid t task
  have settled := consistent.tasks.wake task consistent.timer_nodup
  have priorities := consistent.priorityOf
  obtain ⟨scheduled, timer, create, tasks, live, waiters⟩ := consistent
  -- The timer list after the first part, with or without a timeout.
  have clock : Represents (k.timerWithout t) (fun _ => True)
      fun _ => lists.timer.erase t := by
    unfold Kernel.timerWithout
    have timed := tasks.timed t
    by_cases finite : (k.tcb t).tickCount ≠ tnWaitInfinite
    · rw [if_pos finite]
      exact timer.removeEntry_single (timed.mpr ⟨task, waiting, finite⟩)
    · rw [if_neg finite, List.erase_of_not_mem]
      · exact timer
      · intro member
        exact finite (timed.mp member).2.2
  cases suspended : (k.tcb t).taskState.isSuspend with
  | true =>
      have stays : (lists.wake t (k.tcb t)).task = lists.task := by
        simp [Lists.wake, suspended]
      refine ⟨k.taskLinks, k.tnReadyToRunBmp, k.tnNextTaskToRun,
        fun fuel => ?_, ?_, clock, create, settled, live, ?_⟩
      · rw [taskWaitComplete_eq, suspended]
        rfl
      · rw [stays]
        exact scheduled
      · rw [stays]
        exact waiters
  | false =>
      have moves : (lists.wake t (k.tcb t)).task =
          pushLast lists.task (.ready (k.tcb t).priority) t := by
        simp [Lists.wake, suspended]
      have same : ((endWait k t).tcb t).priority = (k.tcb t).priority := by
        simp [endWait, Kernel.withTasks]
      have others : PriorityOf (endWait k t) lists.task := by
        intro u p member
        have notT : u ≠ t := fun equal =>
          ((tasks.home u _).mp member).1 (congrArg some equal.symm)
        simpa [endWait, Kernel.withTasks, notT] using priorities u p member
      have fresh : ∀ list, t ∉ lists.task list := fun list member =>
        ((tasks.home t list).mp member).1 rfl
      obtain ⟨bmp, next, run, placed⟩ := taskToRunnable_spec
        (k := endWait k t) scheduled others (same ▸ valid.priority) fresh
      rw [same] at run placed
      have awoken : UsbBulk.taskToRunnable (endWait k t) t =
          k.withTasks (Function.update k.tcb t (k.tcb t).awake)
            (queueAddTail k.taskLinks (.head (.ready (k.tcb t).priority))
              (.entry t)) (k.timerWithout t) bmp next := by
        rw [run]
        simp [endWait, Kernel.withTasks, Kernel.setTcb, Kernel.setReady,
          Tcb.awake, suspended]
      refine ⟨queueAddTail k.taskLinks
          (.head (.ready (k.tcb t).priority)) (.entry t), bmp, next,
        fun fuel => ?_, ?_, clock, create, settled, live, ?_⟩
      · rw [taskWaitComplete_eq, suspended]
        simp only [Bool.not_false, if_true, awoken]
      · rw [moves]
        exact placed
      · rw [moves]
        intro list some
        refine waiters list ?_
        rwa [pushLast_other (by simp)] at some

/-- `task_wait_complete` for a wait that is not for a mutex. -/
theorem taskWaitComplete (consistent : Consistent (some t) k lists)
    (task : (k.tcb t).idTask = tnIdTask)
    (waiting : (k.tcb t).taskState.isWait = true)
    (noMutex : (k.tcb t).taskWaitReason.isMutex = false) (fuel : Nat) :
    ∃ taskLinks bmp next,
      taskWaitComplete fuel k t = some
        (k.withTasks (Function.update k.tcb t (k.tcb t).awake) taskLinks
          (k.timerWithout t) bmp next, !(k.tcb t).taskState.isSuspend) ∧
      Consistent none
        (k.withTasks (Function.update k.tcb t (k.tcb t).awake) taskLinks
          (k.timerWithout t) bmp next) (lists.wake t (k.tcb t)) := by
  obtain ⟨taskLinks, bmp, next, run, after⟩ :=
    consistent.completeWait task waiting
  refine ⟨taskLinks, bmp, next, ?_, after⟩
  rw [run, noMutex]
  rfl

theorem not_timed (consistent : Consistent detached k lists)
    (awake : (k.tcb t).taskState.isWait = false) : t ∉ lists.timer := by
  intro member
  have timed := (consistent.tasks.timed t).mp member
  simpa [awake] using timed.2.1

/-- `task_to_non_runnable`, whatever has been stored into the control block
before. -/
theorem taskToNonRunnable (consistent : Consistent none k lists)
    (task : (k.tcb t).idTask = tnIdTask)
    (ready : (k.tcb t).taskState = .runnable) (new : Tcb)
    (samePriority : new.priority = (k.tcb t).priority) :
    ∃ bmp next,
      taskToNonRunnable (k.setTcb t new) t = some
        ((k.setTcb t new).setReady
          (queueRemoveEntry k.taskLinks (.entry t)) bmp next) ∧
      Scheduled (queueRemoveEntry k.taskLinks (.entry t)) bmp next lists.live
        (lists.detach t).task ∧
      TaskLists (some t) k.tcb (lists.detach t) := by
  have member : t ∈ lists.task (.ready (k.tcb t).priority) :=
    (consistent.tasks.home t _).mpr ⟨by simp, Tcb.home_eq_ready.mpr
      ⟨task, ready, rfl⟩⟩
  have here : t ∈ lists.task
      (.ready ((k.setTcb t new).tcb t).priority) := by
    simpa [Kernel.setTcb, samePriority] using member
  obtain ⟨bmp, next, run, scheduled⟩ := taskToNonRunnable_spec
    (k := k.setTcb t new) consistent.scheduled here
  exact ⟨bmp, next, run, scheduled,
    consistent.tasks.detach consistent.scheduled.represents.nodup⟩

/-- The wait lists of a kernel keep their waiters when a ready task leaves. -/
theorem detach_waiters (consistent : Consistent detached k lists)
    (t : TaskId) {list : WaitList} (some : (lists.detach t).task (.wait list) ≠ []) :
    k.hasList list = true := by
  refine consistent.waiters list fun empty => some ?_
  simp [Lists.detach, drop, empty]

theorem taskCurrToWaitAction (consistent : Consistent none k lists)
    (task : (k.tcb k.tnCurrRunTask).idTask = tnIdTask)
    (running : (k.tcb k.tnCurrRunTask).taskState = .runnable)
    {list : Option WaitList} {reason : WaitReason}
    (fits : reason.fits list = true)
    (has : ∀ waitList, list = some waitList → k.hasList waitList = true)
    (timeout : Word) :
    ∃ taskLinks timerLinks bmp next,
      taskCurrToWaitAction k list reason timeout = some
        (k.withTasks (Function.update k.tcb k.tnCurrRunTask
          ((k.tcb k.tnCurrRunTask).asleep list reason timeout)) taskLinks
          timerLinks bmp next) ∧
      Consistent none
        (k.withTasks (Function.update k.tcb k.tnCurrRunTask
          ((k.tcb k.tnCurrRunTask).asleep list reason timeout)) taskLinks
          timerLinks bmp next)
        ((lists.detach k.tnCurrRunTask).block k.tnCurrRunTask list
          timeout) := by
  have valid := consistent.tasks.valid _ task
  have absent := consistent.not_timed
    (show (k.tcb k.tnCurrRunTask).taskState.isWait = false by
      simp [running, TaskState.isWait])
  obtain ⟨bmp, next, run, scheduled, tasks⟩ :=
    consistent.taskToNonRunnable task running (k.tcb k.tnCurrRunTask) rfl
  rw [show k.setTcb k.tnCurrRunTask (k.tcb k.tnCurrRunTask) = k by
    simp [Kernel.setTcb]] at run
  have fresh : ∀ head, k.tnCurrRunTask ∉
      (lists.detach k.tnCurrRunTask).task head := fun head member =>
    ((tasks.home _ head).mp member).1 rfl
  have settled := tasks.block task
    (valid.notWaiting (by simp [running, TaskState.isWait])) absent
    fits timeout
  have clock : Represents
      (if timeout ≠ tnWaitInfinite then
        queueAddTail k.timerLinks (.head ()) (.entry k.tnCurrRunTask)
      else k.timerLinks) (fun _ => True) fun _ =>
        ((lists.detach k.tnCurrRunTask).block k.tnCurrRunTask list
          timeout).timer := by
    simp only [Lists.block, Lists.detach]
    split
    · exact consistent.timer.addTail_single absent
    · exact consistent.timer
  refine ⟨list.elim (queueRemoveEntry k.taskLinks (.entry k.tnCurrRunTask))
      fun list => queueAddTail
        (queueRemoveEntry k.taskLinks (.entry k.tnCurrRunTask))
        (.head (.wait list)) (.entry k.tnCurrRunTask),
    if timeout ≠ tnWaitInfinite then
      queueAddTail k.timerLinks (.head ()) (.entry k.tnCurrRunTask)
    else k.timerLinks, bmp, next, ?_, ?_, clock, consistent.create, settled,
    consistent.live, ?_⟩
  · simp only [UsbBulk.taskCurrToWaitAction, run]
    by_cases infinite : timeout = tnWaitInfinite <;>
      cases list <;>
      simp [infinite, Kernel.withTasks, Kernel.setTcb, Kernel.setReady,
        Tcb.asleep]
  · cases list with
    | none => exact scheduled
    | some list =>
        exact scheduled.pushWait (consistent.live _ (has list rfl)) fresh
  · intro other some
    cases list with
    | none => exact consistent.detach_waiters _ some
    | some list =>
        by_cases same : other = list
        · exact has other (congrArg Option.some same.symm)
        · refine consistent.detach_waiters k.tnCurrRunTask
            fun empty => some ?_
          simp only [Lists.block]
          rw [pushLast_other (by simpa using same)]
          exact empty

/-- A ready task is suspended: its new control block has no place. -/
theorem suspend (consistent : Consistent none k lists)
    (task : (k.tcb t).idTask = tnIdTask)
    (ready : (k.tcb t).taskState = .runnable) :
    ∃ bmp next,
      UsbBulk.taskToNonRunnable
          (k.setTcb t { k.tcb t with taskState := .suspend }) t = some
        ((k.setTcb t { k.tcb t with taskState := .suspend }).setReady
          (queueRemoveEntry k.taskLinks (.entry t)) bmp next) ∧
      Consistent none
        ((k.setTcb t { k.tcb t with taskState := .suspend }).setReady
          (queueRemoveEntry k.taskLinks (.entry t)) bmp next)
        (lists.detach t) := by
  have valid := consistent.tasks.valid t task
  have awake : (k.tcb t).taskState.isWait = false := by
    simp [ready, TaskState.isWait]
  obtain ⟨bmp, next, run, scheduled, tasks⟩ :=
    consistent.taskToNonRunnable task ready
      { k.tcb t with taskState := .suspend } rfl
  refine ⟨bmp, next, run, scheduled, consistent.timer, consistent.create,
    tasks.park _ rfl ⟨valid.priority, valid.basePriority, ?_, ?_⟩ ?_ ?_
      (consistent.not_timed awake), consistent.live,
    fun _ => consistent.detach_waiters t⟩
  · intro waiting
    exact absurd waiting (by simp [TaskState.isWait])
  · intro _
    exact valid.notWaiting awake
  · simp [Tcb.home]
  · simp [Tcb.Timed, TaskState.isWait]

theorem taskToRunnable (consistent : Consistent none k lists)
    (task : (k.tcb t).idTask = tnIdTask)
    (homeless : (k.tcb t).home = none)
    (awake : (k.tcb t).taskState.isWait = false) :
    ∃ bmp next,
      taskToRunnable k t = (k.setTcb t { k.tcb t with
          taskState := .runnable, pwaitQueue := none }).setReady
        (queueAddTail k.taskLinks (.head (.ready (k.tcb t).priority))
          (.entry t)) bmp next ∧
      Consistent none ((k.setTcb t { k.tcb t with
          taskState := .runnable, pwaitQueue := none }).setReady
        (queueAddTail k.taskLinks (.head (.ready (k.tcb t).priority))
          (.entry t)) bmp next)
        (lists.ready t (k.tcb t).priority) := by
  have valid := consistent.tasks.valid t task
  have tasks := consistent.tasks.to_detached homeless
  have fresh : ∀ list, t ∉ lists.task list := fun list member =>
    ((tasks.home t list).mp member).1 rfl
  obtain ⟨bmp, next, run, scheduled⟩ := taskToRunnable_spec
    consistent.scheduled consistent.priorityOf valid.priority fresh
  refine ⟨bmp, next, run, scheduled, consistent.timer, consistent.create,
    tasks.ready { k.tcb t with taskState := .runnable, pwaitQueue := none }
      rfl ⟨valid.priority, valid.basePriority, ?_, ?_⟩ ?_ ?_
      (consistent.not_timed awake), consistent.live, ?_⟩
  · intro waiting
    exact absurd waiting (by simp [TaskState.isWait])
  · intro _
    rfl
  · simp [Tcb.home, task]
  · simp [Tcb.Timed, TaskState.isWait]
  · intro list some
    refine consistent.waiters list ?_
    simp only [Lists.ready] at some
    rwa [pushLast_other (by simp)] at some

/-- A ready task changes its priority and with it its list. -/
theorem changeRunningTaskPriority (consistent : Consistent none k lists)
    (task : (k.tcb t).idTask = tnIdTask)
    (ready : (k.tcb t).taskState = .runnable) {p : Nat}
    (small : p < tnNumPriority) :
    ∃ links bmp next changed,
      changeRunningTaskPriority k t p = some
        ((k.setTcb t { k.tcb t with priority := p }).setReady links bmp next,
          changed) ∧
      Consistent none
        ((k.setTcb t { k.tcb t with priority := p }).setReady links bmp next)
        ((lists.detach t).ready t p) := by
  have valid := consistent.tasks.valid t task
  have awake : (k.tcb t).taskState.isWait = false := by
    simp [ready, TaskState.isWait]
  have member : t ∈ lists.task (.ready (k.tcb t).priority) :=
    (consistent.tasks.home t _).mpr ⟨by simp, Tcb.home_eq_ready.mpr
      ⟨task, ready, rfl⟩⟩
  have tasks := consistent.tasks.detach
    (t := t) consistent.scheduled.represents.nodup
  obtain ⟨bmp, next, changed, run, scheduled⟩ :=
    changeRunningTaskPriority_spec consistent.scheduled
      consistent.priorityOf member small
  refine ⟨_, bmp, next, changed, run, scheduled, consistent.timer,
    consistent.create,
    tasks.ready { k.tcb t with priority := p } rfl
      ⟨small, valid.basePriority, ?_, ?_⟩ ?_ ?_
      (consistent.not_timed awake), consistent.live, ?_⟩
  · intro waiting
    exact absurd waiting (by simp [awake])
  · intro _
    exact valid.notWaiting awake
  · exact Tcb.home_eq_ready.mpr ⟨task, ready, rfl⟩
  · simp [Tcb.Timed, awake]
  · intro list some
    simp only [Lists.ready] at some
    rw [pushLast_other (by simp)] at some
    exact consistent.detach_waiters t some

/-- The critical section of `tn_task_create`. -/
theorem initTask (consistent : Consistent none k lists)
    (fresh : (k.tcb t).idTask ≠ tnIdTask) (tnTaskExit : Word)
    (args : TaskParams) (small : args.priority < tnNumPriority) :
    Consistent none (initTask tnTaskExit k t args)
      { lists with create := lists.create ++ [t] } := by
  have homeless : ∀ list, t ∉ lists.task list := by
    intro list member
    have home := ((consistent.tasks.home t list).mp member).2
    simp [Tcb.home, fresh] at home
  have untimed : t ∉ lists.timer := fun member =>
    fresh ((consistent.tasks.timed t).mp member).1
  have unlisted : t ∉ lists.create := fun member =>
    fresh ((consistent.tasks.created t).mp member)
  have priority : args.priority.toNat < tnNumPriority := by
    simp only [tnNumPriority] at small ⊢
    omega
  obtain ⟨new, tcb, created⟩ := initTask_tcb tnTaskExit k t args
  have awake : new.taskState.isWait = false := by
    simp [created.taskState, TaskState.isWait]
  have valid : new.Valid := by
    refine ⟨?_, ?_, fun waiting => ?_, fun _ => created.pwaitQueue⟩
    · rwa [created.priority]
    · rwa [created.basePriority]
    · exact absurd (awake.symm.trans waiting) (by decide)
  refine ⟨⟨consistent.scheduled.represents.resetEntry homeless,
      consistent.scheduled.bitmap, consistent.scheduled.best⟩,
    consistent.timer.resetEntry fun _ => untimed,
    (consistent.create.resetEntry fun _ => unlisted).addTail_single unlisted,
    ?_, consistent.live, consistent.waiters⟩
  rw [tcb]
  exact consistent.tasks.create new fresh created.idTask valid
    (by simp [Tcb.home, created.taskState]) fun timed => by
      simpa [awake] using timed.2.1

theorem replace (consistent : Consistent detached k lists) (new : Tcb)
    (sameId : new.idTask = (k.tcb t).idTask)
    (sameHome : new.home = (k.tcb t).home)
    (sameTimed : new.Timed ↔ (k.tcb t).Timed)
    (valid : (k.tcb t).Valid → new.Valid) :
    Consistent detached (k.setTcb t new) lists where
  scheduled := consistent.scheduled
  timer := consistent.timer
  create := consistent.create
  tasks := consistent.tasks.replace new sameId sameHome sameTimed valid
  live := consistent.live
  waiters := consistent.waiters

/-- A change of the objects that deletes none and creates none whose lists have
not been initialized. -/
theorem of_objects {k' : Kernel} (consistent : Consistent detached k lists)
    (taskLinks : k'.taskLinks = k.taskLinks)
    (timerLinks : k'.timerLinks = k.timerLinks)
    (createLinks : k'.createLinks = k.createLinks)
    (tcb : k'.tcb = k.tcb)
    (bmp : k'.tnReadyToRunBmp = k.tnReadyToRunBmp)
    (next : k'.tnNextTaskToRun = k.tnNextTaskToRun)
    (live : ∀ list, k'.hasList list = true → lists.live list)
    (kept : ∀ list, k.hasList list = true → k'.hasList list = true) :
    Consistent detached k' lists where
  scheduled := by
    rw [taskLinks, bmp, next]
    exact consistent.scheduled
  timer := timerLinks ▸ consistent.timer
  create := createLinks ▸ consistent.create
  tasks := tcb ▸ consistent.tasks
  live := live
  waiters list some := kept list (consistent.waiters list some)

theorem liveHead_insert (live : WaitList → Prop) (list : WaitList) :
    liveHead (fun other => other = list ∨ live other) =
      fun head => head = .wait list ∨ liveHead live head := by
  funext head
  cases head <;> simp [liveHead]

/-- `queue_reset` on the head of a wait list without waiters. -/
theorem resetList (consistent : Consistent detached k lists)
    (list : WaitList) (absent : k.hasList list = false) :
    Consistent detached { k with
        taskLinks := queueReset k.taskLinks (.head (.wait list)) }
      { lists with live := fun other => other = list ∨ lists.live other } where
  scheduled := by
    have empty : lists.task (.wait list) = [] := by
      by_contra some
      have has := consistent.waiters list some
      exact absurd (absent.symm.trans has) (by decide)
    have reset := consistent.scheduled.represents.resetHead _ empty
    rw [← liveHead_insert] at reset
    exact ⟨reset, consistent.scheduled.bitmap, consistent.scheduled.best⟩
  timer := consistent.timer
  create := consistent.create
  tasks := ⟨consistent.tasks.home, consistent.tasks.timed,
    consistent.tasks.created, consistent.tasks.valid⟩
  live other has := .inr (consistent.live other has)
  waiters := consistent.waiters

end Consistent

end UsbBulk
