import UsbBulk.Kernel.MutexRun

/-!
# The lists after `tn_task_terminate`

`tn_task_terminate` unlinks the node `task_queue` of every task that waits.  A task
that only sleeps is in no wait list: its node still holds the links that it had
when it left the ready list.
-/

namespace UsbBulk

/-- The ready, wait and timer lists are well formed, and the control blocks agree
with them. -/
structure Queued (k : Kernel) (lists : Lists) : Prop where
  scheduled : Scheduled k.taskLinks k.tnReadyToRunBmp k.tnNextTaskToRun
    lists.live lists.task
  timer : Represents k.timerLinks (fun _ => True) fun _ => lists.timer
  tasks : TaskLists none k.tcb lists

theorem Consistent.queued {k : Kernel} {lists : Lists}
    (consistent : Consistent none k lists) : Queued k lists :=
  ⟨consistent.scheduled, consistent.timer, consistent.tasks⟩

/-- The lists without a task. -/
def Lists.without (lists : Lists) (t : TaskId) : Lists :=
  { lists.detach t with timer := lists.timer.erase t }

/-- The lists once a task has been terminated: the others are where they were, and
the task is in no list, or, with an activation pending, in the ready list of its
base priority. -/
def Lists.terminated (lists : Lists) (t : TaskId) (tcb : Tcb) : Lists :=
  if 0 < tcb.activateCount then (lists.without t).ready t tcb.basePriority
  else lists.without t

/-- The task sleeps, and waits for no object. -/
def Tcb.Sleeping (tcb : Tcb) : Prop :=
  tcb.taskState.isWait = true ∧ tcb.pwaitQueue = none

/-- The nodes that the stale links of a sleeping task lead to are still neighbours,
as far as they are in a list; the first one may also be the last node of the list
that the task is going to be appended to. -/
def Kernel.StaleFits (k : Kernel) (lists : Lists) (t : TaskId) : Prop :=
  let linked := Linked (liveHead lists.live) lists.task
  let before := k.taskLinks.prev (.entry t)
  let after := k.taskLinks.next (.entry t)
  (linked before → k.taskLinks.next before = after ∨
    (0 < (k.tcb t).activateCount ∧
      before = k.taskLinks.prev (.head (.ready (k.tcb t).basePriority)))) ∧
  (linked after → k.taskLinks.prev after = before)

section Parts

variable {k : Kernel} {lists : Lists} {t : TaskId} {fuel : Nat}

/-- A task that runs or is suspended is not in the timer list. -/
theorem Queued.not_timed (queued : Queued k lists)
    (awake : (k.tcb t).taskState.isWait = false) : t ∉ lists.timer := by
  intro member
  have timed := (queued.tasks.timed t).mp member
  rw [timed.2.1] at awake
  cases awake

theorem Queued.absent_of_homeless (queued : Queued k lists)
    (homeless : (k.tcb t).home = none) :
    (∀ list, t ∉ lists.task list) ∧ drop lists.task t = lists.task := by
  have absent : ∀ list, t ∉ lists.task list := by
    intro list member
    rw [((queued.tasks.home t list).mp member).2] at homeless
    cases homeless
  exact ⟨absent, funext fun list => drop_of_absent (absent list)⟩

theorem Tcb.Sleeping.homeless {tcb : Tcb} (sleeping : tcb.Sleeping) :
    tcb.home = none := by
  obtain ⟨waiting, noQueue⟩ := sleeping
  unfold Tcb.home
  split
  · revert waiting
    cases tcb.taskState <;> simp [TaskState.isWait, noQueue]
  · rfl

/-- A task that waits leaves its wait list, unless it only sleeps. -/
theorem Queued.leaveWait (queued : Queued k lists)
    (isTask : (k.tcb t).idTask = tnIdTask)
    (waiting : (k.tcb t).taskState.isWait = true) :
    BitmapOf (drop lists.task t) k.tnReadyToRunBmp ∧
      BestReady (drop lists.task t) k.tnNextTaskToRun ∧
      (¬(k.tcb t).Sleeping →
        Represents (queueRemoveEntry k.taskLinks (.entry t))
          (liveHead lists.live) (drop lists.task t)) := by
  cases waitsIn : (k.tcb t).pwaitQueue with
  | none =>
      have sleeping : (k.tcb t).Sleeping := ⟨waiting, waitsIn⟩
      rw [(queued.absent_of_homeless sleeping.homeless).2]
      exact ⟨queued.scheduled.bitmap, queued.scheduled.best,
        fun awake => absurd sleeping awake⟩
  | some list =>
      have member : t ∈ lists.task (.wait list) :=
        (queued.tasks.home t _).mpr ⟨by simp, Tcb.home_eq_wait.mpr
          ⟨isTask, waiting, waitsIn⟩⟩
      have scheduled := queued.scheduled.dropWait member
      exact ⟨scheduled.bitmap, scheduled.best, fun _ => scheduled.represents⟩

/-- The first part of `tn_task_terminate`.  Only the node of a sleeping task may be
unlinked by stale links. -/
theorem leaveQueues_spec (queued : Queued k lists) {blocked : List TaskId}
    (blockLinks : Represents k.blockLinks (fun _ => True) fun _ => blocked)
    (enough : blocked.length < fuel) (isTask : (k.tcb t).idTask = tnIdTask) :
    ∃ k₁, leaveQueues fuel k t = some k₁ ∧ k₁.tcb = k.tcb ∧
      k₁.mutexLinks = k.mutexLinks ∧
      BitmapOf (drop lists.task t) k₁.tnReadyToRunBmp ∧
      BestReady (drop lists.task t) k₁.tnNextTaskToRun ∧
      Represents k₁.timerLinks (fun _ => True) (fun _ => lists.timer.erase t) ∧
      ((k.tcb t).Sleeping →
        k₁.taskLinks = k.taskLinks.unlink (.entry t)) ∧
      (¬(k.tcb t).Sleeping →
        Represents k₁.taskLinks (liveHead lists.live) (drop lists.task t)) := by
  unfold leaveQueues
  by_cases ready : (k.tcb t).taskState = .runnable
  · have awake : (k.tcb t).taskState.isWait = false := by
      simp [ready, TaskState.isWait]
    have member : t ∈ lists.task (.ready (k.tcb t).priority) :=
      (queued.tasks.home t _).mpr ⟨by simp, Tcb.home_eq_ready.mpr
        ⟨isTask, ready, rfl⟩⟩
    obtain ⟨bmp, next, run, scheduled⟩ :=
      taskToNonRunnable_spec queued.scheduled member
    rw [if_pos ready, List.erase_of_not_mem (queued.not_timed awake)]
    refine ⟨_, run, rfl, rfl, scheduled.bitmap, scheduled.best, queued.timer,
      fun sleeping => ?_, fun _ => scheduled.represents⟩
    cases awake.symm.trans sleeping.1
  rw [if_neg ready]
  by_cases waiting : (k.tcb t).taskState.isWait = true
  · obtain ⟨bitmap, best, linked⟩ := queued.leaveWait isTask waiting
    have clock : Represents (if (k.tcb t).tickCount ≠ tnWaitInfinite then
        queueRemoveEntry k.timerLinks (.entry t) else k.timerLinks)
        (fun _ => True) fun _ => lists.timer.erase t := by
      split
      · next timed =>
        exact queued.timer.removeEntry_single
          ((queued.tasks.timed t).mpr ⟨isTask, waiting, timed⟩)
      · next untimed =>
        rw [List.erase_of_not_mem fun member => untimed
          ((queued.tasks.timed t).mp member).2.2]
        exact queued.timer
    have found := @Represents.containsEntry_iff _ _ _ _ _ _ _ () t blockLinks
      trivial fuel enough
    have stale := queueRemoveEntry_eq k.taskLinks (.entry t)
    rw [if_pos waiting]
    simp only [Option.bind_eq_bind, found, Option.bind_some]
    by_cases timed : (k.tcb t).tickCount = tnWaitInfinite <;>
      by_cases listed : t ∈ blocked <;>
      simp only [timed, listed, ne_eq, not_true, not_false_iff, decide_true,
        decide_false, Bool.false_eq_true, if_true, if_false] at clock ⊢ <;>
      exact ⟨_, rfl, rfl, rfl, bitmap, best, clock, fun _ => stale, linked⟩
  · have awake : (k.tcb t).taskState.isWait = false := by simpa using waiting
    have homeless : (k.tcb t).home = none := by
      unfold Tcb.home
      revert ready awake
      cases (k.tcb t).taskState <;> simp [TaskState.isWait]
    obtain ⟨absent, same⟩ := queued.absent_of_homeless homeless
    rw [if_neg waiting, same, List.erase_of_not_mem (queued.not_timed awake)]
    refine ⟨k, rfl, rfl, rfl, queued.scheduled.bitmap, queued.scheduled.best,
      queued.timer, fun sleeping => absurd sleeping.1 waiting,
      fun _ => queued.scheduled.represents⟩

theorem resetTask_tcb (exitAddress : Word) (k : Kernel) (t : TaskId) :
    ∃ new, (resetTask exitAddress k t).tcb = Function.update k.tcb t new ∧
      new.idTask = (k.tcb t).idTask ∧ new.taskState = .dormant ∧
      new.pwaitQueue = none ∧ new.priority = (k.tcb t).basePriority ∧
      new.basePriority = (k.tcb t).basePriority ∧
      new.activateCount = (k.tcb t).activateCount := by
  refine ⟨(resetTask exitAddress k t).tcb t, funext fun u => ?_, ?_⟩
  · by_cases same : u = t
    · subst same
      rw [Function.update_self]
    · rw [Function.update_of_ne same]
      simp [resetTask, taskSetDormantState, Kernel.setTcb, same]
  · simp [resetTask, taskSetDormantState, Kernel.setTcb]

/-- The links play no part in the choice of the next task. -/
theorem taskToRunnable_links (k : Kernel)
    (links : Links (Node QueueHead TaskId)) (t : TaskId) :
    taskToRunnable { k with taskLinks := links } t =
      { taskToRunnable k t with
        taskLinks := queueAddTail links (.head (.ready (k.tcb t).priority))
          (.entry t) } := by
  unfold taskToRunnable
  dsimp only [Kernel.setTcb]
  split
  · rfl
  split <;> rfl

theorem Queued.terminated (queued : Queued k lists) {new : Tcb}
    (sameId : new.idTask = (k.tcb t).idTask)
    (awake : new.taskState.isWait = false) (noQueue : new.pwaitQueue = none)
    (priority : new.priority < tnNumPriority)
    (basePriority : new.basePriority < tnNumPriority)
    (home : new.home = if 0 < (k.tcb t).activateCount then
      some (.ready (k.tcb t).basePriority) else none) :
    TaskLists none (Function.update k.tcb t new)
      (lists.terminated t (k.tcb t)) := by
  have valid : new.Valid := ⟨priority, basePriority,
    fun waiting => absurd (awake.symm.trans waiting) (by decide),
    fun _ => noQueue⟩
  have untimed : ¬new.Timed := fun timed =>
    absurd (awake.symm.trans timed.2.1) (by decide)
  have detached := @TaskLists.detach _ _ t queued.tasks
    queued.scheduled.represents.nodup
  have clocked : ∀ u, u ∈ lists.timer.erase t ↔
      (u = t ∧ new.Timed) ∨ (u ≠ t ∧ u ∈ lists.timer) := by
    intro u
    rw [(queued.timer.nodup ()).mem_erase_iff]
    simp [untimed]
  unfold Lists.terminated
  split
  · next pending =>
    rw [if_pos pending] at home
    refine detached.settle new sameId valid (fun u list => ?_) clocked
    rw [home, mem_pushLast]
    simp [Lists.without, or_comm, and_comm, eq_comm]
  · next idle =>
    rw [if_neg idle] at home
    exact detached.settle new sameId valid (fun u list => by simp [home])
      clocked

theorem Queued.absent_drop (queued : Queued k lists) (list : QueueHead) :
    t ∉ drop lists.task t list := fun member =>
  ((queued.scheduled.represents.nodup list).mem_erase_iff.mp member).1 rfl

/-- The links of the lists once the node of the task has been unlinked and reset,
and perhaps appended again. -/
theorem Queued.links_iff (queued : Queued k lists)
    {links : Links (Node QueueHead TaskId)}
    (base : (k.tcb t).basePriority < tnNumPriority)
    (stale : (k.tcb t).Sleeping → links = k.taskLinks.unlink (.entry t))
    (linked : ¬(k.tcb t).Sleeping →
      Represents links (liveHead lists.live) (drop lists.task t)) :
    Represents (if 0 < (k.tcb t).activateCount then
        queueAddTail (queueReset links (.entry t))
          (.head (.ready (k.tcb t).basePriority)) (.entry t)
      else queueReset links (.entry t))
      (liveHead lists.live) (lists.terminated t (k.tcb t)).task ↔
        ((k.tcb t).Sleeping → k.StaleFits lists t) := by
  have alive : liveHead lists.live (.ready (k.tcb t).basePriority) := base
  have absent : ∀ list, t ∉ drop lists.task t list := queued.absent_drop
  by_cases sleeping : (k.tcb t).Sleeping
  · obtain ⟨outside, same⟩ := queued.absent_of_homeless sleeping.homeless
    have discarded : queueReset links (.entry t) = k.taskLinks.discard t := by
      rw [queueReset_eq, stale sleeping]
      rfl
    simp only [sleeping, true_implies, Kernel.StaleFits, discarded,
      Lists.terminated, Lists.without, Lists.detach]
    split
    · next pending =>
      rw [queueAddTail_eq]
      simp only [Lists.ready, same]
      exact (queued.scheduled.represents.discard_append_iff outside alive).trans
        (by simp only [pending, true_and])
    · next idle =>
      simp only [same]
      exact (queued.scheduled.represents.discard_iff outside).trans
        (by simp only [idle, false_and, or_false])
  · have reset := (linked sleeping).resetEntry absent
    simp only [sleeping, false_implies, iff_true, Lists.terminated,
      Lists.without, Lists.detach]
    split
    · exact reset.addTail alive absent
    · exact reset

theorem Queued.exists_dropped (queued : Queued k lists) (t : TaskId) :
    ∃ links, Represents links (liveHead lists.live) (drop lists.task t) := by
  by_cases member : ∃ list, t ∈ lists.task list
  · obtain ⟨list, member⟩ := member
    exact ⟨_, queued.scheduled.represents.removeEntry member⟩
  · have same : drop lists.task t = lists.task :=
      funext fun list => drop_of_absent fun inList => member ⟨list, inList⟩
    exact ⟨_, same ▸ queued.scheduled.represents⟩

theorem Queued.iff_links (bitmap : BitmapOf lists.task k.tnReadyToRunBmp)
    (best : BestReady lists.task k.tnNextTaskToRun)
    (timer : Represents k.timerLinks (fun _ => True) fun _ => lists.timer)
    (tasks : TaskLists none k.tcb lists) :
    Queued k lists ↔
      Represents k.taskLinks (liveHead lists.live) lists.task :=
  ⟨fun queued => queued.scheduled.represents,
    fun represents => ⟨⟨represents, bitmap, best⟩, timer, tasks⟩⟩

/-- `task_to_runnable` after a pending activation has been counted, whatever the
links are. -/
theorem serveActivation_spec {task : QueueHead → List TaskId}
    {sound : Links (Node QueueHead TaskId)} {live : WaitList → Prop}
    (represents : Represents sound (liveHead live) task)
    (bitmap : BitmapOf task k.tnReadyToRunBmp)
    (best : BestReady task k.tnNextTaskToRun) (priorities : PriorityOf k task)
    (small : (k.tcb t).priority < tnNumPriority)
    (absent : ∀ list, t ∉ task list) :
    let k' := serveActivation k t
    let ready := QueueHead.ready (k.tcb t).priority
    k'.tcb = Function.update k.tcb t { k.tcb t with
        activateCount := (k.tcb t).activateCount - 1
        taskState := .runnable
        pwaitQueue := none } ∧
      k'.taskLinks = queueAddTail k.taskLinks (.head ready) (.entry t) ∧
      k'.timerLinks = k.timerLinks ∧
      BitmapOf (pushLast task ready t) k'.tnReadyToRunBmp ∧
      BestReady (pushLast task ready t) k'.tnNextTaskToRun := by
  intro k' ready
  -- The kernel before `task_to_runnable`, with links for the given lists.
  let before := k.setTcb t { k.tcb t with
    activateCount := (k.tcb t).activateCount - 1 }
  have others : ∀ u, (before.tcb u).priority = (k.tcb u).priority := by
    intro u
    by_cases same : u = t
    · subst same
      simp [before, Kernel.setTcb]
    · simp [before, Kernel.setTcb, same]
  obtain ⟨bmp, next, run, scheduled⟩ := @taskToRunnable_spec
    { before with taskLinks := sound } live task t ⟨represents, bitmap, best⟩
    (fun u p member => (others u).trans (priorities u p member))
    (by rw [others]; exact small) absent
  have ghost := (taskToRunnable_links before sound t).symm.trans run
  have own : taskToRunnable before t = k' := rfl
  rw [own] at ghost
  have bmp' : k'.tnReadyToRunBmp = bmp := congrArg (·.tnReadyToRunBmp) ghost
  have next' : k'.tnNextTaskToRun = next := congrArg (·.tnNextTaskToRun) ghost
  refine ⟨(congrArg (·.tcb) ghost).trans ?_, ?_,
    congrArg (·.timerLinks) ghost, ?_, ?_⟩
  · simp [before, Kernel.setTcb, Kernel.setReady]
  · exact (congrArg (·.taskLinks)
      (taskToRunnable_links before before.taskLinks t)).trans
        (by rw [others])
  · rw [bmp', show ready = .ready (before.tcb t).priority by rw [others]]
    exact scheduled.bitmap
  · rw [next', show ready = .ready (before.tcb t).priority by rw [others]]
    exact scheduled.best

/-- The last part of `tn_task_terminate`, as far as the lists are concerned. -/
theorem Queued.restart (queued : Queued k lists) (exitAddress : Word)
    (isTask : (k.tcb t).idTask = tnIdTask) {k₁ : Kernel}
    (tcb : k₁.tcb = k.tcb)
    (bitmap : BitmapOf (drop lists.task t) k₁.tnReadyToRunBmp)
    (best : BestReady (drop lists.task t) k₁.tnNextTaskToRun)
    (timer : Represents k₁.timerLinks (fun _ => True)
      fun _ => lists.timer.erase t) :
    let k₂ := resetTask exitAddress k₁ t
    let k' := if 0 < (k.tcb t).activateCount then serveActivation k₂ t else k₂
    Queued k' (lists.terminated t (k.tcb t)) ↔
      Represents (if 0 < (k.tcb t).activateCount then
        queueAddTail (queueReset k₁.taskLinks (.entry t))
          (.head (.ready (k.tcb t).basePriority)) (.entry t)
      else queueReset k₁.taskLinks (.entry t))
      (liveHead lists.live) (lists.terminated t (k.tcb t)).task := by
  intro k₂ k'
  have base := (queued.tasks.valid t isTask).basePriority
  obtain ⟨new, reset, sameId, dormant, noQueue, priority, basePriority, count⟩ :=
    resetTask_tcb exitAddress k₁ t
  rw [tcb] at reset sameId priority basePriority count
  have own : k₂.tcb t = new := by
    rw [reset, Function.update_self]
  have clock : Represents k₂.timerLinks (fun _ => True)
      fun _ => lists.timer.erase t :=
    timer.resetEntry fun _ member =>
      ((queued.timer.nodup ()).mem_erase_iff.mp member).1 rfl
  by_cases pending : 0 < (k.tcb t).activateCount
  · obtain ⟨sound, represents⟩ := queued.exists_dropped t
    have priorities : PriorityOf k₂ (drop lists.task t) := by
      intro u p member
      have other : u ≠ t := by
        rintro rfl
        exact queued.absent_drop _ member
      rw [reset, Function.update_of_ne other]
      have home := (queued.tasks.home u _).mp (List.mem_of_mem_erase member)
      exact (Tcb.home_eq_ready.mp home.2).2.2
    obtain ⟨tcb', links, timer', bitmap', best'⟩ := @serveActivation_spec k₂ t _
      sound _ represents bitmap best priorities
      (by rw [own, priority]; exact base) queued.absent_drop
    have same : k' = serveActivation k₂ t := if_pos pending
    have shape : lists.terminated t (k.tcb t) =
        (lists.without t).ready t (k.tcb t).basePriority := if_pos pending
    rw [← same, own, reset, Function.update_idem] at tcb'
    rw [← same, own, priority] at links bitmap' best'
    rw [← same] at timer'
    have tasks := @Queued.terminated k lists t queued { new with
        activateCount := new.activateCount - 1
        taskState := .runnable
        pwaitQueue := none } sameId rfl rfl (priority ▸ base)
      (basePriority ▸ base) (by
        rw [if_pos pending, ← priority]
        exact Tcb.home_eq_ready.mpr ⟨sameId.trans isTask, rfl, rfl⟩)
    rw [← tcb', shape] at tasks
    rw [if_pos pending, shape]
    change _ ↔ Represents (queueAddTail k₂.taskLinks _ _) _ _
    rw [← links]
    refine Queued.iff_links bitmap' best' ?_ tasks
    rw [timer']
    exact clock
  · have same : k' = k₂ := if_neg pending
    have shape : lists.terminated t (k.tcb t) = lists.without t :=
      if_neg pending
    have tasks := queued.terminated sameId (by rw [dormant]; rfl) noQueue
      (priority ▸ base) (basePriority ▸ base) (by
        rw [if_neg pending]
        simp [Tcb.home, dormant])
    rw [← reset, shape] at tasks
    rw [if_neg pending, same, shape]
    exact Queued.iff_links bitmap best clock tasks

/-- Apart from a task that sleeps, a termination leaves the lists of all other tasks
alone.  For a task that sleeps this depends on what its stale links lead to. -/
theorem terminate_undisturbed_iff (queued : Queued k lists)
    {blocked : List TaskId}
    (blockLinks : Represents k.blockLinks (fun _ => True) fun _ => blocked)
    (enough : blocked.length < fuel) (isTask : k.isTask t = true)
    (allowed : k.wrongNonIntContext = false)
    (alive : (k.tcb t).taskState ≠ .dormant)
    (other : k.tnCurrRunTask ≠ t)
    (noMutex : isQueueEmpty k.mutexLinks (.head t) = true)
    (exitAddress : Word) :
    ∃ k' reply, tnTaskTerminate exitAddress fuel k (some t) =
        some (k', reply) ∧
      (Queued k' (lists.terminated t (k.tcb t)) ↔
        ((k.tcb t).Sleeping → k.StaleFits lists t)) := by
  have task := isTask_iff.mp isTask
  obtain ⟨k₁, leave, tcb, mutexLinks, bitmap, best, timer, stale, linked⟩ :=
    leaveQueues_spec queued blockLinks enough task
  have unlocked : unlockAll fuel t fuel k₁ = some k₁ := by
    obtain ⟨fuel, rfl⟩ := Nat.exists_eq_add_of_lt enough
    exact if_pos (by rw [mutexLinks]; exact noMutex)
  have pendingSame : ((resetTask exitAddress k₁ t).tcb t).activateCount =
      (k.tcb t).activateCount := by
    obtain ⟨new, reset, _, _, _, _, _, count⟩ :=
      resetTask_tcb exitAddress k₁ t
    rw [reset, Function.update_self, count, tcb]
  have undisturbed := (queued.restart exitAddress task tcb bitmap best timer).trans
    (queued.links_iff (queued.tasks.valid t task).basePriority stale linked)
  have run : tnTaskTerminate exitAddress fuel k (some t) =
      terminateBody exitAddress fuel k t := by
    simp [tnTaskTerminate, onTask, checked, isTask, allowed]
  rw [run, terminateBody, if_neg (not_or.mpr ⟨alive, other⟩)]
  simp only [leave, unlocked, Option.bind_eq_bind, Option.bind_some,
    pendingSame]
  by_cases pending : 0 < (k.tcb t).activateCount
  · simp only [if_pos pending] at undisturbed
    exact ⟨_, _, if_pos pending, undisturbed⟩
  · simp only [if_neg pending] at undisturbed
    exact ⟨_, _, if_neg pending, undisturbed⟩

end Parts

/-! ## Two terminations -/

theorem Reachable.queued {image : Image} {k : Kernel}
    (reachable : Reachable image image.Inheriting k) :
    ∃ lists blocked, Queued k lists ∧
      Represents k.blockLinks (fun _ => True) fun _ => blocked := by
  obtain ⟨lists, locks, guarded⟩ := reachable.orderly.guarded
  exact ⟨lists, locks.blocked, guarded.kept.consistent.queued,
    guarded.blocks.blockLinks⟩

/-- Task 2 exists and holds no mutex, and another task may terminate it. -/
def Kernel.mortal (k : Kernel) : Bool :=
  k.isTask 2 ∧ k.wrongNonIntContext = false ∧
    (k.tcb 2).taskState ≠ .dormant ∧ k.tnCurrRunTask ≠ 2 ∧
    isQueueEmpty k.mutexLinks (.head 2) = true

theorem mortal_reachable : ∃ k, Reachable .sample Image.sample.Inheriting k ∧
    (k.mortal && decide ((k.tcb 2).taskState = .runnable)) = true := by
  have free : ∀ move ∈ [Move.task (.taskCreate (some 2) .sample)],
      move.Free Image.sample.Inheriting := by
    simp [Move.Free, Image.Inheriting, Image.Untimed, Call.plain, Call.stops,
      Call.waits]
  exact Reachable.of_script free
    (show (Kernel.started.follow .sample 1 ⟨[0, 1, 2],
      [.ready 0, .ready 5, .ready 31], []⟩ _).any _ = true by decide +kernel)

/-- A task that is ready is terminated. -/
theorem terminate_undisturbed_ready : ∃ k k' fuel reply, ∃ lists : Lists,
    Reachable .sample Image.sample.Inheriting k ∧
      tnTaskTerminate Image.sample.tnTaskExit fuel k (some 2) =
        some (k', reply) ∧
      Queued k' (lists.terminated 2 (k.tcb 2)) := by
  obtain ⟨k, reachable, found⟩ := mortal_reachable
  obtain ⟨mortal, ready⟩ := (Bool.and_eq_true ..).mp found
  obtain ⟨isTask, allowed, alive, other, noMutex⟩ := of_decide_eq_true mortal
  obtain ⟨lists, blocked, queued, blockLinks⟩ := reachable.queued
  obtain ⟨k', reply, run, undisturbed⟩ := terminate_undisturbed_iff queued
    blockLinks (Nat.lt_succ_self _) isTask allowed alive other noMutex
    Image.sample.tnTaskExit
  refine ⟨k, k', _, reply, lists, reachable, run, undisturbed.mpr ?_⟩
  rintro ⟨waiting, -⟩
  rw [of_decide_eq_true ready] at waiting
  cases waiting

/-- Two tasks of one priority go to sleep, the first one first. -/
def sleepersScript : List Move := [
  .task (.taskCreate (some 2) .sample), .task (.taskCreate (some 3) .sample),
  .task (.taskSleep tnWaitInfinite), .switch,
  .task (.taskSleep tnWaitInfinite), .switch,
  .task (.taskSleep tnWaitInfinite), .switch,
  .irq (.taskIwakeup (some 0)), .switch]

/-- The ready list of priority 5 is empty, and a termination of task 2 links task 3
into it. -/
def Kernel.relinks (k : Kernel) : Bool :=
  k.taskLinks.next (.head (.ready 5)) = .head (.ready 5) ∧
    (k.tcb 2).activateCount = 0 ∧
    (tnTaskTerminate Image.sample.tnTaskExit 1 k (some 2)).any fun after =>
      after.1.taskLinks.next (.head (.ready 5)) = .entry 3

theorem relinks_reachable : ∃ k, Reachable .sample Image.sample.Inheriting k ∧
    (k.mortal && k.relinks) = true := by
  have free : ∀ move ∈ sleepersScript, move.Free Image.sample.Inheriting := by
    simp [sleepersScript, Move.Free, Image.Inheriting, Image.Untimed,
      Call.plain, Call.stops, Call.waits]
  exact Reachable.of_script free
    (show (Kernel.started.follow .sample 2 ⟨[0, 1, 2, 3],
      [.ready 0, .ready 5, .ready 31], []⟩ sleepersScript).any _ = true
      by decide +kernel)

/-- The termination of a sleeping task damages the ready list. -/
theorem terminate_disturbs : ∃ k k' reply, ∃ lists : Lists,
    Reachable .sample Image.sample.Inheriting k ∧ Queued k lists ∧
      k.mortal = true ∧
      tnTaskTerminate Image.sample.tnTaskExit 1 k (some 2) =
        some (k', reply) ∧
      ¬Queued k' (lists.terminated 2 (k.tcb 2)) := by
  obtain ⟨k, reachable, found⟩ := relinks_reachable
  obtain ⟨mortal, relinks⟩ := (Bool.and_eq_true ..).mp found
  obtain ⟨empty, idle, terminates⟩ := of_decide_eq_true relinks
  obtain ⟨⟨k', reply⟩, run, linked⟩ := (Option.any_eq_true ..).mp terminates
  obtain ⟨lists, blocked, queued, -⟩ := reachable.queued
  refine ⟨k, k', reply, lists, reachable, queued, mortal, run,
    fun after => ?_⟩
  have ready : liveHead lists.live (.ready 5) :=
    show 5 < tnNumPriority by decide
  have nobody : lists.task (.ready 5) = [] :=
    (queued.scheduled.represents.next_head_eq_iff ready).mp empty
  have shape : lists.terminated 2 (k.tcb 2) = lists.without 2 :=
    if_neg (by simp [idle])
  rw [shape] at after
  have still : k'.taskLinks.next (.head (.ready 5)) = .head (.ready 5) :=
    (after.scheduled.represents.next_head_eq_iff ready).mpr
      (by simp [Lists.without, Lists.detach, drop, nobody])
  cases still.symm.trans (of_decide_eq_true linked)

end UsbBulk
