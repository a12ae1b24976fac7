import UsbBulk.Kernel.Tick

/-!
# The state that the start of the system leaves

`tn_start_system` builds the ready lists and the two system tasks.  The lists of
the kernel objects are initialized later, when the objects are created.
-/

namespace UsbBulk

/-- The lists of a system without tasks. -/
def Lists.none : Lists where
  task _ := []
  timer := []
  create := []
  live _ := False

/-- The loop over the ready lists initializes the heads below its bound. -/
theorem resetReadyLists_spec (n : Nat) (k : Kernel) :
    ∃ links ticks, resetReadyLists n k =
        { k with taskLinks := links, tnTsliceTicks := ticks } ∧
      Represents links (fun head => ∃ i < n, head = .ready i)
        fun _ => ([] : List TaskId) := by
  induction n with
  | zero =>
      refine ⟨k.taskLinks, k.tnTsliceTicks, rfl, ?_⟩
      simpa using Represents.initial k.taskLinks
  | succ n ih =>
      obtain ⟨links, ticks, run, represents⟩ := ih
      refine ⟨queueReset links (.head (.ready n)),
        Function.update ticks n 0, ?_, ?_⟩
      · rw [resetReadyLists, run]
      · have reset := represents.resetHead (.ready n) rfl
        refine cast (congrArg (Represents _ · _) ?_) reset
        funext head
        refine propext ⟨?_, ?_⟩
        · rintro (equal | ⟨i, below, equal⟩)
          · exact ⟨n, Nat.lt_succ_self n, equal⟩
          · exact ⟨i, Nat.lt_succ_of_lt below, equal⟩
        · rintro ⟨i, below, equal⟩
          rcases Nat.lt_succ_iff_lt_or_eq.mp below with less | rfl
          · exact .inr ⟨i, less, equal⟩
          · exact .inl equal

theorem represents_reset_single {Entry : Type} [DecidableEq Entry]
    (links : Links (Node Unit Entry)) :
    Represents (queueReset links (.head ())) (fun _ => True)
      fun _ => ([] : List Entry) := by
  have initial : Represents links (fun _ => False)
      fun _ : Unit => ([] : List Entry) := .initial links
  simpa using initial.resetHead () rfl

section Start

variable {k : Kernel}

theorem Kernel.Fresh.hasList (fresh : k.Fresh) (list : WaitList) :
    k.hasList list = false := by
  cases list <;>
    simp [Kernel.hasList, Kernel.isSem, Kernel.isEvent, Kernel.isDque,
      Kernel.isFmp, Kernel.isMutex, fresh.sem, fresh.event, fresh.dque,
      fresh.fmp, fresh.mutex, tnIdSemaphore, tnIdEvent, tnIdDataqueue,
      tnIdFsmemorypool, tnIdMutex]

theorem resetKernel_consistent (fresh : k.Fresh) :
    Consistent none (resetKernel k) Lists.none ∧
      (resetKernel k).tcb = k.tcb := by
  obtain ⟨links, ticks, run, represents⟩ :=
    resetReadyLists_spec tnNumPriority k
  have noTask : ∀ t, (k.tcb t).idTask ≠ tnIdTask := fun t task => by
    rw [fresh.task t] at task
    exact absurd task (by decide)
  have heads : (fun head => ∃ i < tnNumPriority, head = .ready i) =
      liveHead Lists.none.live := by
    funext head
    cases head <;> simp [liveHead, Lists.none]
  rw [heads] at represents
  unfold resetKernel
  rw [run]
  refine ⟨⟨⟨represents, fun p => by simp [Lists.none], fun p => rfl⟩,
    represents_reset_single _, represents_reset_single _, ⟨?_, ?_, ?_, ?_⟩,
    fun list has => ?_, fun list some => absurd rfl some⟩, rfl⟩
  · intro t head
    simp [Lists.none, Tcb.home, noTask t]
  · intro t
    simp [Lists.none, Tcb.Timed, noTask t]
  · intro t
    simp [Lists.none, noTask t]
  · intro t task
    exact absurd task (noTask t)
  · exact absurd (has.symm.trans (fresh.hasList list)) (by decide)

/-- What the control block of a system task says when the system starts. -/
structure Tcb.Started (tcb : Tcb) : Prop where
  idTask : tcb.idTask = tnIdTask
  taskState : tcb.taskState = .runnable
  pwaitQueue : tcb.pwaitQueue = none
  blkTask : tcb.blkTask = none
  priority : tcb.priority = tcb.basePriority

/-- The creation of a system task passes all checks and does not start it. -/
theorem Consistent.createSystem {lists : Lists}
    (consistent : Consistent none k lists) (t : TaskId) (args : TaskParams)
    (tnTaskExit : Word) (fresh : (k.tcb t).idTask = 0)
    (stopped : k.tnIntCounter = 0 ∧ k.tnSystemRunning = false)
    (special : (args.priority = 0 ∧ args.option = tnTaskTimer) ∨
      (args.priority = tnNumPriority - 1 ∧ args.option = tnTaskIdle))
    (stack : tnMinStackSize ≤ args.taskStackSize)
    (nonNull : args.taskFunc ≠ 0 ∧ args.taskStackStart ≠ 0) :
    ∃ k' new, tnTaskCreate tnTaskExit k (some t) args =
        some (k', .ret .noErr) ∧
      Consistent none k' { lists with create := lists.create ++ [t] } ∧
      k'.tcb = Function.update k.tcb t new ∧ new.Created args ∧
      k'.tnCreatedTasksQty = k.tnCreatedTasksQty + 1 ∧
      k'.tnIntCounter = 0 ∧ k'.tnSystemRunning = false := by
  have notTask : (k.tcb t).idTask ≠ tnIdTask := by
    rw [fresh]
    decide
  have inRange : args.priority < tnNumPriority := by
    rcases special with ⟨priority, _⟩ | ⟨priority, _⟩ <;>
      simp [priority, tnNumPriority]
  have context : k.wrongNonIntContext = false := by
    simp [Kernel.wrongNonIntContext, stopped]
  have small := eq_false (Int.not_lt.mpr stack)
  have func : ¬ args.taskFunc = 0#32 := nonNull.1
  have start : ¬ args.taskStackStart = 0#32 := nonNull.2
  obtain ⟨new, tcb, created⟩ := initTask_tcb tnTaskExit k t args
  refine ⟨_, new, ?_, consistent.initTask notTask tnTaskExit args inRange,
    tcb, created, rfl, stopped.1, stopped.2⟩
  unfold tnTaskCreate
  rcases special with ⟨priority, option⟩ | ⟨priority, option⟩ <;>
    simp [priority, option, context, func, start, fresh, small,
      tnNumPriority, tnTaskTimer, tnTaskIdle, tnTaskStartOnCreation]

theorem taskToRunnable_qty (k : Kernel) (t : TaskId) :
    (taskToRunnable k t).tnCreatedTasksQty = k.tnCreatedTasksQty := by
  unfold taskToRunnable
  dsimp only
  split
  · rfl
  · split <;> rfl

theorem Consistent.startSystem {lists : Lists} {t : TaskId}
    {args : TaskParams} (consistent : Consistent none k lists)
    (created : (k.tcb t).Created args) :
    ∃ new, new.Started ∧
      (UsbBulk.taskToRunnable k t).tcb = Function.update k.tcb t new ∧
      Consistent none (UsbBulk.taskToRunnable k t)
        (lists.ready t (k.tcb t).priority) := by
  obtain ⟨bmp, next, run, after⟩ := consistent.taskToRunnable created.idTask
    (by simp [Tcb.home, created.taskState])
    (by simp [created.taskState, TaskState.isWait])
  refine ⟨{ k.tcb t with taskState := .runnable, pwaitQueue := none },
    ⟨created.idTask, rfl, rfl, created.blkTask,
      created.priority.trans created.basePriority.symm⟩, ?_, run ▸ after⟩
  rw [run]
  rfl

/-- With a ready task there is a task to switch to. -/
theorem Consistent.next_some {lists : Lists}
    (consistent : Consistent none k lists) {t : TaskId} {p : Nat}
    (ready : t ∈ lists.task (.ready p)) :
    ∃ next, k.tnNextTaskToRun = some next ∧
      (k.tcb next).idTask = tnIdTask ∧
      (k.tcb next).taskState = .runnable ∧
      ∀ q, lists.task (.ready q) ≠ [] → (k.tcb next).priority ≤ q := by
  have best := consistent.scheduled.best
  cases cached : k.tnNextTaskToRun with
  | none =>
      rw [cached] at best
      simp [best p] at ready
  | some next =>
      rw [cached] at best
      obtain ⟨q, member, none⟩ := best
      obtain ⟨task, runnable, priority⟩ := Tcb.home_eq_ready.mp
        ((consistent.tasks.home next _).mp member).2
      refine ⟨next, rfl, task, runnable, fun r some => ?_⟩
      by_contra above
      exact some (none r (by omega))

/-- `tn_start_system` leaves two ready tasks, both of them system tasks, and
nothing else has been created. -/
theorem tnStartSystem_spec (image : Image) (fresh : k.Fresh) :
    ∃ k', tnStartSystem image k = some k' ∧
      (∃ lists, Consistent none k' lists ∧
        k'.tnCreatedTasksQty = lists.create.length) ∧
      (k'.tcb k'.tnCurrRunTask).idTask = tnIdTask ∧
      (k'.tcb image.timerTask).Started ∧ (k'.tcb image.idleTask).Started ∧
      ∀ t, t ≠ image.timerTask → t ≠ image.idleTask →
        (k'.tcb t).idTask = 0 := by
  obtain ⟨reset, tcb⟩ := resetKernel_consistent fresh
  have distinct := image.distinct
  obtain ⟨timerFunc, idleFunc, timerStack, idleStack⟩ := image.nonNull
  -- Both system tasks are created.
  obtain ⟨k₁, timer, create₁, one, tcb₁, timerNew, qty₁, stopped₁⟩ :=
    reset.createSystem image.timerTask image.timerParams image.tnTaskExit
      (by rw [tcb]; exact fresh.task _) ⟨rfl, rfl⟩
      (.inl ⟨rfl, rfl⟩) (show tnMinStackSize ≤ 64 by decide)
      ⟨timerFunc, timerStack⟩
  obtain ⟨k₂, idle, create₂, two, tcb₂, idleNew, qty₂, _⟩ :=
    one.createSystem image.idleTask image.idleParams image.tnTaskExit
      (by rw [tcb₁, Function.update_of_ne distinct.symm, tcb];
          exact fresh.task _) stopped₁
      (.inr ⟨rfl, rfl⟩) (show tnMinStackSize ≤ 48 by decide)
      ⟨idleFunc, idleStack⟩
  -- Both are made ready, and one of them is switched to.
  obtain ⟨idle', idleStarted, tcb₃, three⟩ := two.startSystem
    (t := image.idleTask) (by rw [tcb₂, Function.update_self]; exact idleNew)
  obtain ⟨timer', timerStarted, tcb₄, four⟩ := three.startSystem
    (t := image.timerTask) (by
      rw [tcb₃, Function.update_of_ne distinct, tcb₂,
        Function.update_of_ne distinct, tcb₁, Function.update_self]
      exact timerNew)
  obtain ⟨next, cached, task, _⟩ := four.next_some
    (mem_pushLast.mpr (.inr ⟨rfl, rfl⟩))
  rw [tnStartSystem]
  simp only [create₁, create₂, Option.bind_eq_bind, Option.bind_some,
    tnSwitchContext, cached]
  refine ⟨_, rfl, ⟨_, four.of_objects rfl rfl rfl rfl rfl cached.symm
    four.live fun _ has => has, ?_⟩, task, ?_, ?_,
    fun t notTimer notIdle => ?_⟩ <;>
    simp only [tcb₄, tcb₃, tcb₂, tcb₁, tcb]
  · simp only [taskToRunnable_qty, qty₂, qty₁]
    rfl
  · rw [Function.update_self]
    exact timerStarted
  · rw [Function.update_of_ne distinct.symm, Function.update_self]
    exact idleStarted
  · simp only [Function.update_of_ne notTimer, Function.update_of_ne notIdle]
    exact fresh.task t

end Start

end UsbBulk
