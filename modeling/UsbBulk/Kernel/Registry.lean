import UsbBulk.Kernel.Effects
import UsbBulk.Kernel.TaskEnd

/-!
# The registry of tasks

`tn_create_queue` as long as tasks are created, activated and deleted, and what
is left of it when a task ends: `task_set_dormant_state` resets the node of a task
that is still listed.
-/

namespace UsbBulk

/-- `tn_create_queue` lists every task once, and a deleted task is linked
nowhere. -/
structure Registered (k : Kernel) (lists : Lists) : Prop where
  createLinks : Represents k.createLinks (fun _ => True) fun _ => lists.create
  taskLinks : Represents k.taskLinks (liveHead lists.live) lists.task
  timerLinks : Represents k.timerLinks (fun _ => True) fun _ => lists.timer
  created : ∀ t, t ∈ lists.create ↔ k.isTask t = true
  qty : k.tnCreatedTasksQty = lists.create.length
  deleted : ∀ t, (k.tcb t).idTask = 0 →
    t ∉ lists.create ∧ (∀ head, t ∉ lists.task head) ∧ t ∉ lists.timer

/-! ## Runs -/

/-- The calls that create, start, end and delete tasks. -/
inductive LifeCall where
  | create (task : Option TaskId) (args : TaskParams)
  | activate (task : Option TaskId)
  | exit (attr : Word)
  | terminate (task : Option TaskId)
  | delete (task : Option TaskId)

namespace LifeCall

def exec (exitAddress : Word) (fuel : Nat) (k : Kernel) :
    LifeCall → Option Kernel
  | create task args => (tnTaskCreate exitAddress k task args).map Prod.fst
  | activate task => (tnTaskActivate k task).map Prod.fst
  | exit attr => tnTaskExit exitAddress fuel k attr
  | terminate task => (tnTaskTerminate exitAddress fuel k task).map Prod.fst
  | delete task => (tnTaskDelete k task).map Prod.fst

/-- The call ends a task: an exit, or a termination that is not refused. -/
def EndsTask (k : Kernel) : LifeCall → Prop
  | exit _ => k.wrongIntContext = false
  | terminate task => ∃ t, task = some t ∧ k.isTask t = true ∧
      k.wrongNonIntContext = false ∧ (k.tcb t).taskState ≠ .dormant ∧
      k.tnCurrRunTask ≠ t
  | _ => False

end LifeCall

/-- One step: a call of the running task, which is not the idle task, or a
switch. -/
inductive LifeStep (image : Image) (allowed : Kernel → LifeCall → Prop) :
    Kernel → Kernel → Prop where
  | call {k k' : Kernel} (call : LifeCall) (fuel : Nat)
      (running : (k.tcb k.tnCurrRunTask).taskState = .runnable)
      (notIdle : k.tnCurrRunTask ≠ image.idleTask)
      (may : allowed k call)
      (run : call.exec image.tnTaskExit fuel k = some k') :
      LifeStep image allowed k k'
  | dispatch {k k' : Kernel} (run : tnSwitchContext k = some k') :
      LifeStep image allowed k k'

/-- The states that such runs reach from the start of the system. -/
inductive LifeRun (image : Image) (allowed : Kernel → LifeCall → Prop) :
    Kernel → Prop where
  | start {k k' : Kernel} (fresh : k.Fresh)
      (run : tnStartSystem image k = some k') : LifeRun image allowed k'
  | next {k k' : Kernel} (before : LifeRun image allowed k)
      (step : LifeStep image allowed k k') : LifeRun image allowed k'

/-! ## What the steps keep -/

/-- The kernel is consistent, and the tasks are counted. -/
structure TasksCounted (k : Kernel) (lists : Lists) : Prop where
  consistent : Consistent none k lists
  qty : k.tnCreatedTasksQty = lists.create.length

section Steps

variable {image : Image} {k k' : Kernel} {lists : Lists} {t : TaskId}

theorem TasksCounted.registered (counted : TasksCounted k lists) :
    Registered k lists := by
  have tasks := counted.consistent.tasks
  refine ⟨counted.consistent.create, counted.consistent.scheduled.represents,
    counted.consistent.timer, fun t => ?_, counted.qty, fun t deleted => ?_⟩
  · rw [tasks.created, isTask_iff]
  · have noTask : (k.tcb t).idTask ≠ tnIdTask := by
      rw [deleted]
      decide
    refine ⟨fun member => noTask ((tasks.created t).mp member),
      fun head member => ?_,
      fun member => noTask ((tasks.timed t).mp member).1⟩
    have home := ((tasks.home t head).mp member).2
    simp [Tcb.home, noTask] at home

theorem TasksCounted.start (fresh : k.Fresh)
    (run : tnStartSystem image k = some k') :
    ∃ lists, TasksCounted k' lists := by
  obtain ⟨k₁, run₁, ⟨lists, consistent, qty⟩, -⟩ :=
    tnStartSystem_spec image fresh
  obtain rfl : k₁ = k' := Option.some.inj (run₁.symm.trans run)
  exact ⟨lists, consistent, qty⟩

theorem TasksCounted.ready (counted : TasksCounted k lists)
    (task : (k.tcb t).idTask = tnIdTask)
    (dormant : (k.tcb t).taskState = .dormant) :
    ∃ lists, TasksCounted (taskToRunnable k t) lists := by
  obtain ⟨bmp, next, run, consistent⟩ := counted.consistent.taskToRunnable task
    (by simp [Tcb.home, dormant]) (by simp [dormant, TaskState.isWait])
  refine ⟨_, run ▸ consistent, ?_⟩
  rw [taskToRunnable_qty]
  exact counted.qty

theorem TasksCounted.create (counted : TasksCounted k lists) {exitAddress : Word}
    {task : Option TaskId} {args : TaskParams} {reply : Reply}
    (run : tnTaskCreate exitAddress k task args = some (k', reply)) :
    ∃ lists, TasksCounted k' lists := by
  unfold tnTaskCreate at run
  split at run
  · cases run
    exact ⟨lists, counted⟩
  split at run
  · cases run
    exact ⟨lists, counted⟩
  next range =>
  cases task with
  | none =>
      cases run
      exact ⟨lists, counted⟩
  | some t =>
      dsimp only at run
      split at run
      · cases run
        exact ⟨lists, counted⟩
      next fresh =>
      split at run
      · cases run
        exact ⟨lists, counted⟩
      simp only [not_or, ne_eq, not_not] at range fresh
      have notTask : (k.tcb t).idTask ≠ tnIdTask := by
        rw [fresh.2]
        decide
      have created : TasksCounted (initTask exitAddress k t args)
          { lists with create := lists.create ++ [t] } := by
        refine ⟨counted.consistent.initTask notTask exitAddress args
          (by have small := range.2.1; omega), ?_⟩
        change k.tnCreatedTasksQty + 1 = _
        rw [counted.qty, List.length_append]
        rfl
      obtain ⟨new, tcb, isNew⟩ := initTask_tcb exitAddress k t args
      cases run
      split
      · refine created.ready ?_ ?_ <;> rw [tcb, Function.update_self]
        · exact isNew.idTask
        · exact isNew.taskState
      · exact ⟨_, created⟩

theorem TasksCounted.setTcb (counted : TasksCounted k lists) {new : Tcb}
    (same : Tcb.SamePlace (k.tcb t) new) : TasksCounted (k.setTcb t new) lists :=
  ⟨counted.consistent.setTcb same, counted.qty⟩

theorem TasksCounted.activate (counted : TasksCounted k lists) {task : Option TaskId}
    {reply : Reply} (run : tnTaskActivate k task = some (k', reply)) :
    ∃ lists, TasksCounted k' lists := by
  rcases checked_eq run with ⟨rfl, -⟩ | ⟨t, -, -, valid, -, body⟩
  · exact ⟨lists, counted⟩
  rw [activateBody] at body
  dsimp only at body
  split at body
  case isTrue dormant =>
      cases body
      exact counted.ready (isTask_iff.mp valid) dormant
  case isFalse =>
      split at body
      · cases body
        exact ⟨lists, counted.setTcb ⟨rfl, rfl, rfl, rfl, rfl, rfl, rfl⟩⟩
      · cases body
        exact ⟨lists, counted⟩

theorem TasksCounted.unregister (counted : TasksCounted k lists)
    (task : (k.tcb t).idTask = tnIdTask)
    (dormant : (k.tcb t).taskState = .dormant) :
    TasksCounted (unregisterTask k t)
      { lists with create := lists.create.erase t } := by
  have consistent := counted.consistent
  have tasks := consistent.tasks
  have member : t ∈ lists.create := (tasks.created t).mpr task
  have homeless : ∀ head, t ∉ lists.task head := fun head inList => by
    have home := ((tasks.home t head).mp inList).2
    simp [Tcb.home, dormant] at home
  have untimed := consistent.not_timed (t := t)
    (by simp [dormant, TaskState.isWait])
  refine ⟨⟨consistent.scheduled, consistent.timer,
    consistent.create.removeEntry_single member, ⟨?_, ?_, ?_, ?_⟩,
    consistent.live, consistent.waiters⟩, ?_⟩
  · intro u head
    change u ∈ lists.task head ↔ _
    by_cases equal : u = t
    · subst equal
      simp [homeless head, unregisterTask, Kernel.setTcb, Tcb.home, tnIdTask]
    · rw [tasks.home]
      simp [unregisterTask, Kernel.setTcb, equal]
  · intro u
    change u ∈ lists.timer ↔ _
    by_cases equal : u = t
    · subst equal
      simp [untimed, unregisterTask, Kernel.setTcb, Tcb.Timed, tnIdTask]
    · rw [tasks.timed]
      simp [unregisterTask, Kernel.setTcb, equal]
  · intro u
    rw [(consistent.create.nodup ()).mem_erase_iff, tasks.created]
    by_cases equal : u = t
    · subst equal
      simp [unregisterTask, Kernel.setTcb, tnIdTask]
    · simp [unregisterTask, Kernel.setTcb, equal]
  · intro u isTask
    by_cases equal : u = t
    · subst equal
      simp [unregisterTask, Kernel.setTcb, tnIdTask] at isTask
    · simp only [unregisterTask, Kernel.setTcb,
        Function.update_of_ne equal] at isTask ⊢
      exact tasks.valid u isTask
  · have positive := List.length_pos_of_mem member
    change k.tnCreatedTasksQty - 1 = _
    rw [counted.qty, List.length_erase_of_mem member]
    omega

theorem TasksCounted.delete (counted : TasksCounted k lists) {task : Option TaskId}
    {reply : Reply} (run : tnTaskDelete k task = some (k', reply)) :
    ∃ lists, TasksCounted k' lists := by
  rcases checked_eq run with ⟨rfl, -⟩ | ⟨t, -, -, valid, -, body⟩
  · exact ⟨lists, counted⟩
  split at body
  case isTrue =>
      cases body
      exact ⟨lists, counted⟩
  case isFalse dormant =>
      cases body
      exact ⟨_, counted.unregister (isTask_iff.mp valid)
        (not_not.mp dormant)⟩

theorem tnTaskTerminate_refused {exitAddress : Word} {fuel : Nat}
    {task : Option TaskId} {reply : Reply}
    (refused : ¬ LifeCall.EndsTask k (.terminate task))
    (run : tnTaskTerminate exitAddress fuel k task = some (k', reply)) :
    k' = k := by
  rcases checked_eq run with ⟨rfl, -⟩ | ⟨t, object, -, valid, context, body⟩
  · rfl
  rw [terminateBody] at body
  split at body
  case isTrue =>
      cases body
      rfl
  case isFalse alive =>
      rw [not_or] at alive
      exact absurd ⟨t, object, valid, context, alive⟩ refused

theorem TasksCounted.step (counted : TasksCounted k lists)
    (step : LifeStep image (fun k call => ¬ call.EndsTask k) k k') :
    ∃ lists, TasksCounted k' lists := by
  cases step with
  | call call fuel running notIdle may run =>
      cases call with
      | create task args =>
          obtain ⟨⟨k₁, reply⟩, done, rfl⟩ := Option.map_eq_some_iff.mp run
          exact counted.create done
      | activate task =>
          obtain ⟨⟨k₁, reply⟩, done, rfl⟩ := Option.map_eq_some_iff.mp run
          exact counted.activate done
      | exit attr =>
          have refused := eq_true_of_ne_false may
          simp only [LifeCall.exec, tnTaskExit, refused, if_true] at run
          cases run
          exact ⟨lists, counted⟩
      | terminate task =>
          obtain ⟨⟨k₁, reply⟩, done, rfl⟩ := Option.map_eq_some_iff.mp run
          exact tnTaskTerminate_refused may done ▸ ⟨lists, counted⟩
      | delete task =>
          obtain ⟨⟨k₁, reply⟩, done, rfl⟩ := Option.map_eq_some_iff.mp run
          exact counted.delete done
  | dispatch run =>
      obtain ⟨next, -, result⟩ := Option.bind_eq_some_iff.mp run
      cases result
      exact ⟨lists, counted.consistent.of_objects rfl rfl rfl rfl rfl rfl
        counted.consistent.live fun _ has => has, counted.qty⟩

/-- As long as no task ends, the registry is in order. -/
theorem registry_inOrder
    (run : LifeRun image (fun k call => ¬ call.EndsTask k) k) :
    ∃ lists, Registered k lists := by
  suffices ∃ lists, TasksCounted k lists by
    obtain ⟨lists, counted⟩ := this
    exact ⟨lists, counted.registered⟩
  induction run with
  | start fresh run => exact TasksCounted.start fresh run
  | next before step ih =>
      obtain ⟨lists, counted⟩ := ih
      exact counted.step step

end Steps

/-! ## A task of the timer task -/

/-- The timer task has created task 2. -/
def Kernel.withWorker : Kernel :=
  (tnTaskCreate Image.sample.tnTaskExit .started (some 2) .sample).after

theorem Kernel.withWorker_run {allowed : Kernel → LifeCall → Prop}
    (may : allowed .started (.create (some 2) .sample)) :
    LifeRun .sample allowed .withWorker :=
  .next (.start Kernel.fresh_zeroed tnStartSystem_started)
    (.call (.create (some 2) .sample) 0 rfl (by decide) may rfl)

theorem registry_inOrder_withWorker : ∃ lists, Registered .withWorker lists :=
  registry_inOrder (Kernel.withWorker_run id)

/-- When it terminates the new task, the node of the task is linked to itself. -/
theorem registry_broken : ∃ k, LifeRun .sample (fun _ _ => True) k ∧
    ¬ ∃ lists, Registered k lists := by
  refine ⟨(tnTaskTerminate Image.sample.tnTaskExit 5 .withWorker
    (some 2)).after, .next (Kernel.withWorker_run trivial)
    (.call (.terminate (some 2)) 5 rfl (by decide) trivial rfl), ?_⟩
  rintro ⟨lists, registered⟩
  have member := (registered.created 2).mpr rfl
  exact @Represents.not_alone Unit _ _ _ _ () _ registered.createLinks member
    ⟨rfl, rfl⟩

end UsbBulk
