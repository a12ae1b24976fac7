import UsbBulk.Kernel.Run

/-!
# What the services preserve

Every service that is not about mutexes keeps the kernel consistent.  Whatever
else is to be known about the control blocks along a run is a rule: a property
of single control blocks that survives the few things a service can do to one.
-/

namespace UsbBulk

/-- A property of the control block of every task, closed under what the
services do to control blocks.  `stop` says which tasks may be stopped, `raise`
which may be given another priority, `born` which may be created, and `waits`
which waits may be started. -/
structure Rule where
  holds : TaskId → Tcb → Prop
  stop : TaskId → Prop
  raise : TaskId → Prop
  born : TaskId → Prop
  waits : Option WaitList → Word → Prop
  same : ∀ {t : TaskId} {a b : Tcb}, Tcb.SamePlace a b →
    b.blkTask = a.blkTask → holds t a → holds t b
  awake : ∀ {t : TaskId} {a : Tcb}, a.Valid → a.taskState.isWait = true →
    a.taskWaitReason.isMutex = false → holds t a → holds t a.awake
  asleep : ∀ {t : TaskId} {a : Tcb} {list : Option WaitList}
    {reason : WaitReason} {timeout : Word}, a.taskState = .runnable →
    stop t → waits list timeout → a.pwaitQueue = none → holds t a →
    holds t (a.asleep list reason timeout)
  suspend : ∀ {t : TaskId} {a : Tcb}, a.taskState = .runnable → stop t →
    holds t a → holds t { a with taskState := .suspend }
  ready : ∀ {t : TaskId} {a : Tcb}, a.home = none →
    a.taskState.isWait = false → holds t a →
    holds t { a with taskState := .runnable, pwaitQueue := none }
  freeze : ∀ {t : TaskId} {a : Tcb} {state : TaskState},
    a.taskState.isWait = true → state.isWait = true → holds t a →
    holds t { a with taskState := state }
  priority : ∀ {t : TaskId} {a : Tcb} {p : Nat}, raise t → holds t a →
    holds t { a with priority := p }
  tick : ∀ {t : TaskId} {a : Tcb} {count : Word}, a.Timed → holds t a →
    holds t { a with tickCount := count }
  create : ∀ {t : TaskId} {a b : Tcb}, born t → a.idTask = 0 →
    b.idTask = tnIdTask → b.taskState = .dormant → b.pwaitQueue = none → b.blkTask = none →
    b.priority = b.basePriority → holds t a → holds t b

/-- What is kept along a run. -/
structure Kept (rule : Rule) (detached : Option TaskId) (k : Kernel)
    (lists : Lists) : Prop where
  consistent : Consistent detached k lists
  rule : ∀ t, rule.holds t (k.tcb t)
  curr : (k.tcb k.tnCurrRunTask).idTask = tnIdTask

/-- Every answer of a service leaves a kernel that is in order. -/
def Keeps (rule : Rule) (outcome : Outcome) : Prop :=
  ∀ k reply, outcome = some (k, reply) → ∃ lists, Kept rule none k lists

section Checks

variable {rule : Rule} {detached : Option TaskId} {k k' : Kernel}
variable {lists : Lists} {reply : Reply}

theorem Kept.keeps (kept : Kept rule none k lists) :
    Keeps rule (some (k, reply)) := by
  intro k' reply' equal
  cases equal
  exact ⟨lists, kept⟩

theorem Keeps.fromInterrupt {outcome : Outcome} (keeps : Keeps rule outcome) :
    Keeps rule outcome.fromInterrupt := by
  intro k reply run
  obtain ⟨⟨k₀, reply₀⟩, before, after⟩ := Option.map_eq_some_iff.mp run
  obtain ⟨lists, kept⟩ := keeps k₀ reply₀ before
  refine ⟨lists, ?_⟩
  dsimp only at after
  by_cases switch : reply₀.switch
  · rw [if_pos switch] at after
    cases after
    exact ⟨⟨kept.consistent.scheduled, kept.consistent.timer,
      kept.consistent.create, kept.consistent.tasks, kept.consistent.live,
      kept.consistent.waiters⟩, kept.rule, kept.curr⟩
  · rw [if_neg switch] at after
    cases after
    exact kept

/-- The checks at the entry of a service answer without touching anything. -/
theorem Kept.checked (kept : Kept rule none k lists) {object : Option Nat}
    {badParam valid : Nat → Bool} {wrongContext : Bool}
    {body : Nat → Outcome}
    (keeps : ∀ id, object = some id → badParam id = false → valid id = true →
      wrongContext = false → Keeps rule (body id)) :
    Keeps rule (checked k object badParam valid wrongContext body) := by
  cases object with
  | none => exact kept.keeps
  | some id =>
      simp only [UsbBulk.checked]
      cases bad : badParam id
      · cases there : valid id
        · exact kept.keeps
        · cases context : wrongContext
          · exact keeps id rfl bad there context
          · exact kept.keeps
      · exact kept.keeps

theorem Kept.of_objects (kept : Kept rule detached k lists)
    (taskLinks : k'.taskLinks = k.taskLinks)
    (timerLinks : k'.timerLinks = k.timerLinks)
    (createLinks : k'.createLinks = k.createLinks)
    (tcb : k'.tcb = k.tcb)
    (bmp : k'.tnReadyToRunBmp = k.tnReadyToRunBmp)
    (next : k'.tnNextTaskToRun = k.tnNextTaskToRun)
    (curr : k'.tnCurrRunTask = k.tnCurrRunTask)
    (has : ∀ list, k'.hasList list = k.hasList list) :
    Kept rule detached k' lists where
  consistent := kept.consistent.of_objects taskLinks timerLinks createLinks
    tcb bmp next (fun list there => kept.consistent.live list (has list ▸ there))
    fun list there => (has list).trans there
  rule := tcb ▸ kept.rule
  curr := by
    rw [tcb, curr]
    exact kept.curr

end Checks

/-! ## The primitives -/

namespace Kept

variable {rule : Rule} {detached detached' : Option TaskId} {k : Kernel}
variable {lists lists' : Lists} {t : TaskId}

/-- One control block has been replaced, and the kernel is consistent again. -/
theorem of_update (kept : Kept rule detached k lists) {k' : Kernel}
    (consistent : Consistent detached' k' lists') (new : Tcb)
    (tcb : k'.tcb = Function.update k.tcb t new)
    (curr : k'.tnCurrRunTask = k.tnCurrRunTask)
    (sameId : new.idTask = (k.tcb t).idTask)
    (holds : rule.holds t (k.tcb t) → rule.holds t new) :
    Kept rule detached' k' lists' where
  consistent := consistent
  rule u := by
    rw [tcb]
    by_cases equal : u = t
    · subst equal
      simpa using holds (kept.rule u)
    · simpa [equal] using kept.rule u
  curr := by
    rw [tcb, curr]
    by_cases equal : k.tnCurrRunTask = t
    · rw [equal, Function.update_self, sameId, ← equal]
      exact kept.curr
    · rw [Function.update_of_ne equal]
      exact kept.curr

theorem setTcb (kept : Kept rule detached k lists) {new : Tcb}
    (same : Tcb.SamePlace (k.tcb t) new)
    (sameBlk : new.blkTask = (k.tcb t).blkTask) :
    Kept rule detached (k.setTcb t new) lists :=
  kept.of_update (kept.consistent.setTcb same) new rfl rfl same.idTask
    (rule.same same sameBlk)

theorem keeps_setTcb (kept : Kept rule none k lists) {new : Tcb}
    {reply : Reply} (same : Tcb.SamePlace (k.tcb t) new)
    (sameBlk : new.blkTask = (k.tcb t).blkTask) :
    Keeps rule (some (k.setTcb t new, reply)) :=
  (kept.setTcb same sameBlk).keeps

theorem freeze (kept : Kept rule detached k lists)
    (waiting : (k.tcb t).taskState.isWait = true) {state : TaskState}
    (stays : state.isWait = true) :
    Kept rule detached (k.setTcb t { k.tcb t with taskState := state }) lists := by
  refine kept.of_update (kept.consistent.replace
    { k.tcb t with taskState := state } rfl ?_ ?_ ?_) _ rfl rfl rfl
    (rule.freeze waiting stays)
  · unfold Tcb.home
    revert waiting stays
    cases (k.tcb t).taskState <;> cases state <;> simp [TaskState.isWait]
  · simp [Tcb.Timed, waiting, stays]
  · intro valid
    refine ⟨valid.priority, valid.basePriority, fun _ =>
      valid.waiting waiting, fun awake => ?_⟩
    exact absurd (stays.symm.trans awake) (by decide)

theorem priority (kept : Kept rule detached k lists) (raise : rule.raise t)
    (notReady : (k.tcb t).taskState ≠ .runnable) {p : Nat}
    (small : p < tnNumPriority) :
    Kept rule detached (k.setTcb t { k.tcb t with priority := p }) lists := by
  refine kept.of_update (kept.consistent.replace
    { k.tcb t with priority := p } rfl ?_ Iff.rfl ?_) _ rfl rfl rfl
    (rule.priority raise)
  · unfold Tcb.home
    revert notReady
    cases (k.tcb t).taskState <;> simp
  · intro valid
    exact ⟨small, valid.basePriority, valid.waiting, valid.notWaiting⟩

/-- The remaining time of a waiting task is counted down, but not to a value
that means no timeout. -/
theorem tick (kept : Kept rule detached k lists) (timed : (k.tcb t).Timed)
    {count : Word} (finite : count ≠ tnWaitInfinite) :
    Kept rule detached (k.setTcb t { k.tcb t with tickCount := count }) lists := by
  refine kept.of_update (kept.consistent.replace
    { k.tcb t with tickCount := count } rfl rfl ?_ ?_) _ rfl rfl rfl
    (rule.tick timed)
  · obtain ⟨task, waiting, _⟩ := timed
    simp_all [Tcb.Timed]
  · intro valid
    exact ⟨valid.priority, valid.basePriority, valid.waiting,
      valid.notWaiting⟩

theorem unlinkWaiter (kept : Kept rule none k lists) {list : WaitList}
    (member : t ∈ lists.task (.wait list)) :
    Kept rule (some t) { k with
      taskLinks := queueRemoveEntry k.taskLinks (.entry t) }
      (lists.detach t) :=
  ⟨kept.consistent.unlinkWaiter member, kept.rule, kept.curr⟩

theorem removeWaiter (kept : Kept rule none k lists) {list : WaitList}
    {rest : List TaskId} (waiting : lists.task (.wait list) = t :: rest) :
    removeWaiter k list = some ({ k with
        taskLinks := queueRemoveEntry k.taskLinks (.entry t) }, t) ∧
      Kept rule (some t) { k with
        taskLinks := queueRemoveEntry k.taskLinks (.entry t) }
        (lists.detach t) :=
  ⟨kept.consistent.removeWaiter_eq waiting,
    kept.unlinkWaiter
      (show t ∈ lists.task (.wait list) by simp [waiting])⟩

/-- A task that no list holds may be taken for a detached one. -/
theorem to_detached (kept : Kept rule none k lists)
    (homeless : (k.tcb t).home = none) : Kept rule (some t) k lists where
  consistent :=
    { kept.consistent with
      tasks := kept.consistent.tasks.to_detached homeless }
  rule := kept.rule
  curr := kept.curr

theorem taskWaitComplete (kept : Kept rule (some t) k lists)
    (task : (k.tcb t).idTask = tnIdTask)
    (waiting : (k.tcb t).taskState.isWait = true)
    (noMutex : (k.tcb t).taskWaitReason.isMutex = false) (fuel : Nat) :
    ∃ taskLinks bmp next,
      taskWaitComplete fuel k t = some
        (k.withTasks (Function.update k.tcb t (k.tcb t).awake) taskLinks
          (k.timerWithout t) bmp next, !(k.tcb t).taskState.isSuspend) ∧
      Kept rule none
        (k.withTasks (Function.update k.tcb t (k.tcb t).awake) taskLinks
          (k.timerWithout t) bmp next) (lists.wake t (k.tcb t)) := by
  obtain ⟨taskLinks, bmp, next, run, consistent⟩ :=
    kept.consistent.taskWaitComplete task waiting noMutex fuel
  have valid := kept.consistent.tasks.valid t task
  exact ⟨taskLinks, bmp, next, run,
    kept.of_update consistent (k.tcb t).awake rfl rfl rfl
      (rule.awake valid waiting noMutex)⟩

theorem taskCurrToWaitAction (kept : Kept rule none k lists)
    (running : (k.tcb k.tnCurrRunTask).taskState = .runnable)
    (stop : rule.stop k.tnCurrRunTask) {list : Option WaitList}
    {reason : WaitReason} {timeout : Word} (waits : rule.waits list timeout)
    (fits : reason.fits list = true)
    (has : ∀ waitList, list = some waitList → k.hasList waitList = true) :
    ∃ taskLinks timerLinks bmp next,
      taskCurrToWaitAction k list reason timeout = some
        (k.withTasks (Function.update k.tcb k.tnCurrRunTask
          ((k.tcb k.tnCurrRunTask).asleep list reason timeout)) taskLinks
          timerLinks bmp next) ∧
      Kept rule none
        (k.withTasks (Function.update k.tcb k.tnCurrRunTask
          ((k.tcb k.tnCurrRunTask).asleep list reason timeout)) taskLinks
          timerLinks bmp next)
        ((lists.detach k.tnCurrRunTask).block k.tnCurrRunTask list
          timeout) := by
  obtain ⟨taskLinks, timerLinks, bmp, next, run, consistent⟩ :=
    kept.consistent.taskCurrToWaitAction kept.curr running fits has timeout
  have valid := kept.consistent.tasks.valid _ kept.curr
  refine ⟨taskLinks, timerLinks, bmp, next, run,
    kept.of_update consistent
      ((k.tcb k.tnCurrRunTask).asleep list reason timeout) rfl rfl rfl
      (rule.asleep running stop waits (valid.notWaiting ?_))⟩
  simp [running, TaskState.isWait]

theorem suspend (kept : Kept rule none k lists) (stop : rule.stop t)
    (task : (k.tcb t).idTask = tnIdTask)
    (ready : (k.tcb t).taskState = .runnable) :
    ∃ bmp next,
      taskToNonRunnable
          (k.setTcb t { k.tcb t with taskState := .suspend }) t = some
        ((k.setTcb t { k.tcb t with taskState := .suspend }).setReady
          (queueRemoveEntry k.taskLinks (.entry t)) bmp next) ∧
      Kept rule none
        ((k.setTcb t { k.tcb t with taskState := .suspend }).setReady
          (queueRemoveEntry k.taskLinks (.entry t)) bmp next)
        (lists.detach t) := by
  obtain ⟨bmp, next, run, consistent⟩ := kept.consistent.suspend task ready
  exact ⟨bmp, next, run, kept.of_update consistent
    { k.tcb t with taskState := .suspend } rfl rfl rfl
    (rule.suspend ready stop)⟩

theorem taskToRunnable (kept : Kept rule none k lists)
    (task : (k.tcb t).idTask = tnIdTask)
    (homeless : (k.tcb t).home = none)
    (awake : (k.tcb t).taskState.isWait = false) :
    Kept rule none (taskToRunnable k t)
      (lists.ready t (k.tcb t).priority) := by
  obtain ⟨bmp, next, run, consistent⟩ :=
    kept.consistent.taskToRunnable task homeless awake
  rw [run]
  exact kept.of_update consistent { k.tcb t with
    taskState := .runnable, pwaitQueue := none } rfl rfl rfl
    (rule.ready homeless awake)

theorem changeRunningTaskPriority (kept : Kept rule none k lists)
    (raise : rule.raise t) (task : (k.tcb t).idTask = tnIdTask)
    (ready : (k.tcb t).taskState = .runnable) {p : Nat}
    (small : p < tnNumPriority) :
    ∃ links bmp next changed,
      changeRunningTaskPriority k t p = some
        ((k.setTcb t { k.tcb t with priority := p }).setReady links bmp next,
          changed) ∧
      Kept rule none
        ((k.setTcb t { k.tcb t with priority := p }).setReady links bmp next)
        ((lists.detach t).ready t p) := by
  obtain ⟨links, bmp, next, changed, run, consistent⟩ :=
    kept.consistent.changeRunningTaskPriority task ready small
  exact ⟨links, bmp, next, changed, run, kept.of_update consistent
    { k.tcb t with priority := p } rfl rfl rfl (rule.priority raise)⟩

end Kept

/-! ## Task services -/

section TaskServices

variable {rule : Rule} {k : Kernel} {lists : Lists} {task : Option TaskId}

theorem isTask_iff {t : TaskId} :
    k.isTask t = true ↔ (k.tcb t).idTask = tnIdTask := by
  simp [Kernel.isTask]

theorem Kept.initTask (kept : Kept rule none k lists) {t : TaskId}
    (born : rule.born t) (fresh : (k.tcb t).idTask = 0) (tnTaskExit : Word) (args : TaskParams)
    (small : args.priority < tnNumPriority) :
    Kept rule none (initTask tnTaskExit k t args)
      { lists with create := lists.create ++ [t] } := by
  have notTask : (k.tcb t).idTask ≠ tnIdTask := by
    rw [fresh]
    decide
  have consistent := kept.consistent.initTask notTask tnTaskExit args small
  obtain ⟨new, tcb, created⟩ := initTask_tcb tnTaskExit k t args
  refine ⟨consistent, ?_, ?_⟩
  · intro u
    rw [tcb]
    by_cases equal : u = t
    · subst equal
      simpa using rule.create born fresh created.idTask created.taskState
        created.pwaitQueue created.blkTask
        (created.priority.trans created.basePriority.symm) (kept.rule u)
    · simpa [equal] using kept.rule u
  · have curr : k.tnCurrRunTask ≠ t := fun equal =>
      notTask (equal ▸ kept.curr)
    change ((UsbBulk.initTask tnTaskExit k t args).tcb
      k.tnCurrRunTask).idTask = _
    rw [tcb, Function.update_of_ne curr]
    exact kept.curr

theorem tnTaskCreate_keeps (kept : Kept rule none k lists)
    (born : ∀ t, task = some t → rule.born t) (tnTaskExit : Word) (args : TaskParams) :
    Keeps rule (tnTaskCreate tnTaskExit k task args) := by
  unfold tnTaskCreate
  split
  · exact kept.keeps
  split
  · exact kept.keeps
  next range =>
  cases task with
  | none => exact kept.keeps
  | some t =>
      dsimp only
      split
      · exact kept.keeps
      next fresh =>
      split
      · exact kept.keeps
      simp only [not_or, ne_eq, not_not] at range fresh
      have created := kept.initTask (born t rfl) fresh.2 tnTaskExit args
        (by have small := range.2.1; omega)
      obtain ⟨new, tcb, isNew⟩ := initTask_tcb tnTaskExit k t args
      split
      · refine (created.taskToRunnable ?_ ?_ ?_).keeps <;>
          rw [tcb, Function.update_self]
        · exact isNew.idTask
        · simp [Tcb.home, isNew.taskState]
        · simp [isNew.taskState, TaskState.isWait]
      · exact created.keeps

theorem tnTaskSuspend_keeps (kept : Kept rule none k lists)
    (stop : ∀ t, task = some t → rule.stop t) :
    Keeps rule (tnTaskSuspend k task) := by
  refine kept.checked fun t isObject _ valid _ => ?_
  have isTask := isTask_iff.mp valid
  dsimp only
  split
  · exact kept.keeps
  split
  · exact kept.keeps
  split
  · exact kept.keeps
  split
  · next ready =>
      obtain ⟨bmp, next, run, after⟩ :=
        kept.suspend (stop t isObject) isTask ready
      rw [run]
      exact after.keeps
  · next awake notDormant _ notReady =>
      refine (kept.freeze ?_ ?_).keeps <;>
      · revert awake notDormant notReady
        cases (k.tcb t).taskState <;>
          simp [TaskState.isWait, TaskState.isSuspend, TaskState.addSuspend]

theorem tnTaskResume_keeps (kept : Kept rule none k lists) :
    Keeps rule (tnTaskResume k task) := by
  refine kept.checked fun t _ _ valid _ => ?_
  have isTask := isTask_iff.mp valid
  dsimp only
  split
  · exact kept.keeps
  split
  · next suspended notWaiting =>
      refine (kept.taskToRunnable isTask ?_ ?_).keeps
      · revert suspended notWaiting
        unfold Tcb.home
        cases (k.tcb t).taskState <;>
          simp [TaskState.isWait, TaskState.isSuspend]
      · simpa using notWaiting
  · next suspended waiting =>
      refine (kept.freeze ?_ ?_).keeps <;>
      · revert suspended waiting
        cases (k.tcb t).taskState <;>
          simp [TaskState.isWait, TaskState.isSuspend,
            TaskState.removeSuspend]

theorem tnTaskSleep_keeps (kept : Kept rule none k lists)
    (running : (k.tcb k.tnCurrRunTask).taskState = .runnable)
    (stop : rule.stop k.tnCurrRunTask) {timeout : Word}
    (waits : rule.waits none timeout) :
    Keeps rule (tnTaskSleep k timeout) := by
  unfold tnTaskSleep
  split
  · exact kept.keeps
  split
  · exact kept.keeps
  dsimp only
  split
  · exact kept.keeps_setTcb ⟨rfl, rfl, rfl, rfl, rfl, rfl, rfl⟩ rfl
  · obtain ⟨_, _, _, _, run, after⟩ := kept.taskCurrToWaitAction running
      stop waits (show WaitReason.fits .sleep none = true from rfl) (by simp)
    rw [run]
    exact after.keeps

theorem wakeupBody_keeps (kept : Kept rule none k lists) {t : TaskId}
    (isTask : (k.tcb t).idTask = tnIdTask) (fuel : Nat) :
    Keeps rule (wakeupBody fuel k t) := by
  unfold wakeupBody
  dsimp only
  split
  · exact kept.keeps
  split
  · next asleep =>
      simp only [Bool.and_eq_true, decide_eq_true_eq] at asleep
      obtain ⟨waiting, reason⟩ := asleep
      have fits := (kept.consistent.tasks.valid t isTask).waiting waiting
      have homeless : (k.tcb t).home = none := by
        rw [reason] at fits
        cases pwait : (k.tcb t).pwaitQueue with
        | none =>
            unfold Tcb.home
            revert waiting
            cases (k.tcb t).taskState <;> simp [TaskState.isWait, pwait]
        | some list => simp [pwait, WaitReason.fits] at fits
      obtain ⟨_, _, _, run, after⟩ :=
        (kept.to_detached homeless).taskWaitComplete isTask waiting
          (by simp [reason, WaitReason.isMutex]) fuel
      rw [run]
      exact after.keeps
  split
  · exact kept.keeps_setTcb ⟨rfl, rfl, rfl, rfl, rfl, rfl, rfl⟩ rfl
  · exact kept.keeps

theorem tnTaskWakeup_keeps (kept : Kept rule none k lists) (fuel : Nat) :
    Keeps rule (tnTaskWakeup fuel k task) :=
  kept.checked fun _ _ _ valid _ =>
    wakeupBody_keeps kept (isTask_iff.mp valid) fuel

theorem tnTaskIwakeup_keeps (kept : Kept rule none k lists) (fuel : Nat) :
    Keeps rule (tnTaskIwakeup fuel k task) :=
  kept.checked fun _ _ _ valid _ =>
    (wakeupBody_keeps kept (isTask_iff.mp valid) fuel).fromInterrupt

theorem activateBody_keeps (kept : Kept rule none k lists) {t : TaskId}
    (isTask : (k.tcb t).idTask = tnIdTask) :
    Keeps rule (activateBody k t) := by
  unfold activateBody
  dsimp only
  split
  · next dormant =>
      exact (kept.taskToRunnable isTask (by simp [Tcb.home, dormant])
        (by simp [dormant, TaskState.isWait])).keeps
  split
  · exact kept.keeps_setTcb ⟨rfl, rfl, rfl, rfl, rfl, rfl, rfl⟩ rfl
  · exact kept.keeps

theorem tnTaskActivate_keeps (kept : Kept rule none k lists) :
    Keeps rule (tnTaskActivate k task) :=
  kept.checked fun _ _ _ valid _ =>
    activateBody_keeps kept (isTask_iff.mp valid)

theorem tnTaskIactivate_keeps (kept : Kept rule none k lists) :
    Keeps rule (tnTaskIactivate k task) :=
  kept.checked fun _ _ _ valid _ =>
    (activateBody_keeps kept (isTask_iff.mp valid)).fromInterrupt

theorem tnTaskChangePriority_keeps (kept : Kept rule none k lists)
    (raise : ∀ t, task = some t → rule.raise t) (newPriority : Int) :
    Keeps rule (tnTaskChangePriority k task newPriority) := by
  unfold tnTaskChangePriority
  cases task with
  | none => exact kept.keeps
  | some t =>
      dsimp only
      split
      · exact kept.keeps
      split
      · exact kept.keeps
      split
      · exact kept.keeps
      next isTask range _ =>
      have isTask := not_not.mp isTask
      have small : (if newPriority = 0 then (k.tcb t).basePriority
          else newPriority.toNat) < tnNumPriority := by
        have base := (kept.consistent.tasks.valid t isTask).basePriority
        split
        · exact base
        · simp only [tnNumPriority] at range ⊢
          omega
      split
      · exact kept.keeps
      split
      · next ready =>
          obtain ⟨_, _, _, changed, run, after⟩ :=
            kept.changeRunningTaskPriority (raise t rfl) isTask ready small
          rw [run]
          exact after.keeps
      · next notReady =>
          exact (kept.priority (raise t rfl) notReady small).keeps

end TaskServices

end UsbBulk
