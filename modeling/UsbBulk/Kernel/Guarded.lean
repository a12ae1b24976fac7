import UsbBulk.Kernel.Ownership

/-!
# The kernel between the services of mutexes

The invariant of runs that use mutexes, and what it takes from the services that
are not about mutexes: whatever they do to a task, they leave a wait for a mutex
alone and start none.
-/

namespace UsbBulk

/-- What a call that is not about mutexes leaves of the control block of a task,
relative to the kernel before it. -/
structure Framed (k : Kernel) (call : Call) (t : TaskId) (tcb : Tcb) :
    Prop where
  mutexWait : tcb.mutexWait = (k.tcb t).mutexWait
  idTask : k.isTask t = true → tcb.idTask = tnIdTask
  blkTask : k.isTask t = true → tcb.blkTask = (k.tcb t).blkTask
  basePriority : k.isTask t = true →
    tcb.basePriority = (k.tcb t).basePriority
  priority : k.isTask t = true → call.raises ≠ some t →
    tcb.priority = (k.tcb t).priority
  created : k.isTask t = false → tcb.idTask = tnIdTask →
    call.creates = some t ∧ tcb.blkTask = none ∧
      (call.raises ≠ some t → tcb.priority = tcb.basePriority)

section Frames

variable {k k' : Kernel} {call : Call} {t : TaskId} {a b tcb : Tcb}
variable {lists : Lists}

theorem Framed.refl (k : Kernel) (call : Call) (t : TaskId) :
    Framed k call t (k.tcb t) :=
  ⟨rfl, isTask_iff.mp, fun _ => rfl, fun _ => rfl, fun _ _ => rfl,
    fun stranger task => absurd (isTask_iff.mpr task) (by simp [stranger])⟩

/-- Only the state of the task and its list have changed. -/
theorem Framed.change (framed : Framed k call t a)
    (mutexWait : b.mutexWait = a.mutexWait) (idTask : b.idTask = a.idTask)
    (blkTask : b.blkTask = a.blkTask)
    (basePriority : b.basePriority = a.basePriority)
    (priority : call.raises = some t ∨ b.priority = a.priority) :
    Framed k call t b where
  mutexWait := mutexWait.trans framed.mutexWait
  idTask isTask := idTask.trans (framed.idTask isTask)
  blkTask isTask := blkTask.trans (framed.blkTask isTask)
  basePriority isTask := basePriority.trans (framed.basePriority isTask)
  priority isTask calm :=
    (priority.resolve_left calm).trans (framed.priority isTask calm)
  created stranger task := by
    obtain ⟨born, noBlk, atBase⟩ := framed.created stranger (idTask ▸ task)
    refine ⟨born, blkTask.trans noBlk, fun calm => ?_⟩
    rw [priority.resolve_left calm, basePriority]
    exact atBase calm

/-- Along one call, relative to the kernel before it. -/
def Kernel.frameRule (k : Kernel) (call : Call) : Rule where
  holds := Framed k call
  stop _ := True
  raise t := call.raises = some t
  born t := call.creates = some t
  waits list _ := ∀ waitList, list = some waitList → waitList.ofMutex = false
  same := by
    intro t a b same blkTask framed
    exact framed.change same.mutexWait same.idTask blkTask same.basePriority
      (.inr same.priority)
  awake := by
    intro t a valid waiting noMutex framed
    refine framed.change ?_ rfl rfl rfl (.inr rfl)
    rw [Tcb.mutexWait_of_awake Tcb.awake_not_isWait,
      valid.mutexWait waiting noMutex]
  asleep := by
    intro t a list reason timeout running _ waits queue framed
    have awake : a.taskState.isWait = false := by
      simp [running, TaskState.isWait]
    refine framed.change ?_ rfl rfl rfl (.inr rfl)
    rw [Tcb.mutexWait_of_awake awake]
    refine Tcb.mutexWait_of_queue ?_
    cases list with
    | none => simp [Tcb.asleep, queue, getMutexByWaitQueque]
    | some list =>
        have plain := waits list rfl
        cases list <;>
          simp_all [Tcb.asleep, WaitList.ofMutex, getMutexByWaitQueque]
  suspend := by
    intro t a running _ framed
    have awake : a.taskState.isWait = false := by
      simp [running, TaskState.isWait]
    refine framed.change ?_ rfl rfl rfl (.inr rfl)
    rw [Tcb.mutexWait_of_awake awake]
    exact Tcb.mutexWait_of_awake rfl
  ready := by
    intro t a _ awake framed
    refine framed.change ?_ rfl rfl rfl (.inr rfl)
    rw [Tcb.mutexWait_of_awake awake]
    exact Tcb.mutexWait_of_awake rfl
  freeze := by
    intro t a state waiting stays framed
    exact framed.change
      (Tcb.mutexWait_congr rfl (stays.trans waiting.symm) rfl rfl) rfl rfl rfl
      (.inr rfl)
  priority := by
    intro t a p raised framed
    exact framed.change rfl rfl rfl rfl (.inl raised)
  tick := by
    intro t a count _ framed
    exact framed.change rfl rfl rfl rfl (.inr rfl)
  create := by
    intro t a b born fresh task dormant _ noBlk atBase framed
    have stranger : a.idTask ≠ tnIdTask := by
      rw [fresh]
      decide
    have notTask : k.isTask t ≠ true := fun isTask =>
      stranger (framed.idTask isTask)
    refine ⟨?_, fun isTask => absurd isTask notTask,
      fun isTask => absurd isTask notTask, fun isTask => absurd isTask notTask,
      fun isTask => absurd isTask notTask,
      fun _ _ => ⟨born, noBlk, fun _ => atBase⟩⟩
    rw [← framed.mutexWait, Tcb.mutexWait_of_stranger stranger]
    exact Tcb.mutexWait_of_awake (by simp [dormant, TaskState.isWait])

/-- What one call that is not about mutexes does to the control blocks. -/
theorem Call.exec_framed {rule : Rule} (kept : Kept rule none k lists)
    (plain : call.plain = true)
    (running : call.fromInterrupt = false →
      (k.tcb k.tnCurrRunTask).taskState = .runnable)
    (due : call = .tickIntProcessing →
      ∀ t, (k.tcb t).Due → (k.tcb t).pwaitQueue = none)
    (tnTaskExit : Word) (fuel : Nat) :
    Ends (call.exec tnTaskExit fuel k) fun (k', _) =>
      ∀ t, Framed k call t (k'.tcb t) := by
  have framed : Kept (k.frameRule call) none k lists :=
    ⟨kept.consistent, Framed.refl k call, kept.curr⟩
  rintro ⟨k', reply⟩ run
  obtain ⟨_, after⟩ := Call.exec_keeps framed plain
    (fun task => ⟨running task, trivial⟩) (fun _ _ => trivial)
    (fun _ raises => raises) (fun _ creates => creates)
    (fun _ _ equal => by cases equal)
    (fun timeout _ list plain other equal => by
      cases equal
      exact plain) due tnTaskExit fuel _ _ run
  exact after.rule

end Frames

/-! ## The invariant -/

/-- The invariant of runs that use mutexes. -/
structure Guarded (rule : Rule) (dropped : Set MutexId) (k : Kernel)
    (lists : Lists) (locks : Locks) : Prop where
  kept : Kept rule none k lists
  owns : Owns dropped k locks
  blocks : Blocks k locks

theorem Image.untimedRule_indifferent (image : Image) :
    image.untimedRule.Indifferent where
  raise _ := trivial
  awake := by
    intro t a _ waiting holds
    refine ⟨fun idle => ?_, fun timed => absurd timed Tcb.awake_not_timed⟩
    rw [(holds.1 idle).2] at waiting
    cases waiting
  block := fun holds => holds

section Guarded

variable {image : Image} {rule : Rule} {dropped : Set MutexId}
variable {k k' : Kernel} {lists lists' : Lists} {locks : Locks} {t : TaskId}

theorem Guarded.known (guarded : Guarded rule dropped k lists locks) :
    k.Known :=
  ⟨fun m t => guarded.owns.holder m t, guarded.blocks.blkTask⟩

theorem Guarded.adjust (guarded : Guarded rule dropped k lists locks)
    (adjusted : Adjusted rule k k' lists lists') :
    Guarded rule dropped k' lists' locks := by
  have tcb := adjusted.tcb
  have tasks : ∀ t, k'.isTask t = k.isTask t := by
    intro t
    obtain ⟨p, equal⟩ := tcb t
    rw [Kernel.isTask, Kernel.isTask, equal]
  have mutex : k'.mutex = k.mutex := congrArg Footing.mutex adjusted.footing
  refine ⟨adjusted.kept,
    guarded.owns.frame mutex (congrArg Footing.mutexLinks adjusted.footing)
      (congrArg Footing.lockLinks adjusted.footing) tasks,
    guarded.blocks.frame (fun _ _ _ _ => by rw [mutex])
      (congrArg Footing.blockLinks adjusted.footing) (fun t => ?_)
      fun t u isTask => ?_⟩
  · obtain ⟨p, equal⟩ := tcb t
    rw [equal]
    rfl
  · obtain ⟨p, equal⟩ := tcb t
    rw [tasks] at isTask ⊢
    rw [equal]
    exact guarded.blocks.blkTask t u isTask

theorem Guarded.enterIrq (guarded : Guarded rule dropped k lists locks) :
    Guarded rule dropped k.enterIrq lists locks :=
  ⟨guarded.kept.enterIrq, guarded.owns.frame rfl rfl rfl fun _ => rfl,
    guarded.blocks.frame (fun _ _ _ _ => rfl) rfl (fun _ => rfl)
      guarded.blocks.blkTask⟩

theorem Guarded.leaveIrq (guarded : Guarded rule dropped k lists locks) :
    Guarded rule dropped k.leaveIrq lists locks :=
  ⟨guarded.kept.leaveIrq, guarded.owns.frame rfl rfl rfl fun _ => rfl,
    guarded.blocks.frame (fun _ _ _ _ => rfl) rfl (fun _ => rfl)
      guarded.blocks.blkTask⟩

theorem Guarded.dispatch (guarded : Guarded rule dropped k lists locks)
    (run : tnSwitchContext k = some k') :
    Guarded rule dropped k' lists locks := by
  have kept := guarded.kept.dispatch run
  obtain ⟨next, _, result⟩ := Option.bind_eq_some_iff.mp run
  cases result
  exact ⟨kept, guarded.owns.frame rfl rfl rfl fun _ => rfl,
    guarded.blocks.frame (fun _ _ _ _ => rfl) rfl (fun _ => rfl)
      guarded.blocks.blkTask⟩

/-! ## Calls that are not about mutexes -/

theorem taskToRunnable_tcb (k : Kernel) (t : TaskId) :
    (taskToRunnable k t).tcb = Function.update k.tcb t
      { k.tcb t with taskState := .runnable, pwaitQueue := none } := by
  unfold taskToRunnable
  dsimp only
  split
  · rfl
  split <;> rfl

/-- What `tn_task_create` does to the lists of mutexes and of blocked tasks. -/
theorem tnTaskCreate_links (tnTaskExit : Word) (task : Option TaskId)
    (args : TaskParams) :
    Ends (tnTaskCreate tnTaskExit k task args) fun (k', _) =>
      k'.mutex = k.mutex ∧ k'.lockLinks = k.lockLinks ∧
        (k' = k ∨ ∃ t new, k.isTask t = false ∧
          k'.tcb = Function.update k.tcb t new ∧ new.idTask = tnIdTask ∧
          new.mutexWait = none ∧ new.blkTask = none ∧
          k'.mutexLinks = queueReset k.mutexLinks (.head t) ∧
          k'.blockLinks = queueReset k.blockLinks (.entry t)) := by
  refine ends_ite (fun _ => ends_some ⟨rfl, rfl, .inl rfl⟩) fun _ => ?_
  refine ends_ite (fun _ => ends_some ⟨rfl, rfl, .inl rfl⟩) fun _ => ?_
  cases task with
  | none => exact ends_some ⟨rfl, rfl, .inl rfl⟩
  | some t =>
      refine ends_ite (fun _ => ends_some ⟨rfl, rfl, .inl rfl⟩) fun fresh => ?_
      refine ends_ite (fun _ => ends_some ⟨rfl, rfl, .inl rfl⟩) fun _ => ?_
      have stranger : k.isTask t = false := by
        simp only [ne_eq, not_or, not_not] at fresh
        rw [Kernel.isTask, fresh.2]
        decide
      obtain ⟨new, tcb, created⟩ := initTask_tcb tnTaskExit k t args
      have footing : (taskToRunnable (initTask tnTaskExit k t args) t).footing =
          (initTask tnTaskExit k t args).footing := taskToRunnable_apart footing_apart rfl
      refine ends_some ?_
      by_cases start : args.option &&& tnTaskStartOnCreation ≠ 0
      · rw [if_pos start]
        refine ⟨congrArg Footing.mutex footing,
          congrArg Footing.lockLinks footing, .inr ⟨t, { new with
            taskState := .runnable, pwaitQueue := none }, stranger, ?_,
            created.idTask, Tcb.mutexWait_of_awake rfl, created.blkTask,
            congrArg Footing.mutexLinks footing,
            congrArg Footing.blockLinks footing⟩⟩
        rw [taskToRunnable_tcb, tcb]
        simp
      · rw [if_neg start]
        exact ⟨rfl, rfl, .inr ⟨t, new, stranger, tcb, created.idTask,
          Tcb.mutexWait_of_awake (by simp [created.taskState,
            TaskState.isWait]), created.blkTask, rfl, rfl⟩⟩

theorem Owns.createTask (owns : Owns dropped k locks) {new : Tcb}
    (stranger : k.isTask t = false) (mutex : k'.mutex = k.mutex)
    (lockLinks : k'.lockLinks = k.lockLinks)
    (mutexLinks : k'.mutexLinks = queueReset k.mutexLinks (.head t))
    (tcb : k'.tcb = Function.update k.tcb t new)
    (task : new.idTask = tnIdTask) : Owns dropped k' locks := by
  have isMutex := Kernel.isMutex_congr mutex
  have empty : locks.owned t = [] :=
    owns.mutexLinks.dead t (by simp [stranger])
  have tasks : ∀ u, k'.isTask u = true ↔ u = t ∨ k.isTask u = true := by
    intro u
    rw [isTask_iff, isTask_iff, tcb]
    by_cases same : u = t
    · subst same
      simp [task]
    · simp [same]
  constructor
  · rw [mutexLinks, show (fun u => k'.isTask u = true) =
      fun u => u = t ∨ k.isTask u = true from
        funext fun u => propext (tasks u)]
    exact owns.mutexLinks.resetHead t empty
  · rw [lockLinks]
    exact owns.lockLinks
  · intro u m
    rw [isMutex, mutex]
    exact owns.owned u m
  · intro m
    rw [isMutex, mutex]
    exact owns.locked m
  · intro m
    rw [isMutex, mutex]
    exact owns.kind m
  · intro m
    rw [isMutex, mutex, lockLinks]
    exact owns.alone m
  · intro m u
    rw [isMutex, mutex, tasks]
    exact fun known held => .inr (owns.holder m u known held)
  · intro m
    rw [isMutex, mutex]
    exact owns.dropped m

/-- A task that is created is neither blocked nor does it wait. -/
theorem Blocks.createTask (blocks : Blocks k locks) {new : Tcb}
    (stranger : k.isTask t = false) (mutex : k'.mutex = k.mutex)
    (blockLinks : k'.blockLinks = queueReset k.blockLinks (.entry t))
    (tcb : k'.tcb = Function.update k.tcb t new)
    (awake : new.mutexWait = none) (blkTask : new.blkTask = none) :
    Blocks k' locks := by
  have before : (k.tcb t).mutexWait = none :=
    Tcb.mutexWait_of_stranger fun task =>
      absurd (isTask_iff.mpr task) (by simp [stranger])
  have absent : t ∉ locks.blocked := blocks.not_mem (by simp [before])
  change Blocks k' { locks with blocked := locks.blocked }
  refine blocks.replace mutex tcb
    (fun isTask => absurd isTask (by simp [stranger])) ?_ ?_
    (fun _ _ => Iff.rfl) ?_ ?_
  · rw [blockLinks]
    exact blocks.blockLinks.resetEntry fun _ => absent
  · simp [absent, awake]
  · simp [awake]
  · simp [blkTask]

/-- One call that is not about mutexes keeps the invariant if it keeps its first
part. -/
theorem Guarded.plain (guarded : Guarded rule dropped k lists locks)
    {call : Call} (plain : call.plain = true)
    (running : call.fromInterrupt = false →
      (k.tcb k.tnCurrRunTask).taskState = .runnable)
    (due : call = .tickIntProcessing →
      ∀ t, (k.tcb t).Due → (k.tcb t).pwaitQueue = none)
    {tnTaskExit : Word} {fuel : Nat}
    (keeps : Keeps rule (call.exec tnTaskExit fuel k)) :
    Ends (call.exec tnTaskExit fuel k) fun (k', _) =>
      (∃ lists', Guarded rule dropped k' lists' locks) ∧ k'.mutex = k.mutex ∧
        ∀ t, Framed k call t (k'.tcb t) := by
  rintro ⟨k', reply⟩ run
  obtain ⟨lists', kept⟩ := keeps _ _ run
  have framed := Call.exec_framed guarded.kept plain running due tnTaskExit
    fuel _ run
  by_cases lockFree : call.lockFree = true
  · have footing := Call.exec_footing fuel rfl lockFree tnTaskExit _ run
    have mutex : k'.mutex = k.mutex := congrArg Footing.mutex footing
    have noBirth : call.creates = none := by
      cases call <;> first | rfl | cases lockFree
    have tasks : ∀ t, k'.isTask t = k.isTask t := by
      intro t
      cases isTask : k.isTask t with
      | true => exact isTask_iff.mpr ((framed t).idTask isTask)
      | false =>
          by_contra created
          have born := ((framed t).created isTask
            (isTask_iff.mp (by simpa using created))).1
          rw [noBirth] at born
          cases born
    refine ⟨⟨lists', kept, guarded.owns.frame mutex
      (congrArg Footing.mutexLinks footing)
      (congrArg Footing.lockLinks footing) tasks,
      guarded.blocks.frame (fun _ _ _ _ => by rw [mutex])
        (congrArg Footing.blockLinks footing)
        (fun t => (framed t).mutexWait) fun t u isTask stored => ?_⟩,
      mutex, framed⟩
    rw [tasks] at isTask ⊢
    rw [(framed t).blkTask isTask] at stored
    exact guarded.blocks.blkTask t u isTask stored
  · cases call with
    | taskCreate task args =>
        obtain ⟨mutex, lockLinks, same | ⟨t, new, stranger, tcb, isTask, awake,
          noBlk, mutexLinks, blockLinks⟩⟩ := tnTaskCreate_links _ task args _ run
        · cases same
          exact ⟨⟨lists', kept, guarded.owns, guarded.blocks⟩, rfl, framed⟩
        · exact ⟨⟨lists', kept, guarded.owns.createTask stranger mutex
            lockLinks mutexLinks tcb isTask, guarded.blocks.createTask stranger
            mutex blockLinks tcb awake noBlk⟩, mutex, framed⟩
    | mutexCreate mutex attr ceilPriority => cases plain
    | mutexLock mutex timeout => cases plain
    | mutexLockPolling mutex => cases plain
    | mutexUnlock mutex => cases plain
    | _ => exact absurd rfl lockFree

theorem Guarded.untimed (guarded : Guarded image.untimedRule dropped k lists locks)
    {call : Call} (may : image.Untimed k call)
    (running : call.fromInterrupt = false →
      (k.tcb k.tnCurrRunTask).taskState = .runnable ∧
        k.tnCurrRunTask ≠ image.idleTask) (fuel : Nat) :
    Ends (call.exec image.tnTaskExit fuel k) fun (k', _) =>
      (∃ lists', Guarded image.untimedRule dropped k' lists' locks) ∧
        k'.mutex = k.mutex ∧ ∀ t, Framed k call t (k'.tcb t) :=
  guarded.plain may.1 (fun task => (running task).1)
    (fun _ t due => (guarded.kept.rule t).2 due.1)
    (guarded.kept.untimedCall may running fuel)

/-! ## The start of the system -/

/-- Before any mutex is created. -/
def Locks.none : Locks := ⟨fun _ => [], [], []⟩

/-- No mutex exists, and no task is blocked. -/
private structure Unlocked (k : Kernel) : Prop where
  owns : Owns ∅ k .none
  blockLinks : Represents k.blockLinks (fun _ => True)
    fun _ => ([] : List TaskId)
  noMutex : ∀ m, k.isMutex m = false

private theorem Unlocked.of_reset (fresh : k.Fresh) :
    Unlocked (resetKernel k) := by
  have tcb := (resetKernel_consistent fresh).2
  have noTask : ∀ t, (resetKernel k).isTask t ≠ true := by
    intro t task
    rw [isTask_iff, tcb, fresh.task] at task
    exact absurd task (by decide)
  have mutex : (resetKernel k).mutex = k.mutex := by
    have run := (resetReadyLists_spec tnNumPriority k)
    obtain ⟨links, ticks, run, _⟩ := run
    unfold resetKernel
    rw [run]
  have noMutex : ∀ m, (resetKernel k).isMutex m = false := by
    intro m
    rw [Kernel.isMutex, mutex, fresh.mutex]
    decide
  refine ⟨⟨?_, represents_reset_single _, ?_, ?_, ?_, ?_, ?_, ?_⟩,
    represents_reset_single _, noMutex⟩
  · rw [show (fun t => (resetKernel k).isTask t = true) = fun _ => False from
      funext fun t => eq_false (noTask t)]
    exact .initial _
  all_goals simp [Locks.none, noMutex]

private theorem Unlocked.create (unlocked : Unlocked k) (tnTaskExit : Word)
    (task : Option TaskId) (args : TaskParams) :
    Ends (tnTaskCreate tnTaskExit k task args) (Unlocked ·.1) := by
  intro after run
  obtain ⟨mutex, lockLinks, same | ⟨t, new, stranger, tcb, isTask, _, _,
    mutexLinks, blockLinks⟩⟩ := tnTaskCreate_links _ task args after run
  · exact same ▸ unlocked
  · refine ⟨unlocked.owns.createTask stranger mutex lockLinks mutexLinks tcb
      isTask, ?_, fun m => ?_⟩
    · rw [blockLinks]
      exact unlocked.blockLinks.resetEntry fun _ => List.not_mem_nil
    · rw [Kernel.isMutex_congr mutex]
      exact unlocked.noMutex m

private theorem Unlocked.start (unlocked : Unlocked k) (t : TaskId) :
    Unlocked (taskToRunnable k t) := by
  have footing : (taskToRunnable k t).footing = k.footing :=
    taskToRunnable_apart footing_apart rfl
  have mutex : (taskToRunnable k t).mutex = k.mutex :=
    congrArg Footing.mutex footing
  refine ⟨unlocked.owns.frame mutex (congrArg Footing.mutexLinks footing)
    (congrArg Footing.lockLinks footing) fun u => ?_, ?_, fun m => ?_⟩
  · rw [Kernel.isTask, Kernel.isTask, taskToRunnable_tcb]
    by_cases same : u = t
    · subst same
      simp
    · simp [same]
  · rw [show (taskToRunnable k t).blockLinks = k.blockLinks from
      congrArg Footing.blockLinks footing]
    exact unlocked.blockLinks
  · rw [Kernel.isMutex_congr mutex]
    exact unlocked.noMutex m

/-- After the start no mutex exists, and every task has its base priority. -/
theorem Guarded.of_start (fresh : k.Fresh)
    (run : tnStartSystem image k = some k') :
    (∃ lists, Guarded image.untimedRule ∅ k' lists .none) ∧
      (∀ m, k'.isMutex m = false) ∧
      (∀ t, k'.isTask t = true →
        (k'.tcb t).mutexWait = none ∧
          (k'.tcb t).priority = (k'.tcb t).basePriority) := by
  obtain ⟨lists, kept⟩ := Kept.of_start fresh run
  obtain ⟨k₀, run₀, _, _, timer, idle, others⟩ :=
    tnStartSystem_spec image fresh
  obtain rfl : k₀ = k' := Option.some.inj (run₀.symm.trans run)
  have tasks : ∀ t, k₀.isTask t = true → (k₀.tcb t).Started := by
    intro t isTask
    by_cases isTimer : t = image.timerTask
    · exact isTimer ▸ timer
    · by_cases isIdle : t = image.idleTask
      · exact isIdle ▸ idle
      · rw [isTask_iff, others t isTimer isIdle] at isTask
        exact absurd isTask (by decide)
  have awake : ∀ t, (k₀.tcb t).mutexWait = none := by
    intro t
    by_cases isTask : k₀.isTask t = true
    · exact Tcb.mutexWait_of_awake (by
        simp [(tasks t isTask).taskState, TaskState.isWait])
    · exact Tcb.mutexWait_of_stranger fun task =>
        isTask (isTask_iff.mpr task)
  -- The creations and the two starts come after the reset.
  have unlocked : Unlocked k₀ := by
    obtain ⟨⟨k₁, _⟩, create₁, run⟩ := Option.bind_eq_some_iff.mp run
    obtain ⟨⟨k₂, _⟩, create₂, run⟩ := Option.bind_eq_some_iff.mp run
    obtain ⟨k₃, switch, run⟩ := Option.bind_eq_some_iff.mp run
    obtain ⟨next, _, result⟩ := Option.bind_eq_some_iff.mp switch
    cases result
    cases run
    have first := (Unlocked.of_reset fresh).create _ _ _ _ create₁
    have second := first.create _ _ _ _ create₂
    have last := (second.start image.idleTask).start image.timerTask
    exact ⟨last.owns.frame rfl rfl rfl fun _ => rfl, last.blockLinks,
      last.noMutex⟩
  refine ⟨⟨lists, kept, unlocked.owns, unlocked.blockLinks, fun t => ?_,
    fun t m => ?_, fun t u isTask => ?_⟩, unlocked.noMutex,
    fun t isTask => ⟨awake t, (tasks t isTask).priority⟩⟩
  · simp [awake, Locks.none]
  · simp [awake]
  · simp [(tasks t isTask).blkTask]

end Guarded

end UsbBulk
