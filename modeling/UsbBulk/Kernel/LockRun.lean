import UsbBulk.Kernel.CeilingSteps

/-!
# Runs with mutexes of both kinds

Which task holds which mutex in the states that a run reaches, as long as no wait
for an object ends early and no task unlocks a mutex twice.
-/

namespace UsbBulk

/-- A mutex is in the list of the mutexes that a task holds. -/
def Kernel.ListedBy (k : Kernel) (m : MutexId) (t : TaskId) : Prop :=
  ∃ owned : List MutexId,
    k.mutexLinks.Ring (.head t) (owned.map .entry) ∧ m ∈ owned

/-- The calls of a run in which no wait for an object ends before it is served,
and in which the running task unlocks only mutexes that are in its list. -/
def Kernel.Patient (k : Kernel) : Call → Prop
  | .taskReleaseWait task | .taskIreleaseWait task => ∀ t, task = some t →
      (k.tcb t).taskState.isWait = true → (k.tcb t).pwaitQueue = none
  | .tickIntProcessing => ∀ t, (k.tcb t).Due → (k.tcb t).pwaitQueue = none
  | .mutexUnlock mutex => ∀ m, mutex = some m → k.isMutex m = true →
      (k.mutex m).holder = some k.tnCurrRunTask →
        k.ListedBy m k.tnCurrRunTask
  | _ => True

/-- What one call does to the mutexes and to the tasks that wait for them. -/
inductive LockEffect (call : Call) (dropped : Set MutexId) (k k' : Kernel)
    (lists : Lists) (locks : Locks) : Set MutexId → Locks → Prop where
  | other (mutex : k'.mutex = k.mutex)
      (waits : ∀ t, (k'.tcb t).mutexWait = (k.tcb t).mutexWait) :
      LockEffect call dropped k k' lists locks dropped locks
  | created (m : MutexId) (new : Mutex) (task : call.fromInterrupt = false)
      (absent : k.isMutex m = false)
      (mutex : k'.mutex = Function.update k.mutex m new)
      (free : new.holder = none) (tcb : k'.tcb = k.tcb) :
      LockEffect call dropped k k' lists locks dropped locks
  | asked (m : MutexId) {locks' : Locks} (task : call.fromInterrupt = false)
      (asked : Asked m k k' locks locks') :
      LockEffect call dropped k k' lists locks dropped locks'
  | unlocked (m : MutexId) {dropped' : Set MutexId} {locks' : Locks}
      (isUnlock : call = .mutexUnlock (some m)) (isMutex : k.isMutex m = true)
      (held : (k.mutex m).holder = some k.tnCurrRunTask)
      (unlocks : Unlocks .any m dropped k k' lists locks dropped' locks') :
      LockEffect call dropped k k' lists locks dropped' locks'

section Calls

variable {rule : Rule} {dropped : Set MutexId} {k k' : Kernel} {call : Call}
variable {lists : Lists} {locks : Locks} {m : MutexId} {t : TaskId}

theorem Kernel.Patient.enterIrq (may : k.Patient call) :
    k.enterIrq.Patient call := by
  cases call <;> exact may

/-- The list of a task is what it is taken for. -/
theorem Owns.listedBy_iff (owns : Owns dropped k locks)
    (isTask : k.isTask t = true) : k.ListedBy m t ↔ m ∈ locks.owned t := by
  simp only [Kernel.ListedBy, owns.mutexLinks.ring_iff isTask]
  simp

/-- A task that sleeps, and waits for no object, is released. -/
theorem Guarded.releaseSleeper (guarded : Guarded rule dropped k lists locks)
    (isTask : k.isTask t = true)
    (sleeps : (k.tcb t).taskState.isWait = true →
      (k.tcb t).pwaitQueue = none) (fuel : Nat) :
    Ends (releaseWaitBody fuel k t) fun (k', _) =>
      (∃ lists', Guarded rule dropped k' lists' locks ∧
        ∀ list, lists'.task (.wait list) = lists.task (.wait list)) ∧
        k'.mutex = k.mutex ∧
          ∀ u, (k'.tcb u).mutexWait = (k.tcb u).mutexWait := by
  refine ends_ite
    (fun _ => ends_some ⟨⟨lists, guarded, fun _ => rfl⟩, rfl, fun _ => rfl⟩)
    fun notAwake => ?_
  have waiting : (k.tcb t).taskState.isWait = true := by simpa using notAwake
  have queue := sleeps waiting
  have task := isTask_iff.mp isTask
  have fits := (guarded.kept.consistent.tasks.valid t task).waiting waiting
  have noMutex : (k.tcb t).taskWaitReason.isMutex = false := by
    rw [queue] at fits
    revert fits
    cases (k.tcb t).taskWaitReason <;> simp [WaitReason.fits, WaitReason.isMutex]
  have homeless : (k.tcb t).home = none := by
    unfold Tcb.home
    revert waiting
    cases (k.tcb t).taskState <;> simp [TaskState.isWait, queue]
  have before : (k.tcb t).mutexWait = none :=
    Tcb.mutexWait_of_queue (by rw [queue]; rfl)
  have awake : (k.tcb t).awake.mutexWait = none :=
    Tcb.mutexWait_of_awake Tcb.awake_not_isWait
  have absent : t ∉ locks.blocked := guarded.blocks.not_mem (by simp [before])
  obtain ⟨taskLinks, bmp, next, run, kept⟩ :=
    (guarded.kept.to_detached homeless).taskWaitComplete task waiting noMutex
      fuel
  have here : t ∈ locks.blocked ↔
      ∃ m, (k.tcb t).awake.mutexWait = some (m, .mutexCBlk) := by
    simp [absent, awake]
  refine ends_bind_eq run (ends_some ⟨⟨_, guarded.replace kept rfl rfl rfl
    guarded.blocks.blockLinks here (fun _ _ => Iff.rfl) ?_ fun u _ stored =>
      guarded.blocks.blkTask t u isTask stored, lists.wake_wait t _⟩, rfl,
    fun u => ?_⟩)
  · simp [awake]
  · change (Function.update k.tcb t (k.tcb t).awake u).mutexWait = _
    by_cases same : u = t
    · rw [same, Function.update_self, awake, before]
    · rw [Function.update_of_ne same]

theorem Guarded.requestSwitch (guarded : Guarded rule dropped k lists locks) :
    Guarded rule dropped { k with tnContextSwitchRequest := true } lists locks :=
  ⟨guarded.kept.of_objects rfl rfl rfl rfl rfl rfl rfl fun _ => rfl,
    guarded.owns.frame rfl rfl rfl fun _ => rfl,
    guarded.blocks.frame (fun _ _ _ _ => rfl) rfl (fun _ => rfl)
      guarded.blocks.blkTask⟩

theorem Guarded.patientCall (guarded : Guarded .any dropped k lists locks)
    (may : k.Patient call)
    (running : call.fromInterrupt = false →
      (k.tcb k.tnCurrRunTask).taskState = .runnable)
    (tnTaskExit : Word) (fuel : Nat) :
    Ends (call.exec tnTaskExit fuel k) fun (k', _) =>
      ∃ lists' dropped' locks', Guarded .any dropped' k' lists' locks' ∧
        LockEffect call dropped k k' lists locks dropped' locks' := by
  rintro ⟨k', reply⟩ run
  have refused : ∃ lists' dropped' locks',
      Guarded .any dropped' k lists' locks' ∧
        LockEffect call dropped k k lists locks dropped' locks' :=
    ⟨lists, dropped, locks, guarded, .other rfl fun _ => rfl⟩
  cases call with
  | taskReleaseWait task =>
      rcases checked_eq run with ⟨rfl, -⟩ | ⟨t, rfl, -, isTask, -, body⟩
      · exact refused
      obtain ⟨⟨lists', after, -⟩, mutex, waits⟩ :=
        guarded.releaseSleeper isTask (may t rfl) fuel _ body
      exact ⟨lists', dropped, locks, after, .other mutex waits⟩
  | taskIreleaseWait task =>
      rcases checked_eq run with ⟨rfl, -⟩ | ⟨t, rfl, -, isTask, -, body⟩
      · exact refused
      have released : (releaseWaitBody fuel k t).Ensures fun k' _ =>
          (∃ lists', Guarded .any dropped k' lists' locks) ∧
            k'.mutex = k.mutex ∧
              ∀ u, (k'.tcb u).mutexWait = (k.tcb u).mutexWait :=
        fun k' reply run =>
          let ⟨⟨lists', after, _⟩, same⟩ :=
            guarded.releaseSleeper isTask (may t rfl) fuel (k', reply) run
          ⟨⟨lists', after⟩, same⟩
      obtain ⟨⟨lists', after⟩, mutex, waits⟩ :=
        released.fromInterrupt (fun k' _ ⟨⟨lists', after⟩, same⟩ =>
          ⟨⟨lists', after.requestSwitch⟩, same⟩) _ _ body
      exact ⟨lists', dropped, locks, after, .other mutex waits⟩
  | mutexCreate mutex attr ceilPriority =>
      obtain ⟨⟨lists', after⟩, tcb, same | ⟨m, new, absent, mutex, free, -⟩⟩ :=
        guarded.create mutex attr ceilPriority _ run
      · exact ⟨lists', dropped, locks, after, .other same fun t => by rw [tcb]⟩
      · exact ⟨lists', dropped, locks, after,
          .created m new rfl absent mutex free tcb⟩
  | mutexLock mutex timeout =>
      rcases checked_eq run with ⟨rfl, -⟩ | ⟨m, rfl, -, isMutex, -, body⟩
      · exact refused
      obtain ⟨lists', locks', after, asked⟩ := guarded.ask
        Rule.any_indifferent isMutex (running rfl) trivial trivial fuel _ body
      exact ⟨lists', dropped, locks', after, .asked m rfl asked⟩
  | mutexLockPolling mutex =>
      rcases checked_eq run with ⟨rfl, -⟩ | ⟨m, rfl, -, isMutex, -, body⟩
      · exact refused
      obtain ⟨lists', locks', after, asked⟩ := guarded.poll
        Rule.any_indifferent isMutex fuel _ body
      exact ⟨lists', dropped, locks', after, .asked m rfl asked⟩
  | mutexUnlock mutex =>
      rcases checked_eq run with ⟨rfl, -⟩ | ⟨m, rfl, -, isMutex, -, body⟩
      · exact refused
      unfold mutexUnlockBody at body
      split at body
      case isTrue =>
          cases body
          exact refused
      case isFalse notOther =>
          have held := not_not.mp notOther
          obtain ⟨⟨k₁, needSwitch⟩, unlock, result⟩ :=
            Option.bind_eq_some_iff.mp body
          cases result
          have isTask := guarded.owns.holder m _ isMutex held
          have listed := (guarded.owns.owned _ m).mp
            ((guarded.owns.listedBy_iff isTask).mp
              (may m rfl isMutex held))
          obtain ⟨lists', dropped', locks', after, unlocks⟩ := guarded.release
            Rule.any_indifferent isMutex listed.1 held (running rfl) fuel _
            unlock
          exact ⟨lists', dropped', locks', after,
            .unlocked m rfl isMutex held unlocks⟩
  | _ =>
      obtain ⟨⟨lists', after⟩, mutex, framed⟩ := guarded.plain rfl running
        (fun isTick => by cases isTick <;> exact may)
        (Call.exec_keeps guarded.kept rfl (fun task => ⟨running task, trivial⟩)
          (fun _ _ => trivial) (fun _ _ => trivial) (fun _ _ => trivial)
          (fun _ => trivial) (fun _ _ _ _ => trivial)
          (fun isTick => by cases isTick <;> exact may) tnTaskExit fuel) _ run
      exact ⟨lists', dropped, locks, after,
        .other mutex fun t => (framed t).mutexWait⟩

end Calls

/-! ## Runs -/

section Runs

variable {image : Image} {k k' : Kernel}

theorem Guarded.forget {rule : Rule} {dropped : Set MutexId} {lists : Lists}
    {locks : Locks} (guarded : Guarded rule dropped k lists locks) :
    Guarded .any dropped k lists locks :=
  ⟨guarded.kept.consistent.kept (isTask_iff.mpr guarded.kept.curr),
    guarded.owns, guarded.blocks⟩

theorem Guarded.patientStep {dropped : Set MutexId} {lists : Lists}
    {locks : Locks} (guarded : Guarded .any dropped k lists locks)
    {action : Action} (step : Step image Kernel.Patient k action k') :
    ∃ lists' dropped' locks', Guarded .any dropped' k' lists' locks' ∧
      ((k'.mutex = k.mutex ∧
          (∀ t, (k'.tcb t).mutexWait = (k.tcb t).mutexWait) ∧
          dropped' = dropped ∧ locks' = locks) ∨
        ∃ call reply, action = .call call reply ∧
          LockEffect call dropped k k' lists locks dropped' locks') := by
  cases step with
  | call fuel task running notIdle may run =>
      obtain ⟨lists', dropped', locks', after, effect⟩ :=
        guarded.patientCall may (fun _ => running) image.tnTaskExit fuel _ run
      exact ⟨lists', dropped', locks', after, .inr ⟨_, _, rfl, effect⟩⟩
  | interrupt fuel irq may run =>
      obtain ⟨lists', dropped', locks', after, effect⟩ :=
        guarded.enterIrq.patientCall may.enterIrq
          (fun task => absurd (irq.symm.trans task) (by decide))
          image.tnTaskExit fuel _ run
      refine ⟨lists', dropped', locks', after.leaveIrq, .inl ?_⟩
      cases effect with
      | other mutex waits => exact ⟨mutex, waits, rfl, rfl⟩
      | created m new task => exact absurd (irq.symm.trans task) (by decide)
      | asked m task => exact absurd (irq.symm.trans task) (by decide)
      | unlocked m isUnlock =>
          subst isUnlock
          cases irq
  | dispatch run =>
      have after := guarded.dispatch run
      obtain ⟨next, _, result⟩ := Option.bind_eq_some_iff.mp run
      cases result
      exact ⟨lists, dropped, locks, after,
        .inl ⟨rfl, fun _ => rfl, rfl, rfl⟩⟩

/-- Mutexes and lists agree in every state of such a run. -/
theorem Reachable.lockGuarded (reachable : Reachable image Kernel.Patient k) :
    ∃ lists dropped locks, Guarded .any dropped k lists locks := by
  induction reachable with
  | start fresh run =>
      obtain ⟨⟨lists, guarded⟩, -⟩ := Guarded.of_start fresh run
      exact ⟨lists, ∅, .none, guarded.forget⟩
  | next _ step before =>
      obtain ⟨lists, dropped, locks, guarded⟩ := before
      obtain ⟨lists', dropped', locks', after, -⟩ := guarded.patientStep step
      exact ⟨lists', dropped', locks', after⟩

end Runs

end UsbBulk
