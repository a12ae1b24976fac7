import UsbBulk.Kernel.ExactPriority

/-!
# Runs with exact priorities

A lock keeps the priorities exact if the task that has to wait holds nothing.  An
unlock does in the states that `PassesExactly` describes.
-/

namespace UsbBulk

/-- The calls of a run in which no task that holds a mutex starts to wait for
another one, and no base priority is changed. -/
def Image.Separate (image : Image) (k : Kernel) : Call → Prop
  | .taskChangePriority .. => False
  | .mutexLockPolling _ => True
  | .mutexLock mutex timeout => timeout = tnWaitInfinite ∧
      ∀ m holder, mutex = some m → (k.mutex m).holder = some holder →
        holder ≠ k.tnCurrRunTask → ∀ n, k.isMutex n = true →
          (k.mutex n).holder ≠ some k.tnCurrRunTask
  | call => image.Inheriting k call

/-- Those of them that also unlock a mutex only where this keeps the priorities
exact. -/
def Image.PassingExactly (image : Image) (k : Kernel) (call : Call) : Prop :=
  image.Separate k call ∧ ∀ m, call = .mutexUnlock (some m) →
    k.isMutex m = true → (k.mutex m).holder = some k.tnCurrRunTask →
      k.PassesExactly m

/-- What `tn_mutex_lock` and `tn_mutex_lock_polling` make of the mutexes and
priorities. -/
inductive Requested (m : MutexId) (k k' : Kernel) : Prop where
  | refused (same : k'.inheritance = k.inheritance)
  | taken (free : k.inheritance.holder m = none)
      (same : k'.inheritance = k.inheritance.take k.tnCurrRunTask m)
  | blocked (holder : TaskId) (held : k.inheritance.holder m = some holder)
      (other : holder ≠ k.tnCurrRunTask)
      (same : k'.inheritance =
        k.inheritance.block k.tnCurrRunTask m holder)

section Requests

variable {rule : Rule} {dropped : Set MutexId} {k k' : Kernel} {lists : Lists}
variable {locks : Locks} {m : MutexId} {t holder : TaskId} {fuel : Nat}

theorem takeMutex_inheritance (isMutex : k.isMutex m = true) :
    (takeMutex k t m).inheritance = k.inheritance.take t m :=
  Inheritance.ext rfl rfl (Kernel.inheritance_setHolder isMutex rfl) rfl

theorem Kernel.inheritance_congr (mutex : k'.mutex = k.mutex) :
    k'.inheritance.holder = k.inheritance.holder := by
  funext n
  simp only [Kernel.inheritance, Kernel.isMutex_congr mutex, mutex]

/-- What the protocol gives to a holder that does not wait. -/
theorem Guarded.inheritPriority_tcb
    (guarded : Guarded rule dropped k lists locks)
    (indifferent : rule.Indifferent) (isTask : k.isTask holder = true)
    (awake : k.inheritance.waits holder = none) :
    Ends (inheritPriority fuel k holder) fun k' =>
      k'.tcb = Function.update k.tcb holder
        { k.tcb holder with
          priority := min (k.tcb holder).priority
            (k.tcb k.tnCurrRunTask).priority } := by
  have valid := guarded.kept.consistent.tasks.valid holder
    (isTask_iff.mp isTask)
  have small := (guarded.kept.consistent.tasks.valid _
    guarded.kept.curr).priority
  have plain : (k.tcb holder).taskState.isWait = true →
      (k.tcb holder).taskWaitReason.isMutex = false := by
    intro waiting
    by_contra isMutex
    exact valid.mutexWait_ne_none (isTask_iff.mp isTask) waiting
      (Bool.eq_true_of_not_eq_false isMutex) (Option.map_eq_none_iff.mp awake)
  refine ends_ite (fun higher => ?_) fun lower => ends_some ?_
  · rw [min_eq_right higher.le]
    exact Ends.bind (setCurrentPriority_sets guarded.kept indifferent isTask
      plain small) fun _ tcb => ends_some tcb
  · rw [min_eq_left (not_lt.mp lower)]
    exact (Function.update_eq_self holder k.tcb).symm

theorem Guarded.lock_requested (guarded : Guarded rule dropped k lists locks)
    (indifferent : rule.Indifferent) (isMutex : k.isMutex m = true)
    (inherits : (k.mutex m).attr = tnMutexAttrInherit)
    (running : (k.tcb k.tnCurrRunTask).taskState = .runnable)
    (stop : rule.stop k.tnCurrRunTask) {timeout : Word}
    (waits : rule.waits (some (.mutex m)) timeout)
    (apart : k.inheritance.Apart) :
    Ends (mutexLockBody fuel k timeout m) fun (k', _) =>
      Requested m k k' ∧ ∀ t, k'.isTask t = k.isTask t := by
  by_cases legal : k.lockIllegal m = true
  · exact ends_ite (fun _ => ends_some ⟨.refused rfl, fun _ => rfl⟩)
      fun other => absurd legal other
  rw [mutexLockBody_inherit inherits legal]
  have mine := Kernel.inheritance_holder isMutex
  cases held : (k.mutex m).holder with
  | none =>
      exact ends_some
        ⟨.taken (mine.trans held) (takeMutex_inheritance isMutex),
          fun _ => rfl⟩
  | some holder =>
      have isHolder := mine.trans held
      have other : holder ≠ k.tnCurrRunTask := by
        rintro rfl
        exact legal (by simp [Kernel.lockIllegal, held])
      have awake : k.inheritance.waits holder = none := by
        by_contra waiting
        exact apart holder waiting m isHolder
      have isTask := guarded.owns.holder m holder isMutex held
      refine Ends.bind ((guarded.inheritPriority_tcb indifferent isTask
        awake).and (inheritPriority_adjusted guarded.kept indifferent
          guarded.known isTask)) fun k₁ raised => ?_
      obtain ⟨tcb₁, lists₁, adjusted⟩ := raised
      have mutex₁ : k₁.mutex = k.mutex :=
        congrArg Footing.mutex adjusted.footing
      have curr₁ : k₁.tnCurrRunTask = k.tnCurrRunTask :=
        congrArg (·.mode.tnCurrRunTask) adjusted.footing
      have same : k₁.tcb k.tnCurrRunTask = k.tcb k.tnCurrRunTask := by
        rw [tcb₁, Function.update_of_ne other.symm]
      obtain ⟨k₂, lists₂, run, after, changed⟩ :=
        (guarded.adjust adjusted).wait
          ((Kernel.isMutex_congr mutex₁ m).trans isMutex)
          (by rw [curr₁, same, running]) (by rw [curr₁]; exact stop) waits
          (show WaitReason.mutexI.fits (some (.mutex m)) = true from rfl)
          (by decide)
      have tcb₂ := changed.tcb
      rw [curr₁, same] at tcb₂
      have known : ∀ t, k₂.isTask t = k.isTask t := fun t =>
        (Kernel.isTask_update tcb₂ (by rw [same]; rfl) t).trans
          (Kernel.isTask_update tcb₁ rfl t)
      refine ends_bind_eq run (ends_some
        ⟨.blocked holder isHolder other ?_, known⟩)
      obtain ⟨base₁, prio₁, waits₁⟩ := Kernel.inheritance_setPriority tcb₁
      obtain ⟨base₂, prio₂, waits₂⟩ := Kernel.inheritance_update tcb₂
      have asleep : ((k.tcb k.tnCurrRunTask).asleep (some (.mutex m)) .mutexI
          timeout).mutexWait = some (m, .mutexI) :=
        Tcb.mutexWait_eq_some.mpr ⟨guarded.kept.curr, rfl, rfl, rfl⟩
      refine Inheritance.ext ?_ ?_
        (Kernel.inheritance_congr (changed.same.mutex.trans mutex₁)) ?_
      · rw [base₂, base₁]
        exact Function.update_eq_self k.tnCurrRunTask _
      · rw [prio₂, prio₁]
        exact Function.update_eq_self_iff.mpr
          (Function.update_of_ne other.symm _ k.inheritance.prio).symm
      · rw [waits₂, waits₁, asleep]
        rfl

theorem lockPolling_takes (inherits : (k.mutex m).attr = tnMutexAttrInherit) :
    Ends (mutexLockPollingBody fuel k m) fun (k', _) => k' = k ∨
      k.lockIllegal m = false ∧ (k.mutex m).holder = none ∧
        k' = takeMutex k k.tnCurrRunTask m := by
  have notCeiling : (k.mutex m).attr ≠ tnMutexAttrCeiling := by
    rw [inherits]
    decide
  refine ends_ite (fun _ => ends_some (.inl rfl)) fun legal => ends_ite
    (fun free => ?_) fun _ => ends_some (.inl rfl)
  rw [if_neg notCeiling, if_pos inherits]
  exact ends_some (.inr ⟨eq_false_of_ne_true legal, free, rfl⟩)

end Requests

/-! ## Runs -/

/-- The invariant of these runs. -/
structure Separated (image : Image) (k : Kernel) : Prop where
  orderly : Orderly image k
  apart : k.inheritance.Apart
  exact : ∀ t, k.isTask t = true → k.inheritance.Exact t

section Runs

variable {image : Image} {k k' : Kernel} {m : MutexId} {t : TaskId}

theorem Kernel.isTask_of_waits (waits : k.inheritance.waits t ≠ none) :
    k.isTask t = true := by
  obtain ⟨m, waits⟩ := Option.ne_none_iff_exists'.mp waits
  obtain ⟨reason, waits⟩ := Kernel.inheritance_waits.mp waits
  exact isTask_iff.mpr (Tcb.mutexWait_eq_some.mp waits).1

theorem Orderly.isHeld (orderly : Orderly image k)
    (waits : k.inheritance.waits t = some m) :
    k.inheritance.holder m ≠ none := by
  obtain ⟨reason, waits⟩ := Kernel.inheritance_waits.mp waits
  obtain ⟨lists, locks, guarded⟩ := orderly.guarded
  have isMutex := guarded.kept.consistent.mutexWait_isMutex waits
  obtain ⟨-, u, held⟩ := orderly.inherited.waits t m reason waits
  simp [Kernel.inheritance_holder isMutex, held]

theorem Separated.same (separated : Separated image k)
    (orderly : Orderly image k') (same : k'.inheritance = k.inheritance)
    (known : ∀ t, k'.isTask t = k.isTask t) : Separated image k' := by
  refine ⟨orderly, ?_, fun t isTask => ?_⟩
  · rw [same]
    exact separated.apart
  · rw [same]
    exact separated.exact t ((known t).symm.trans isTask)

theorem Separated.requested (separated : Separated image k)
    (orderly : Orderly image k')
    (awake : k.inheritance.waits k.tnCurrRunTask = none)
    (requested : Requested m k k') (known : ∀ t, k'.isTask t = k.isTask t)
    (nothing : ∀ holder, k.inheritance.holder m = some holder →
      holder ≠ k.tnCurrRunTask →
      ∀ n, k.inheritance.holder n ≠ some k.tnCurrRunTask) :
    Separated image k' := by
  have exact : ∀ t, k'.isTask t = true → k.inheritance.Exact t :=
    fun t isTask => separated.exact t ((known t).symm.trans isTask)
  cases requested with
  | refused same => exact separated.same orderly same known
  | taken free same =>
      refine ⟨orderly, ?_, fun t isTask => ?_⟩
      · rw [same]
        exact separated.apart.take awake
      · rw [same]
        exact (exact t isTask).take fun u waits =>
          separated.orderly.isHeld waits free
  | blocked holder held other same =>
      have ready : k.inheritance.waits holder = none := by
        by_contra waiting
        exact separated.apart holder waiting m held
      refine ⟨orderly, ?_, fun t isTask => ?_⟩
      · rw [same]
        exact separated.apart.block (nothing holder held other)
      · rw [same]
        exact (exact t isTask).block other held awake ready

theorem Separated.relinquished (separated : Separated image k)
    (orderly : Orderly image k')
    (awake : k.inheritance.waits k.tnCurrRunTask = none)
    (isCurr : k.isTask k.tnCurrRunTask = true)
    (held : k.inheritance.holder m = some k.tnCurrRunTask)
    (relinquished : Relinquished m k k') (known : ∀ t, k'.isTask t = k.isTask t)
    (passes : k.PassesExactly m) : Separated image k' := by
  refine ⟨orderly, ?_, fun t isTask => ?_⟩
  · cases relinquished with
    | freed p empty nobody least same =>
        rw [same]
        exact separated.apart.release
    | passed w p q first waits least restored same =>
        rw [same]
        exact separated.apart.pass
  · exact (relinquished.exact_iff held awake separated.apart separated.exact isCurr
      fun t => Kernel.isTask_of_waits).mpr passes t
        ((known t).symm.trans isTask)

theorem Separated.plain (separated : Separated image k)
    (orderly : Orderly image k') {call : Call} (level : call.raises = none)
    (mutex : k'.mutex = k.mutex)
    (framed : ∀ t, Framed k call t (k'.tcb t)) : Separated image k' := by
  have holder := Kernel.inheritance_congr mutex
  have waits : k'.inheritance.waits = k.inheritance.waits :=
    funext fun t => congrArg (Option.map Prod.fst) (framed t).mutexWait
  have raises : ∀ t, call.raises ≠ some t := by simp [level]
  refine ⟨orderly, fun u waiting n => ?_, fun t isTask => ?_⟩
  · rw [holder]
    rw [waits] at waiting
    exact separated.apart u waiting n
  by_cases old : k.isTask t = true
  · refine (separated.exact t old).congr ((framed t).basePriority old)
      ((framed t).priority old (raises t)) (fun u => ?_) fun u behind => ?_
    · rw [Inheritance.Behind, holder, waits]
      rfl
    · obtain ⟨n, waiting, -⟩ := behind
      exact (framed u).priority (Kernel.isTask_of_waits (by simp [waiting]))
        (raises u)
  · obtain ⟨-, -, own⟩ := (framed t).created (eq_false_of_ne_true old)
      (isTask_iff.mp isTask)
    refine Inheritance.exact_of_nothing (own (raises t)) fun n held => old ?_
    rw [holder] at held
    obtain ⟨lists, locks, guarded⟩ := separated.orderly.guarded
    by_cases isMutex : k.isMutex n = true
    · exact guarded.owns.holder n t isMutex
        ((Kernel.inheritance_holder isMutex).symm.trans held)
    · cases (if_neg isMutex).symm.trans held

theorem Kernel.inheritance_ext (tcb : k'.tcb = k.tcb)
    (holder : k'.inheritance.holder = k.inheritance.holder) :
    k'.inheritance = k.inheritance := by
  have view : ∀ {β : Type} (field : Tcb → β),
      field ∘ k'.tcb = field ∘ k.tcb := fun field => by rw [tcb]
  exact Inheritance.ext (view Tcb.basePriority) (view Tcb.priority) holder
    (view fun tcb => tcb.mutexWait.map Prod.fst)

theorem createMutex_holder {new : Mutex} (absent : k.isMutex m = false)
    (mutex : k'.mutex = Function.update k.mutex m new)
    (free : new.holder = none) :
    k'.inheritance.holder = k.inheritance.holder := by
  funext n
  by_cases here : n = m
  · subst here
    have before : k.inheritance.holder n = none := if_neg (by simp [absent])
    rw [before]
    simp [Kernel.inheritance, mutex, free]
  · simp [Kernel.inheritance, Kernel.isMutex, mutex,
      Function.update_of_ne here]

theorem Orderly.take (orderly : Orderly image k) (isMutex : k.isMutex m = true)
    (legal : k.lockIllegal m = false) (free : (k.mutex m).holder = none) :
    Orderly image (takeMutex k k.tnCurrRunTask m) := by
  obtain ⟨lists, locks, guarded⟩ := orderly.guarded
  obtain ⟨lists', locks', taken, -⟩ := guarded.getInherit isMutex
    (orderly.inherited.inherits m isMutex) free legal
  have granting : Granting none k (takeMutex k k.tnCurrRunTask m) :=
    .taken m free rfl fun _ => rfl
  exact ⟨⟨lists', locks', taken⟩, orderly.inherited.granting granting⟩

theorem Orderly.call (orderly : Orderly image k) {call : Call}
    (may : image.Separate k call)
    (running : call.fromInterrupt = false →
      (k.tcb k.tnCurrRunTask).taskState = .runnable ∧
        k.tnCurrRunTask ≠ image.idleTask) (fuel : Nat) :
    Ends (call.exec image.tnTaskExit fuel k) fun (k', _) =>
      Orderly image k' := by
  obtain ⟨lists, locks, guarded⟩ := orderly.guarded
  have inherited := orderly.inherited
  have inheriting : image.Inheriting k call →
      Ends (call.exec image.tnTaskExit fuel k) fun (k', _) =>
        Orderly image k' := by
    intro may after run
    obtain ⟨lists', locks', kept, granting⟩ :=
      guarded.inheritingCall inherited may running fuel _ run
    exact ⟨⟨lists', locks', kept⟩, inherited.granting granting⟩
  cases call with
  | taskChangePriority => cases may
  | mutexLock => exact inheriting may.1
  | mutexLockPolling mutex =>
      rintro ⟨k', reply⟩ run
      rcases checked_eq run with ⟨rfl, -⟩ | ⟨m, rfl, -, isMutex, -, body⟩
      · exact orderly
      rcases lockPolling_takes (inherited.inherits m isMutex) _ body with
        rfl | ⟨legal, free, rfl⟩
      · exact orderly
      · exact orderly.take isMutex legal free
  | _ => exact inheriting may

theorem Image.Separate.untimed {call : Call} (may : image.Separate k call)
    (irq : call.fromInterrupt = true) :
    image.Untimed k call ∧ call.raises = none := by
  cases call with
  | taskChangePriority => cases may
  | mutexCreate | mutexLock | mutexLockPolling | mutexUnlock => cases irq
  | _ => exact ⟨may, rfl⟩

theorem Image.Separate.inheriting {call : Call} (may : image.Separate k call)
    (irq : call.fromInterrupt = true) : image.Inheriting k call := by
  cases call with
  | taskChangePriority => cases may
  | mutexLockPolling => cases irq
  | mutexLock => exact may.1
  | _ => exact may

theorem Orderly.separateStep (orderly : Orderly image k) {action : Action}
    (step : Step image image.Separate k action k') : Orderly image k' := by
  cases step with
  | call fuel task running notIdle may run =>
      exact orderly.call may (fun _ => ⟨running, notIdle⟩) fuel _ run
  | interrupt fuel irq may run =>
      exact (orderly.step (.interrupt fuel irq (may.inheriting irq) run)).1
  | dispatch run => exact (orderly.step (.dispatch run)).1

theorem Reachable.separate_orderly
    (reachable : Reachable image image.Separate k) : Orderly image k := by
  induction reachable with
  | start fresh run => exact (Orderly.of_start fresh run).1
  | next _ step ih => exact ih.separateStep step

theorem Separated.call (separated : Separated image k) {call : Call}
    (may : image.PassingExactly k call)
    (running : call.fromInterrupt = false →
      (k.tcb k.tnCurrRunTask).taskState = .runnable ∧
        k.tnCurrRunTask ≠ image.idleTask) (fuel : Nat) :
    Ends (call.exec image.tnTaskExit fuel k) fun (k', _) =>
      Separated image k' := by
  rintro ⟨k', reply⟩ run
  obtain ⟨separate, passes⟩ := may
  obtain ⟨lists, locks, guarded⟩ := separated.orderly.guarded
  have inherited := separated.orderly.inherited
  have orderly : Orderly image k' :=
    separated.orderly.call separate running fuel _ run
  have awake : (k.tcb k.tnCurrRunTask).taskState = .runnable →
      k.inheritance.waits k.tnCurrRunTask = none := by
    intro ready
    refine Option.map_eq_none_iff.mpr (Tcb.mutexWait_of_awake ?_)
    simp [ready, TaskState.isWait]
  have holds : ∀ {n u}, k.inheritance.holder n = some u →
      k.isMutex n = true ∧ (k.mutex n).holder = some u := by
    intro n u held
    have isMutex : k.isMutex n = true := by
      by_contra absent
      cases (if_neg absent).symm.trans held
    exact ⟨isMutex, (Kernel.inheritance_holder isMutex).symm.trans held⟩
  cases call with
  | taskChangePriority => cases separate
  | mutexCreate mutex attr ceilPriority =>
      obtain ⟨-, tcb, same | ⟨m, new, absent, mutex, free, -⟩⟩ :=
        guarded.create mutex attr ceilPriority _ run
      · exact separated.same orderly
          (Kernel.inheritance_ext tcb (Kernel.inheritance_congr same))
          fun t => by rw [Kernel.isTask, Kernel.isTask, tcb]
      · exact separated.same orderly
          (Kernel.inheritance_ext tcb (createMutex_holder absent mutex free))
          fun t => by rw [Kernel.isTask, Kernel.isTask, tcb]
  | mutexLock mutex timeout =>
      obtain ⟨rfl, alone⟩ := separate
      rcases checked_eq run with ⟨rfl, -⟩ | ⟨m, rfl, -, isMutex, -, body⟩
      · exact separated
      obtain ⟨requested, known⟩ := guarded.lock_requested
        image.untimedRule_indifferent isMutex (inherited.inherits m isMutex)
        (running rfl).1 (running rfl).2 (.inr rfl) separated.apart _ body
      exact separated.requested orderly (awake (running rfl).1)
        requested known fun holder held other n mine =>
          alone m holder rfl (holds held).2 other n (holds mine).1
            (holds mine).2
  | mutexLockPolling mutex =>
      rcases checked_eq run with ⟨rfl, -⟩ | ⟨m, rfl, -, isMutex, -, body⟩
      · exact separated
      rcases lockPolling_takes (inherited.inherits m isMutex) _ body with
        rfl | ⟨legal, free, rfl⟩
      · exact separated
      have before := (Kernel.inheritance_holder isMutex).trans free
      refine separated.requested orderly (awake (running rfl).1)
        (.taken before (takeMutex_inheritance isMutex)) (fun _ => rfl)
        fun holder held => ?_
      cases before.symm.trans held
  | mutexUnlock mutex =>
      rcases checked_eq run with ⟨rfl, -⟩ | ⟨m, rfl, -, isMutex, -, body⟩
      · exact separated
      unfold mutexUnlockBody at body
      split at body
      case isTrue =>
          cases body
          exact separated
      case isFalse held =>
          have held := not_not.mp held
          obtain ⟨⟨k₁, needSwitch⟩, unlock, result⟩ :=
            Option.bind_eq_some_iff.mp body
          cases result
          obtain ⟨relinquished, known⟩ := guarded.unlock_relinquished
            image.untimedRule_indifferent isMutex
            (inherited.inherits m isMutex) held (running rfl).1 _ unlock
          exact separated.relinquished orderly (awake (running rfl).1)
            (isTask_iff.mpr guarded.kept.curr)
            ((Kernel.inheritance_holder isMutex).trans held) relinquished known
            (passes m rfl isMutex held)
  | _ =>
      obtain ⟨-, mutex, framed⟩ := guarded.untimed separate running fuel _ run
      exact separated.plain orderly rfl mutex framed

theorem Separated.step (separated : Separated image k) {action : Action}
    (step : Step image image.PassingExactly k action k') :
    Separated image k' := by
  have orderly := separated.orderly.separateStep
    (step.mono fun _ _ may => may.1)
  cases step with
  | call fuel task running notIdle may run =>
      exact separated.call may (fun _ => ⟨running, notIdle⟩) fuel _ run
  | interrupt fuel irq may run =>
      obtain ⟨untimed, level⟩ := may.1.untimed irq
      obtain ⟨lists, locks, guarded⟩ := separated.orderly.enterIrq.guarded
      obtain ⟨-, mutex, framed⟩ := guarded.untimed untimed
        (fun task => absurd (irq.symm.trans task) (by decide)) fuel _ run
      exact separated.plain orderly level mutex fun t =>
        ⟨(framed t).mutexWait, (framed t).idTask, (framed t).blkTask,
          (framed t).basePriority, (framed t).priority, (framed t).created⟩
  | dispatch run =>
      obtain ⟨next, _, result⟩ := Option.bind_eq_some_iff.mp run
      cases result
      exact separated.same orderly rfl fun _ => rfl

theorem Separated.of_start (fresh : k.Fresh)
    (run : tnStartSystem image k = some k') : Separated image k' := by
  obtain ⟨-, noMutex, tasks⟩ := Guarded.of_start fresh run
  have free : ∀ m, k'.inheritance.holder m = none := fun m =>
    if_neg (by simp [noMutex m])
  refine ⟨(Orderly.of_start fresh run).1, fun u _ m => by simp [free m],
    fun t isTask => Inheritance.exact_of_nothing (tasks t isTask).2
      fun m => by simp [free m]⟩

theorem Reachable.separated
    (reachable : Reachable image image.PassingExactly k) :
    Separated image k := by
  induction reachable with
  | start fresh run => exact .of_start fresh run
  | next _ step ih => exact ih.step step

/-- In every run whose unlocks pass the mutexes exactly, the current priority of
every task is the highest among its base priority and the current priorities of the
tasks that wait for a mutex it holds. -/
theorem inheritance_exact
    (reachable : Reachable image image.PassingExactly k)
    (isTask : k.isTask t = true) : k.inheritance.Exact t :=
  reachable.separated.exact t isTask

end Runs

/-! ## Three tasks and a mutex -/

section Samples

/-- Task 2 locks mutex 0, and tasks of higher and higher priorities wait. -/
def crowdedScript : List Move := [
  .task (.taskCreate (some 2) { TaskParams.sample with priority := 8 }),
  .task (.mutexCreate (some 0) tnMutexAttrInherit 0),
  .task (.taskSleep tnWaitInfinite), .switch,
  .task (.mutexLock (some 0) tnWaitInfinite),
  .task (.taskCreate (some 3) { TaskParams.sample with priority := 7 }),
  .switch,
  .task (.mutexLock (some 0) tnWaitInfinite), .switch,
  .task (.taskCreate (some 4) { TaskParams.sample with priority := 6 }),
  .switch,
  .task (.mutexLock (some 0) tnWaitInfinite), .switch]

/-- The running task locks no second mutex. -/
def locksOne (k : Kernel) : Move → Bool
  | .task (.mutexLock ..) => isQueueEmpty k.mutexLinks (.head k.tnCurrRunTask)
  | _ => true

theorem Orderly.holdsNone {image : Image} {k : Kernel}
    (orderly : Orderly image k)
    (empty : isQueueEmpty k.mutexLinks (.head k.tnCurrRunTask) = true)
    (m : MutexId) (isMutex : k.isMutex m = true) :
    (k.mutex m).holder ≠ some k.tnCurrRunTask := by
  intro held
  obtain ⟨lists, locks, guarded⟩ := orderly.guarded
  have isTask := isTask_iff.mpr guarded.kept.curr
  have nothing := (guarded.owns.mutexLinks.isQueueEmpty_iff isTask).mp empty
  have owned := (guarded.owns.owned k.tnCurrRunTask m).mpr
    ⟨Set.notMem_empty m, isMutex, held⟩
  rw [nothing] at owned
  cases owned

theorem crowdedScript_separate {k : Kernel} (orderly : Orderly .sample k) :
    ∀ move ∈ crowdedScript ++ [.task (.mutexUnlock (some 0))],
      locksOne k move = true → move.May Image.sample.Separate k := by
  have alone : isQueueEmpty k.mutexLinks (.head k.tnCurrRunTask) = true →
      ∀ m holder, 0 = m → (k.mutex m).holder = some holder →
        holder ≠ k.tnCurrRunTask → ∀ n, k.isMutex n = true →
          (k.mutex n).holder ≠ some k.tnCurrRunTask :=
    fun one _ _ _ _ _ => orderly.holdsNone one
  simpa [crowdedScript, Move.May, Image.Separate, Image.Inheriting,
    Image.Untimed, Call.plain, Call.stops, Call.waits, locksOne] using alone

/-- Task 2 has inherited the priority of task 4. -/
theorem inheritance_exact_crowded : ∃ k,
    Reachable .sample Image.sample.PassingExactly k ∧
      k.inheritance.Exact 2 ∧ (k.tcb 2).basePriority = 8 ∧
        (k.tcb 2).priority = 6 := by
  have sound : ∀ move ∈ crowdedScript, ∀ k,
      Reachable .sample Image.sample.PassingExactly k →
        locksOne k move = true → move.May Image.sample.PassingExactly k := by
    intro move member k reachable one
    have separate := crowdedScript_separate reachable.separated.orderly move
      (List.mem_append_left _ member) one
    cases move with
    | task call =>
        refine ⟨separate, fun m isUnlock => ?_⟩
        subst isUnlock
        simp [crowdedScript] at member
    | irq call =>
        refine ⟨separate, fun m isUnlock => ?_⟩
        subst isUnlock
        simp [crowdedScript] at member
    | switch => trivial
  obtain ⟨k, reachable, found⟩ := Reachable.of_testedScript sound
    (show (Kernel.started.followTested .sample 6 ⟨[0, 1, 2, 3, 4],
      [.ready 0, .ready 6, .ready 7, .ready 8, .ready 31, .wait (.mutex 0)],
      [0]⟩ locksOne crowdedScript).any (fun k => k.isTask 2 &&
        decide ((k.tcb 2).basePriority = 8 ∧ (k.tcb 2).priority = 6)) = true
      by decide +kernel)
  obtain ⟨isTask, priorities⟩ := (Bool.and_eq_true ..).mp found
  exact ⟨k, reachable, inheritance_exact reachable isTask,
    of_decide_eq_true priorities⟩

/-- Task 3 gets the mutex with its own priority, and task 4 goes on waiting. -/
theorem inheritance_notExact : ∃ k,
    Reachable .sample Image.sample.Separate k ∧
      ∃ t, k.isTask t = true ∧ ¬k.inheritance.Exact t := by
  obtain ⟨k, reachable, found⟩ := Reachable.of_testedScript
    (fun move member k reachable =>
      crowdedScript_separate (Reachable.separate_orderly reachable) move member)
    (show (Kernel.started.followTested .sample 6 ⟨[0, 1, 2, 3, 4],
      [.ready 0, .ready 6, .ready 7, .ready 8, .ready 31, .wait (.mutex 0)],
      [0]⟩ locksOne _).any (fun k => decide (k.isTask 3 = true ∧
        k.isMutex 0 = true ∧ (k.mutex 0).holder = some 3 ∧
        (k.tcb 4).mutexWait = some (0, .mutexI) ∧ (k.tcb 3).priority = 7 ∧
        (k.tcb 4).priority = 6)) = true by decide +kernel)
  obtain ⟨isTask, isMutex, held, waits, lower, higher⟩ :=
    of_decide_eq_true found
  refine ⟨k, reachable, 3, isTask, fun exact => ?_⟩
  have behind : k.inheritance.Behind 3 4 :=
    ⟨0, Kernel.inheritance_waits.mpr ⟨.mutexI, waits⟩,
      (Kernel.inheritance_holder isMutex).trans held⟩
  have upper : (k.tcb 3).priority ≤ (k.tcb 4).priority :=
    exact.2 (.inr ⟨4, behind, rfl⟩)
  omega

end Samples

end UsbBulk
