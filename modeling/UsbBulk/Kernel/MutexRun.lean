import UsbBulk.WaitGraph
import UsbBulk.Kernel.MutexSteps
import UsbBulk.Kernel.Registry
import UsbBulk.Kernel.Script

/-!
# Runs with mutexes that inherit priorities

As long as no task locks a mutex whose holder waits, directly or not, for that
task, the waits for mutexes have no cycle, and `set_current_priority` ends.
-/

namespace UsbBulk

/-- The calls of a run that uses mutexes with priority inheritance only. -/
def Image.Inheriting (image : Image) (k : Kernel) : Call → Prop
  | .mutexCreate _ attr _ => attr = tnMutexAttrInherit
  | .mutexLock _ timeout => timeout = tnWaitInfinite
  | .mutexUnlock _ => True
  | call => image.Untimed k call

/-- The mutex that the running task may have to wait for. -/
def Call.asked : Call → Option MutexId
  | .mutexLock mutex _ => mutex
  | _ => none

/-- A task waits for a mutex that another task holds. -/
def Kernel.BlockedBy (k : Kernel) (t u : TaskId) : Prop :=
  ∃ m reason, (k.tcb t).mutexWait = some (m, reason) ∧
    (k.mutex m).holder = some u

/-- Every mutex inherits priorities, and a task that waits for a mutex waits for
the task that holds it. -/
structure Inherited (k : Kernel) : Prop where
  inherits : ∀ m, k.isMutex m = true →
    (k.mutex m).attr = tnMutexAttrInherit
  waits : ∀ t m reason, (k.tcb t).mutexWait = some (m, reason) →
    reason = .mutexI ∧ ∃ u, (k.mutex m).holder = some u

section Steps

variable {image : Image} {k k' : Kernel} {lists : Lists} {locks : Locks}
variable {asked : Option MutexId}

theorem Inherited.granting (inherited : Inherited k)
    (granting : Granting asked k k') : Inherited k' := by
  -- A holder changes, and nothing else.
  have attrs : ∀ m holder, k'.mutex = Function.update k.mutex m
      { k.mutex m with holder := holder } → ∀ n, k'.isMutex n = true →
        (k'.mutex n).attr = tnMutexAttrInherit := by
    intro m holder mutex n isMutex
    rw [mutex, attr_setHolder]
    refine inherited.inherits n ?_
    rw [Kernel.isMutex, mutex] at isMutex
    by_cases same : n = m
    · subst same
      rwa [Function.update_self] at isMutex
    · rwa [Function.update_of_ne same] at isMutex
  cases granting with
  | unchanged mutex waits =>
      refine ⟨fun m isMutex => ?_, fun t m reason waiting => ?_⟩
      · rw [mutex]
        exact inherited.inherits m ((Kernel.isMutex_congr mutex m).symm.trans
          isMutex)
      · rw [mutex]
        exact inherited.waits t m reason (by rw [← waits, waiting])
  | taken m free mutex waits =>
      refine ⟨attrs m _ mutex, fun t n reason waiting => ?_⟩
      rw [waits] at waiting
      obtain ⟨plain, u, held⟩ := inherited.waits t n reason waiting
      refine ⟨plain, u, ?_⟩
      rw [mutex, Function.update_of_ne ?_]
      · exact held
      · rintro rfl
        cases free.symm.trans held
  | blocked m holder isAsked other held mutex waits =>
      refine ⟨fun n isMutex => ?_, fun t n reason waiting => ?_⟩
      · rw [mutex]
        exact inherited.inherits n ((Kernel.isMutex_congr mutex n).symm.trans
          isMutex)
      · rw [waits] at waiting
        rw [mutex]
        split at waiting
        · cases waiting
          exact ⟨rfl, holder, held⟩
        · exact inherited.waits t n reason waiting
  | freed m new nobody free inherits mutex waits =>
      refine ⟨fun n isMutex => ?_, fun t n reason waiting => ?_⟩
      · rw [Kernel.isMutex, mutex] at isMutex
        rw [mutex]
        by_cases same : n = m
        · subst same
          rw [Function.update_self]
          exact inherits
        · rw [Function.update_of_ne same] at isMutex ⊢
          exact inherited.inherits n isMutex
      · rw [waits] at waiting
        have other : n ≠ m := by
          rintro rfl
          exact nobody t reason waiting
        rw [mutex, Function.update_of_ne other]
        exact inherited.waits t n reason waiting
  | handed m w mutex waits =>
      refine ⟨attrs m _ mutex, fun t n reason waiting => ?_⟩
      rw [waits] at waiting
      split at waiting
      · cases waiting
      · obtain ⟨plain, u, held⟩ := inherited.waits t n reason waiting
        refine ⟨plain, ?_⟩
        rw [mutex]
        by_cases same : n = m
        · subst same
          exact ⟨w, by rw [Function.update_self]⟩
        · exact ⟨u, by rw [Function.update_of_ne same, held]⟩

theorem blockedBy_unchanged (finite : WaitGraph.Terminating k.BlockedBy)
    (mutex : k'.mutex = k.mutex)
    (waits : ∀ t, (k'.tcb t).mutexWait = (k.tcb t).mutexWait) :
    WaitGraph.Terminating k'.BlockedBy := by
  refine finite.mono fun t u ⟨m, reason, waiting, held⟩ =>
    ⟨m, reason, ?_, ?_⟩
  · rw [← waits, waiting]
  · rw [← mutex, held]

/-- The waits stay without a cycle if the running task does not start to wait for
a task that waits for it. -/
theorem blockedBy_finite (finite : WaitGraph.Terminating k.BlockedBy)
    (granting : Granting asked k k')
    (awake : (k.tcb k.tnCurrRunTask).mutexWait = none)
    (opens : ∀ m holder, asked = some m → (k.mutex m).holder = some holder →
      ¬Relation.TransGen k.BlockedBy holder k.tnCurrRunTask) :
    WaitGraph.Terminating k'.BlockedBy := by
  cases granting with
  | unchanged mutex waits => exact blockedBy_unchanged finite mutex waits
  | taken m free mutex waits =>
      have stops : ∀ u, ¬k'.BlockedBy k.tnCurrRunTask u := by
        rintro u ⟨n, reason, waiting, -⟩
        rw [waits, awake] at waiting
        cases waiting
      refine finite.redirect stops fun t u ⟨n, reason, waiting, held⟩ => ?_
      rw [mutex] at held
      by_cases same : n = m
      · subst same
        rw [Function.update_self] at held
        exact .inr (Option.some.inj held).symm
      · rw [Function.update_of_ne same] at held
        exact .inl ⟨n, reason, by rw [← waits, waiting], held⟩
  | blocked m holder isAsked other held mutex waits =>
      refine finite.insert other (opens m holder isAsked held)
        fun t u ⟨n, reason, waiting, heldBy⟩ => ?_
      rw [waits] at waiting
      rw [mutex] at heldBy
      split at waiting
      case isTrue same =>
          cases waiting
          exact .inr ⟨same, Option.some.inj (heldBy.symm.trans held)⟩
      case isFalse => exact .inl ⟨n, reason, waiting, heldBy⟩
  | freed m new nobody free inherits mutex waits =>
      refine finite.mono fun t u ⟨n, reason, waiting, held⟩ => ?_
      rw [waits] at waiting
      have other : n ≠ m := by
        rintro rfl
        exact nobody t reason waiting
      rw [mutex, Function.update_of_ne other] at held
      exact ⟨n, reason, waiting, held⟩
  | handed m w mutex waits =>
      have stops : ∀ u, ¬k'.BlockedBy w u := by
        rintro u ⟨n, reason, waiting, -⟩
        rw [waits, if_pos rfl] at waiting
        cases waiting
      refine finite.redirect stops fun t u ⟨n, reason, waiting, held⟩ => ?_
      rw [waits] at waiting
      split at waiting
      · cases waiting
      · rw [mutex] at held
        by_cases same : n = m
        · subst same
          rw [Function.update_self] at held
          exact .inr (Option.some.inj held).symm
        · rw [Function.update_of_ne same] at held
          exact .inl ⟨n, reason, waiting, held⟩

theorem Guarded.inheritingCall
    (guarded : Guarded image.untimedRule ∅ k lists locks)
    (inherited : Inherited k) {call : Call} (may : image.Inheriting k call)
    (running : call.fromInterrupt = false →
      (k.tcb k.tnCurrRunTask).taskState = .runnable ∧
        k.tnCurrRunTask ≠ image.idleTask) (fuel : Nat) :
    Ends (call.exec image.tnTaskExit fuel k) fun (k', _) =>
      ∃ lists' locks', Guarded image.untimedRule ∅ k' lists' locks' ∧
        Granting call.asked k k' := by
  rintro ⟨k', reply⟩ run
  have refused : ∀ asked, ∃ lists' locks',
      Guarded image.untimedRule ∅ k lists' locks' ∧ Granting asked k k :=
    fun asked => ⟨lists, locks, guarded, .unchanged rfl fun _ => rfl⟩
  cases call with
  | mutexCreate mutex attr ceilPriority =>
      obtain ⟨⟨lists', after⟩, tcb, same | ⟨m, new, absent, mutex, free, kind⟩⟩ :=
        guarded.create mutex attr ceilPriority _ run
      · exact ⟨lists', locks, after, .unchanged same fun t => by rw [tcb]⟩
      · refine ⟨lists', locks, after, .freed m new (fun t reason waits => ?_)
          free (kind.trans may) mutex fun t => by rw [tcb]⟩
        have isMutex := guarded.kept.consistent.mutexWait_isMutex waits
        exact absurd (absent.symm.trans isMutex) (by decide)
  | mutexLock mutex timeout =>
      cases may
      rcases checked_eq run with ⟨rfl, -⟩ | ⟨m, rfl, -, isMutex, -, body⟩
      · exact refused _
      · exact guarded.lock image.untimedRule_indifferent isMutex
          (inherited.inherits m isMutex) (running rfl).1 (running rfl).2
          (.inr rfl) fuel _ body
  | mutexUnlock mutex =>
      rcases checked_eq run with ⟨rfl, -⟩ | ⟨m, rfl, -, isMutex, -, body⟩
      · exact refused _
      unfold mutexUnlockBody at body
      split at body
      case isTrue =>
          cases body
          exact refused _
      case isFalse held =>
          obtain ⟨⟨k₁, needSwitch⟩, unlock, result⟩ :=
            Option.bind_eq_some_iff.mp body
          cases result
          exact guarded.unlock image.untimedRule_indifferent isMutex
            (Set.notMem_empty m) (inherited.inherits m isMutex)
            (not_not.mp held) fuel _ unlock
  | _ =>
      obtain ⟨⟨lists', after⟩, mutex, framed⟩ :=
        guarded.untimed may running fuel _ run
      exact ⟨lists', locks, after,
        .unchanged mutex fun t => (framed t).mutexWait⟩

theorem Image.Inheriting.untimed {call : Call} (may : image.Inheriting k call)
    (irq : call.fromInterrupt = true) : image.Untimed k call := by
  cases call with
  | mutexCreate | mutexLock | mutexUnlock => cases irq
  | _ => exact may

end Steps

/-! ## Runs -/

/-- The invariant of these runs. -/
structure Orderly (image : Image) (k : Kernel) : Prop where
  guarded : ∃ lists locks, Guarded image.untimedRule ∅ k lists locks
  inherited : Inherited k

section Runs

variable {image : Image} {allowed : Kernel → Call → Prop} {k k' : Kernel}

theorem Orderly.of_start (fresh : k.Fresh)
    (run : tnStartSystem image k = some k') :
    Orderly image k' ∧ ∀ t u, ¬k'.BlockedBy t u := by
  obtain ⟨⟨lists, guarded⟩, noMutex, tasks⟩ := Guarded.of_start fresh run
  have awake : ∀ t m reason, (k'.tcb t).mutexWait ≠ some (m, reason) := by
    intro t m reason waiting
    have isMutex := guarded.kept.consistent.mutexWait_isMutex waiting
    exact absurd ((noMutex m).symm.trans isMutex) (by decide)
  refine ⟨⟨⟨lists, _, guarded⟩, fun m isMutex => ?_,
    fun t m reason waiting => absurd waiting (awake t m reason)⟩,
    fun t u ⟨m, reason, waiting, _⟩ => awake t m reason waiting⟩
  exact absurd ((noMutex m).symm.trans isMutex) (by decide)

theorem Orderly.enterIrq (orderly : Orderly image k) :
    Orderly image k.enterIrq := by
  obtain ⟨lists, locks, guarded⟩ := orderly.guarded
  exact ⟨⟨lists, locks, guarded.enterIrq⟩, orderly.inherited.inherits,
    orderly.inherited.waits⟩

theorem Orderly.leaveIrq (orderly : Orderly image k) :
    Orderly image k.leaveIrq := by
  obtain ⟨lists, locks, guarded⟩ := orderly.guarded
  exact ⟨⟨lists, locks, guarded.leaveIrq⟩, orderly.inherited.inherits,
    orderly.inherited.waits⟩

/-- What one step of the run does to the waits for mutexes. -/
theorem Orderly.step (orderly : Orderly image k) {action : Action}
    (step : Step image image.Inheriting k action k') :
    Orderly image k' ∧ ((k'.mutex = k.mutex ∧
        ∀ t, (k'.tcb t).mutexWait = (k.tcb t).mutexWait) ∨
      ∃ call reply, action = .call call reply ∧
        (k.tcb k.tnCurrRunTask).mutexWait = none ∧
        Granting call.asked k k') := by
  cases step with
  | call fuel task running notIdle may run =>
      obtain ⟨lists, locks, guarded⟩ := orderly.guarded
      obtain ⟨lists', locks', after, granting⟩ := guarded.inheritingCall
        orderly.inherited may (fun _ => ⟨running, notIdle⟩) fuel _ run
      refine ⟨⟨⟨lists', locks', after⟩, orderly.inherited.granting granting⟩,
        .inr ⟨_, _, rfl, Tcb.mutexWait_of_awake ?_, granting⟩⟩
      simp [running, TaskState.isWait]
  | interrupt fuel irq may run =>
      obtain ⟨lists, locks, guarded⟩ := orderly.enterIrq.guarded
      obtain ⟨⟨lists', after⟩, mutex, framed⟩ := guarded.untimed
        (may.untimed irq)
        (fun task => absurd (irq.symm.trans task) (by decide)) fuel _ run
      have waits := fun t => (framed t).mutexWait
      exact ⟨Orderly.leaveIrq ⟨⟨lists', locks, after⟩,
        orderly.enterIrq.inherited.granting
          (show Granting none _ _ from .unchanged mutex waits)⟩,
        .inl ⟨mutex, waits⟩⟩
  | dispatch run =>
      obtain ⟨lists, locks, guarded⟩ := orderly.guarded
      have after := guarded.dispatch run
      obtain ⟨next, _, result⟩ := Option.bind_eq_some_iff.mp run
      cases result
      exact ⟨⟨⟨lists, locks, after⟩, orderly.inherited.inherits,
        orderly.inherited.waits⟩, .inl ⟨rfl, fun _ => rfl⟩⟩

theorem Reachable.orderly (reachable : Reachable image image.Inheriting k) :
    Orderly image k := by
  induction reachable with
  | start fresh run => exact (Orderly.of_start fresh run).1
  | next _ step ih => exact (ih.step step).1

end Runs

/-! ## The walk of `set_current_priority` -/

theorem Tcb.Valid.mutexWait_ne_none {tcb : Tcb} (valid : tcb.Valid)
    (isTask : tcb.idTask = tnIdTask) (waiting : tcb.taskState.isWait = true)
    (isMutex : tcb.taskWaitReason.isMutex = true) : tcb.mutexWait ≠ none := by
  have fits := valid.waiting waiting
  rw [Tcb.mutexWait, if_pos ⟨isTask, waiting⟩]
  revert fits isMutex
  cases tcb.pwaitQueue with
  | none => cases tcb.taskWaitReason <;> simp [WaitReason.fits, WaitReason.isMutex]
  | some list =>
      cases list <;> cases tcb.taskWaitReason <;>
        simp [WaitReason.fits, WaitReason.isMutex, getMutexByWaitQueque]

section Walks

variable {image : Image} {k : Kernel} {t : TaskId} {p : Nat}

/-- The loop of `set_current_priority` ends, if the waits do. -/
theorem Orderly.walk_ends (orderly : Orderly image k)
    (ends : Acc (fun u t => k.BlockedBy t u) t) (task : TaskId)
    (isTask : k.isTask t = true) (small : p < tnNumPriority) :
    ∃ enough, ∀ fuel, enough ≤ fuel →
      ∃ after, setPriorityAlong task fuel k t p = some after := by
  obtain ⟨lists, locks, guarded⟩ := orderly.guarded
  have kept := guarded.kept
  induction ends generalizing p with
  | intro t _ ih =>
      have valid := kept.consistent.tasks.valid t (isTask_iff.mp isTask)
      by_cases same : (k.tcb t).priority = p
      · refine ⟨1, fun fuel enough => ⟨(k, false), ?_⟩⟩
        obtain ⟨fuel, rfl⟩ := Nat.exists_eq_add_of_le' enough
        exact if_pos same
      cases waits : (k.tcb t).mutexWait with
      | none =>
          refine ⟨1, fun fuel enough => ?_⟩
          obtain ⟨fuel, rfl⟩ := Nat.exists_eq_add_of_le' enough
          rw [setPriorityAlong]
          dsimp only
          rw [if_neg same]
          split
          · next ready =>
            obtain ⟨k', changed, _, run, _⟩ := kept.adjustReady
              image.untimedRule_indifferent isTask ready small
            exact ⟨_, run⟩
          split
          · next waiting =>
            split
            · next isMutex =>
              exact absurd waits (valid.mutexWait_ne_none
                (isTask_iff.mp isTask) waiting isMutex)
            · exact ⟨_, rfl⟩
          · exact ⟨_, rfl⟩
      | some waited =>
          -- The walk goes on to the holder, with one of two priorities.
          obtain ⟨m, reason⟩ := waited
          obtain ⟨rfl, u, held⟩ := orderly.inherited.waits t m reason waits
          have isMutex := kept.consistent.mutexWait_isMutex waits
          have isHolder := guarded.owns.holder m u isMutex held
          have base := (kept.consistent.tasks.valid u
            (isTask_iff.mp isHolder)).basePriority
          have found := fun fuel => @findMaxBlockedPriority_eq k _ _ m
            (k.tcb u).basePriority fuel kept.consistent.scheduled.represents
              (kept.consistent.live (.mutex m) isMutex)
              (.inl (orderly.inherited.inherits m isMutex))
          have lower := findMaxBlockedPriority_le m _ _ (found _ (Nat.le_refl _))
          have blocked : k.BlockedBy t u := ⟨m, _, waits, held⟩
          obtain ⟨enough₁, ends₁⟩ := ih u blocked isHolder
            (lower.trans_lt base)
          obtain ⟨enough₂, ends₂⟩ := ih u blocked isHolder small
          refine ⟨enough₁ + enough₂ +
            (lists.task (.wait (.mutex m))).length + 1, fun fuel enough => ?_⟩
          obtain ⟨fuel, rfl⟩ := Nat.exists_eq_add_of_le'
            ((Nat.le_add_left 1 _).trans enough)
          rw [setPriorityAlong_blocked task waits held same]
          split
          · rw [found fuel (by omega), Option.bind_some]
            exact ends₁ fuel (by omega)
          · rw [Option.bind_some]
            exact ends₂ fuel (by omega)

theorem checked_ends {object : Option Nat} {badParam valid : Nat → Bool}
    {wrongContext : Bool} {body : Nat → Nat → Outcome}
    (ends : ∀ id, object = some id → valid id = true → ∃ enough, ∀ fuel, enough ≤ fuel →
      ∃ after, body fuel id = some after) :
    ∃ enough, ∀ fuel, enough ≤ fuel →
      ∃ after, checked k object badParam valid wrongContext (body fuel) =
        some after := by
  unfold checked
  cases object with
  | none => exact ⟨0, fun _ _ => ⟨_, rfl⟩⟩
  | some id =>
      dsimp only
      split
      · exact ⟨0, fun _ _ => ⟨_, rfl⟩⟩
      split
      · exact ⟨0, fun _ _ => ⟨_, rfl⟩⟩
      split
      · exact ⟨0, fun _ _ => ⟨_, rfl⟩⟩
      · exact ends id rfl (by simp_all)

/-- `tn_mutex_lock` comes to its end, however far its loops have to go. -/
def Kernel.LockEnds (k : Kernel) (mutex : Option MutexId) (timeout : Word) :
    Prop :=
  ∃ enough, ∀ fuel, enough ≤ fuel →
    ∃ after, tnMutexLock fuel k mutex timeout = some after

theorem Orderly.lock_ends (orderly : Orderly image k)
    (running : (k.tcb k.tnCurrRunTask).taskState = .runnable)
    {mutex : Option MutexId}
    (ends : ∀ m holder, mutex = some m → (k.mutex m).holder = some holder →
      Acc (fun u t => k.BlockedBy t u) holder) (timeout : Word) :
    k.LockEnds mutex timeout := by
  refine checked_ends fun m isAsked isMutex => ?_
  have inherits := orderly.inherited.inherits m isMutex
  obtain ⟨lists, locks, guarded⟩ := orderly.guarded
  have curr := guarded.kept.curr
  have small := (guarded.kept.consistent.tasks.valid _ curr).priority
  -- Only the walk from the holder is a loop.
  have boosted : ∀ holder, (k.mutex m).holder = some holder →
      ∃ enough, ∀ fuel, enough ≤ fuel →
        ∃ k₁, inheritPriority fuel k holder = some k₁ := by
    intro holder held
    obtain ⟨enough, ends⟩ := orderly.walk_ends
      (ends m holder isAsked held) holder
      (guarded.owns.holder m holder isMutex held) small
    refine ⟨enough, fun fuel atLeast => ?_⟩
    unfold inheritPriority setCurrentPriority
    dsimp only
    split
    · obtain ⟨⟨k₁, changed⟩, run⟩ := ends fuel atLeast
      exact ⟨k₁, by rw [run]; rfl⟩
    · exact ⟨k, rfl⟩
  by_cases illegal : k.lockIllegal m = true
  · exact ⟨0, fun fuel _ => ⟨_, if_pos illegal⟩⟩
  simp only [mutexLockBody_inherit inherits illegal]
  cases held : (k.mutex m).holder with
  | none => exact ⟨0, fun fuel _ => ⟨_, rfl⟩⟩
  | some holder =>
      obtain ⟨enough, ends⟩ := boosted holder held
      refine ⟨enough, fun fuel atLeast => ?_⟩
      obtain ⟨k₁, run⟩ := ends fuel atLeast
      obtain ⟨lists₁, adjusted⟩ := inheritPriority_adjusted guarded.kept
        image.untimedRule_indifferent guarded.known
        (guarded.owns.holder m holder isMutex held) k₁ run
      have curr₁ : k₁.tnCurrRunTask = k.tnCurrRunTask :=
        congrArg (·.mode.tnCurrRunTask) adjusted.footing
      have mutex₁ : k₁.mutex = k.mutex :=
        congrArg Footing.mutex adjusted.footing
      obtain ⟨q, tcb₁⟩ := adjusted.tcb k.tnCurrRunTask
      obtain ⟨taskLinks, timerLinks, bmp, next, sleeps, -⟩ :=
        adjusted.kept.consistent.taskCurrToWaitAction adjusted.kept.curr
          (by rw [curr₁, tcb₁]; exact running)
          (show WaitReason.mutexI.fits (some (.mutex m)) = true from rfl)
          (fun list equal => by
            cases equal
            exact (Kernel.isMutex_congr mutex₁ m).trans isMutex) timeout
      generalize k₁.withTasks _ _ _ _ _ = k₂ at sleeps
      refine ⟨(k₂, .block), ?_⟩
      dsimp only
      rw [run, Option.bind_some, sleeps]
      rfl

end Walks

/-! ## A cycle of waits -/

section Cycles

variable {k : Kernel} {m : MutexId} {t : TaskId} {p : Nat}

/-- In a closed set of tasks that wait for each other the loop of
`set_current_priority` goes on for ever. -/
theorem setPriorityAlong_diverges (inherited : Inherited k)
    {inside : TaskId → Prop} (task : TaskId)
    (closed : ∀ t, inside t → p < (k.tcb t).priority ∧
      ∃ u, k.BlockedBy t u ∧ inside u)
    (start : inside t) (fuel : Nat) :
    setPriorityAlong task fuel k t p = none := by
  induction fuel generalizing t with
  | zero => rfl
  | succ fuel ih =>
      obtain ⟨lower, u, ⟨m, reason, waits, held⟩, next⟩ := closed t start
      obtain ⟨rfl, -⟩ := inherited.waits t m reason waits
      rw [setPriorityAlong_blocked task waits held (Nat.ne_of_gt lower),
        if_neg (Nat.not_lt_of_gt lower), Option.bind_some]
      exact ih next

/-- A lock of a mutex whose holder is in the set does not come to its end. -/
theorem Requests.diverges (requests : Requests k m t)
    (inherited : Inherited k) {inside : TaskId → Prop}
    (closed : ∀ t, inside t →
      (k.tcb k.tnCurrRunTask).priority < (k.tcb t).priority ∧
        ∃ u, k.BlockedBy t u ∧ inside u)
    (start : inside t) {timeout : Word} (waits : timeout ≠ 0) (fuel : Nat) :
    tnMutexLock fuel k (some m) timeout = none := by
  have lower := (closed t start).1
  have other : t ≠ k.tnCurrRunTask := by
    rintro rfl
    exact Nat.lt_irrefl _ lower
  have legal : ¬k.lockIllegal m = true := by
    simp [Kernel.lockIllegal, requests.held, requests.inherits, other,
      tnMutexAttrInherit, tnMutexAttrCeiling]
  simp only [tnMutexLock, checked, waits, decide_false, Bool.false_eq_true,
    if_false, requests.isMutex, Bool.not_true, requests.allowed]
  rw [mutexLockBody_inherit requests.inherits legal, requests.held]
  simp only [inheritPriority, if_pos lower, setCurrentPriority,
    setPriorityAlong_diverges inherited t closed start, Option.bind_eq_bind,
    Option.bind_none]

end Cycles

/-! ## Runs in which no cycle is closed -/

/-- No task asks for a mutex whose holder waits, directly or through other
tasks, for the task that asks. -/
def Image.OpenLocks (image : Image) (k : Kernel) (call : Call) : Prop :=
  image.Inheriting k call ∧ ∀ m holder, call.asked = some m →
    (k.mutex m).holder = some holder →
      ¬Relation.TransGen k.BlockedBy holder k.tnCurrRunTask

section OpenRuns

variable {image : Image} {k : Kernel}

theorem Reachable.blockedBy_finite (reachable : Reachable image image.OpenLocks k) :
    WaitGraph.Terminating k.BlockedBy := by
  induction reachable with
  | start fresh run =>
      exact WaitGraph.terminating_of_empty (Orderly.of_start fresh run).2
  | next before step finite =>
      have orderly := (before.mono fun _ _ may => may.1).orderly
      obtain ⟨-, ⟨mutex, waits⟩ | ⟨call, reply, rfl, awake, granting⟩⟩ :=
        orderly.step (step.mono fun _ _ may => may.1)
      · exact blockedBy_unchanged finite mutex waits
      · cases step with
        | call fuel task running notIdle may run =>
            exact UsbBulk.blockedBy_finite finite granting awake may.2

/-- The waits from a task on reach no cycle. -/
def Kernel.Unknotted (k : Kernel) (t : TaskId) : Prop :=
  ∀ u, Relation.ReflTransGen k.BlockedBy t u →
    ¬Relation.TransGen k.BlockedBy u u

theorem Orderly.acc_of_unknotted (orderly : Orderly image k) {t : TaskId}
    (unknotted : k.Unknotted t) : Acc (fun u t => k.BlockedBy t u) t := by
  obtain ⟨lists, locks, guarded⟩ := orderly.guarded
  have consistent := guarded.kept.consistent
  have known : ∀ t u, k.BlockedBy t u → u ∈ lists.create := by
    rintro t u ⟨m, reason, waits, held⟩
    have isTask := guarded.owns.holder m u
      (consistent.mutexWait_isMutex waits) held
    exact (consistent.tasks.created u).mpr (isTask_iff.mp isTask)
  exact WaitGraph.acc_of_no_cycle known unknotted

/-- In a run that closes no cycle of waits every call of `tn_mutex_lock` comes to
its end.  In any run a call ends if the waits from the holder of the mutex on reach
no cycle, and if all the tasks on the way have lower priorities than the running
task, then only if they do not. -/
theorem propagation_terminates (reachable : Reachable image image.Inheriting k)
    (running : (k.tcb k.tnCurrRunTask).taskState = .runnable) :
    (Reachable image image.OpenLocks k →
      ∀ mutex timeout, k.LockEnds mutex timeout) ∧
    ∀ m holder timeout, (k.mutex m).holder = some holder →
      (k.Unknotted holder → k.LockEnds (some m) timeout) ∧
      (Requests k m holder → timeout ≠ 0 →
        (∀ u, Relation.ReflTransGen k.BlockedBy holder u →
          (k.tcb k.tnCurrRunTask).priority < (k.tcb u).priority) →
        k.LockEnds (some m) timeout → k.Unknotted holder) := by
  have orderly := reachable.orderly
  refine ⟨fun openRun mutex timeout => orderly.lock_ends running
    (fun _ holder _ _ => openRun.blockedBy_finite.apply holder) timeout,
    fun m holder timeout held => ⟨fun unknotted => ?_,
      fun requests waits lower ends u reached cycle => ?_⟩⟩
  · refine orderly.lock_ends running (fun n other same heldBy => ?_) timeout
    cases same
    cases held.symm.trans heldBy
    exact orderly.acc_of_unknotted unknotted
  · obtain ⟨enough, ends⟩ := ends
    obtain ⟨after, run⟩ := ends enough (Nat.le_refl enough)
    have closed : ∀ t, WaitGraph.Toward k.BlockedBy holder u t →
        (k.tcb k.tnCurrRunTask).priority < (k.tcb t).priority ∧
          ∃ v, k.BlockedBy t v ∧ WaitGraph.Toward k.BlockedBy holder u v :=
      fun t toward => ⟨lower t toward.1, toward.goOn cycle⟩
    have diverges := requests.diverges orderly.inherited closed
      ⟨.refl, reached⟩ waits enough
    cases diverges.symm.trans run

end OpenRuns

section Chain

/-- The timer task runs, and task 2 holds mutex 0. -/
def Kernel.contended (k : Kernel) : Bool :=
  k.tnCurrRunTask = 0 ∧ (k.tcb 0).idTask = tnIdTask ∧
    (k.tcb 0).taskState = .runnable ∧ (k.tcb 0).priority = 0 ∧
    k.wrongNonIntContext = false ∧ k.isMutex 0 = true ∧
    (k.mutex 0).attr = tnMutexAttrInherit ∧ (k.mutex 0).holder = some 2

/-- Task 2 waits for mutex 1, which task 3 holds. -/
def Kernel.chained (k : Kernel) : Bool :=
  k.contended && decide ((k.tcb 2).mutexWait = some (1, .mutexI) ∧
    (k.mutex 1).attr = tnMutexAttrInherit ∧ (k.mutex 1).holder = some 3 ∧
    (k.tcb 3).idTask = tnIdTask ∧ (k.tcb 3).taskState = .runnable ∧
    0 < (k.tcb 2).priority ∧ 0 < (k.tcb 3).priority)

def chainedScript : List Move := [
  .task (.taskCreate (some 2) .sample),
  .task (.taskCreate (some 3) { TaskParams.sample with priority := 6 }),
  .task (.mutexCreate (some 0) tnMutexAttrInherit 0),
  .task (.mutexCreate (some 1) tnMutexAttrInherit 0),
  .task (.taskSleep tnWaitInfinite), .switch,
  .task (.mutexLock (some 0) tnWaitInfinite),
  .task (.taskSleep tnWaitInfinite), .switch,
  .task (.mutexLock (some 1) tnWaitInfinite),
  .task (.taskWakeup (some 2)), .switch,
  .task (.mutexLock (some 1) tnWaitInfinite), .switch,
  .irq (.taskIwakeup (some 0)), .switch]

/-- No task asks for a mutex whose holder waits for a mutex. -/
def asksAwake (k : Kernel) : Move → Bool
  | .task call | .irq call => (call.asked.bind fun m => (k.mutex m).holder).all
      fun holder => (k.tcb holder).mutexWait.isNone
  | .switch => true

theorem openLocks_of_asksAwake {k : Kernel} {call : Call}
    (may : Image.sample.Inheriting k call)
    (awake : ((call.asked.bind fun m => (k.mutex m).holder).all
      fun holder => (k.tcb holder).mutexWait.isNone) = true) :
    Image.sample.OpenLocks k call := by
  refine ⟨may, fun m holder asked held blocked => ?_⟩
  rw [asked, Option.bind_some, held, Option.all_some] at awake
  obtain ⟨u, ⟨o, reason, waits, -⟩, -⟩ :=
    Relation.TransGen.head'_iff.mp blocked
  rw [waits] at awake
  cases awake

theorem chained_reachable : ∃ k,
    Reachable .sample Image.sample.OpenLocks k ∧ k.chained = true := by
  have free : ∀ move ∈ chainedScript, move.Free Image.sample.Inheriting := by
    simp [chainedScript, Move.Free, Image.Inheriting, Image.Untimed,
      Call.plain, Call.stops, Call.waits]
  have sound : ∀ move ∈ chainedScript, ∀ k,
      Reachable .sample Image.sample.OpenLocks k → asksAwake k move = true →
        move.May Image.sample.OpenLocks k := by
    intro move member k _ awake
    have may := (free move member).may k
    cases move with
    | task call => exact openLocks_of_asksAwake may awake
    | irq call => exact openLocks_of_asksAwake may awake
    | switch => trivial
  exact Reachable.of_testedScript sound
    (show (Kernel.started.followTested .sample 4 ⟨[0, 1, 2, 3],
      [.ready 0, .ready 5, .ready 6, .ready 31, .wait (.mutex 0),
        .wait (.mutex 1)], [0, 1]⟩ asksAwake chainedScript).any _ = true
      by decide +kernel)

/-- The timer task asks for a mutex whose holder waits for another task. -/
theorem propagation_terminates_chained : ∃ k,
    Reachable .sample Image.sample.OpenLocks k ∧ k.chained = true ∧
      k.LockEnds (some 0) tnWaitInfinite := by
  obtain ⟨k, reachable, found⟩ := chained_reachable
  obtain ⟨curr, -, running, -⟩ :=
    of_decide_eq_true ((Bool.and_eq_true ..).mp found).1
  exact ⟨k, reachable, found, (propagation_terminates
    (reachable.mono fun _ _ may => may.1) (by rw [curr, running])).1 reachable
    (some 0) tnWaitInfinite⟩

end Chain

/-! ## Two tasks that wait for each other -/

section Deadlock

variable {k : Kernel}

/-- Task 2 holds mutex 0 and waits for mutex 1, task 3 holds mutex 1 and waits for
mutex 0, and the timer task runs. -/
def Kernel.deadlocked (k : Kernel) : Bool :=
  k.tnCurrRunTask = 0 ∧ (k.tcb 0).idTask = tnIdTask ∧
    (k.tcb 0).taskState = .runnable ∧ (k.tcb 0).priority = 0 ∧
    k.wrongNonIntContext = false ∧ k.isMutex 0 = true ∧
    (k.mutex 0).attr = tnMutexAttrInherit ∧
    (k.mutex 0).holder = some 2 ∧ (k.mutex 1).holder = some 3 ∧
    (k.tcb 2).mutexWait = some (1, .mutexI) ∧
    (k.tcb 3).mutexWait = some (0, .mutexI) ∧
    0 < (k.tcb 2).priority ∧ 0 < (k.tcb 3).priority

/-- The two tasks lock the mutexes in different orders, while the timer task
sleeps. -/
def deadlockScript : List Move := [
  .task (.taskCreate (some 2) { TaskParams.sample with priority := 6 }),
  .task (.taskCreate (some 3) .sample),
  .task (.mutexCreate (some 0) tnMutexAttrInherit 0),
  .task (.mutexCreate (some 1) tnMutexAttrInherit 0),
  .task (.taskSleep tnWaitInfinite), .switch,
  .task (.mutexLock (some 1) tnWaitInfinite),
  .task (.taskSleep tnWaitInfinite), .switch,
  .task (.mutexLock (some 0) tnWaitInfinite),
  .task (.taskWakeup (some 3)), .switch,
  .task (.mutexLock (some 0) tnWaitInfinite), .switch,
  .task (.mutexLock (some 1) tnWaitInfinite), .switch,
  .irq (.taskIwakeup (some 0)), .switch]

theorem deadlock_reachable : ∃ k,
    Reachable .sample Image.sample.Inheriting k ∧ k.deadlocked = true := by
  have free : ∀ move ∈ deadlockScript,
      move.Free Image.sample.Inheriting := by
    simp [deadlockScript, Move.Free, Image.Inheriting, Image.Untimed,
      Call.plain, Call.stops, Call.waits]
  exact Reachable.of_script free
    (show (Kernel.started.follow .sample 4 ⟨[0, 1, 2, 3],
      [.ready 0, .ready 5, .ready 6, .ready 31, .wait (.mutex 0),
        .wait (.mutex 1)], [0, 1]⟩ deadlockScript).any Kernel.deadlocked = true
      by decide +kernel)

/-- The timer task asks for a mutex of the two tasks, and `tn_mutex_lock` does not
come to its end. -/
theorem propagation_loops : ∃ k, Reachable .sample Image.sample.Inheriting k ∧
    (k.tcb k.tnCurrRunTask).taskState = .runnable ∧
    ∀ fuel, tnMutexLock fuel k (some 0) tnWaitInfinite = none := by
  obtain ⟨k, reachable, deadlocked⟩ := deadlock_reachable
  obtain ⟨curr, isTask, running, top, allowed, isMutex, inherits, held₀, held₁,
    waits₂, waits₃, lower₂, lower₃⟩ := of_decide_eq_true deadlocked
  refine ⟨k, reachable, by rw [curr, running], fun fuel => ?_⟩
  have requests : Requests k 0 2 :=
    ⟨by rw [curr, isTask_iff, isTask], by rw [curr, running], allowed, isMutex,
      inherits, held₀⟩
  have closed : ∀ t, t = 2 ∨ t = 3 →
      (k.tcb k.tnCurrRunTask).priority < (k.tcb t).priority ∧
        ∃ u, k.BlockedBy t u ∧ (u = 2 ∨ u = 3) := by
    rw [curr, top]
    rintro t (rfl | rfl)
    · exact ⟨lower₂, 3, ⟨1, _, waits₂, held₁⟩, .inr rfl⟩
    · exact ⟨lower₃, 2, ⟨0, _, waits₃, held₀⟩, .inl rfl⟩
  exact requests.diverges reachable.orderly.inherited closed (.inl rfl)
    (by decide) fuel

end Deadlock

/-! ## How far the priority of the timer task is inherited -/

theorem Kernel.requests_of_contended {k : Kernel}
    (contended : k.contended = true) :
    Requests k 0 2 ∧ (k.tcb k.tnCurrRunTask).priority = 0 := by
  obtain ⟨curr, isTask, running, top, allowed, isMutex, inherits, held⟩ :=
    of_decide_eq_true contended
  exact ⟨⟨by rw [curr, isTask_iff, isTask], by rw [curr, running], allowed,
    isMutex, inherits, held⟩, by rw [curr, top]⟩

def contendedScript : List Move := [
  .task (.taskCreate (some 2) .sample),
  .task (.mutexCreate (some 0) tnMutexAttrInherit 0),
  .task (.taskSleep tnWaitInfinite), .switch,
  .task (.mutexLock (some 0) tnWaitInfinite),
  .irq (.taskIwakeup (some 0)), .switch]

theorem contended_reachable : ∃ k,
    Reachable .sample Image.sample.Inheriting k ∧
      (k.contended && decide ((k.tcb 2).idTask = tnIdTask ∧
        (k.tcb 2).taskState = .runnable ∧ 0 < (k.tcb 2).priority)) = true := by
  have free : ∀ move ∈ contendedScript,
      move.Free Image.sample.Inheriting := by
    simp [contendedScript, Move.Free, Image.Inheriting, Image.Untimed,
      Call.plain, Call.stops, Call.waits]
  exact Reachable.of_script free
    (show (Kernel.started.follow .sample 4 ⟨[0, 1, 2],
      [.ready 0, .ready 5, .ready 31, .wait (.mutex 0)], [0]⟩
      contendedScript).any _ = true by decide +kernel)

/-- A holder that is ready inherits the priority of the timer task. -/
theorem inherit_propagates_contended : ∃ k k' lists',
    Reachable .sample Image.sample.Inheriting k ∧
      tnMutexLock 1 k (some 0) tnWaitInfinite = some (k', .block) ∧
      Propagated k k' lists' [2] (k.tcb k.tnCurrRunTask).priority := by
  obtain ⟨k, reachable, found⟩ := contended_reachable
  obtain ⟨contended, holder⟩ := (Bool.and_eq_true ..).mp found
  obtain ⟨isTask, ready, lower⟩ := of_decide_eq_true holder
  obtain ⟨requests, top⟩ := Kernel.requests_of_contended contended
  obtain ⟨lists, locks, guarded⟩ := reachable.orderly.guarded
  obtain ⟨k', lists', run, -, propagated⟩ := inherit_propagates_iff requests
    guarded.kept.consistent (.last (isTask_iff.mpr isTask) (.inl ready))
    (by simpa [top] using lower) (show tnWaitInfinite ≠ 0 by decide)
    (Nat.le_refl 1)
  exact ⟨k, k', lists', reachable, run, propagated.mpr rfl⟩

/-- In a chain of two tasks the first one does not inherit it. -/
theorem chained_not_raised : ∃ k k',
    Reachable .sample Image.sample.Inheriting k ∧
      Requests k 0 2 ∧ BlockingChain k [2, 3] ∧
      (∀ u ∈ [2, 3],
        (k.tcb k.tnCurrRunTask).priority < (k.tcb u).priority) ∧
      tnMutexLock 2 k (some 0) tnWaitInfinite = some (k', .block) ∧
      (k'.tcb 2).priority ≠ (k.tcb k.tnCurrRunTask).priority := by
  obtain ⟨k, openRun, found⟩ := chained_reachable
  have reachable := openRun.mono fun _ _ may => may.1
  obtain ⟨contended, chained⟩ := (Bool.and_eq_true ..).mp found
  obtain ⟨waits, inherits, held, isTask, ready, lower₂, lower₃⟩ :=
    of_decide_eq_true chained
  obtain ⟨requests, top⟩ := Kernel.requests_of_contended contended
  obtain ⟨lists, locks, guarded⟩ := reachable.orderly.guarded
  have blocking : BlockingChain k [2, 3] := .link waits inherits held
    (.last (isTask_iff.mpr isTask) (.inl ready))
  have lower : ∀ u ∈ [2, 3],
      (k.tcb k.tnCurrRunTask).priority < (k.tcb u).priority := by
    simpa [top] using ⟨lower₂, lower₃⟩
  obtain ⟨k', lists', run, -, effect⟩ := requests.lock
    guarded.kept.consistent blocking lower
    (show tnWaitInfinite ≠ 0 by decide) (Nat.le_refl 2)
  have raised : k.raised 2 [3] = 3 := if_pos ready
  refine ⟨k, k', reachable, requests, blocking, lower, run, ?_⟩
  rw [(effect 2).1, raised, if_neg (by decide)]
  exact Nat.ne_of_gt (lower 2 List.mem_cons_self)

end UsbBulk
