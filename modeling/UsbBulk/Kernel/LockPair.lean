import Mathlib.Order.Bounds.Basic
import Mathlib.Order.MinMax
import UsbBulk.Kernel.LockRun
import UsbBulk.Kernel.Registry
import UsbBulk.Kernel.Script

/-!
# A mutex that is locked and unlocked at once

What is left of a call of `tn_mutex_lock` for a free mutex with priority
inheritance, once the same task has called `tn_mutex_unlock`.
-/

namespace UsbBulk

/-- The base priority of a task, and the priorities of the tasks that wait for a
mutex in its list. -/
def Kernel.entitled (k : Kernel) (t : TaskId) : Set Nat :=
  {p | p = (k.tcb t).basePriority ∨ ∃ m u reason, k.ListedBy m t ∧
    (k.tcb u).mutexWait = some (m, reason) ∧ p = (k.tcb u).priority}

/-- The current priority of a task is the highest that it is entitled to. -/
def Kernel.AtOwnPriority (k : Kernel) (t : TaskId) : Prop :=
  IsLeast (k.entitled t) (k.tcb t).priority

/-- Two states agree on the current priority of a task, on all ready lists, on the
bitmap, on a mutex and its wait list, and on which mutexes each task holds.  The
link fields of a mutex in no list are not looked at. -/
structure SameAround (m : MutexId) (t : TaskId) (k k' : Kernel) : Prop where
  priority : (k'.tcb t).priority = (k.tcb t).priority
  ready : ∀ p (tasks : List TaskId),
    k'.taskLinks.Ring (.head (.ready p)) (tasks.map .entry) ↔
      k.taskLinks.Ring (.head (.ready p)) (tasks.map .entry)
  bitmap : k'.tnReadyToRunBmp = k.tnReadyToRunBmp
  mutex : k'.mutex m = k.mutex m
  waiters : ∀ tasks : List TaskId,
    k'.taskLinks.Ring (.head (.wait (.mutex m))) (tasks.map .entry) ↔
      k.taskLinks.Ring (.head (.wait (.mutex m))) (tasks.map .entry)
  held : ∀ u, k.isTask u = true → ∀ mutexes : List MutexId,
    k'.mutexLinks.Ring (.head u) (mutexes.map .entry) ↔
      k.mutexLinks.Ring (.head u) (mutexes.map .entry)

section Priorities

variable {rule : Rule} {dropped : Set MutexId} {k : Kernel} {lists : Lists}
variable {locks : Locks} {m : MutexId} {t : TaskId} {p : Nat}

theorem Kernel.highest_isLeast (k : Kernel) (p : Nat) (tasks : List TaskId) :
    IsLeast {q | q = p ∨ ∃ u ∈ tasks, q = (k.tcb u).priority}
      (k.highest p tasks) := by
  induction tasks generalizing p with
  | nil => simp [Kernel.highest, isLeast_singleton]
  | cons u tasks ih =>
      have step : k.highest p (u :: tasks) =
          k.highest (min p (k.tcb u).priority) tasks := by
        unfold Kernel.highest
        rw [List.foldl_cons]
        congr 1
        split <;> omega
      obtain ⟨member, lower⟩ := ih (min p (k.tcb u).priority)
      have start : k.highest (min p (k.tcb u).priority) tasks ≤
          min p (k.tcb u).priority := lower (.inl rfl)
      rw [step]
      constructor
      · rcases member with same | ⟨v, inside, same⟩
        · rw [same]
          rcases min_choice p (k.tcb u).priority with isP | isU
          · exact .inl isP
          · exact .inr ⟨u, List.mem_cons_self, isU⟩
        · exact .inr ⟨v, List.mem_cons_of_mem u inside, same⟩
      · rintro q (rfl | ⟨v, inside, rfl⟩)
        · exact start.trans (min_le_left _ _)
        · rcases List.mem_cons.mp inside with rfl | inside
          · exact start.trans (min_le_right _ _)
          · exact lower (.inr ⟨v, inside, rfl⟩)

/-- The tasks that wait for a mutex in the list of a task. -/
def Lists.behind (lists : Lists) (locks : Locks) (t : TaskId) : List TaskId :=
  (locks.owned t).flatMap fun n => lists.task (.wait (.mutex n))

theorem Guarded.atOwnPriority_iff (guarded : Guarded rule dropped k lists locks)
    (isTask : k.isTask t = true) : k.AtOwnPriority t ↔
      (k.tcb t).priority =
        k.highest (k.tcb t).basePriority (lists.behind locks t) := by
  have same : k.entitled t = {q | q = (k.tcb t).basePriority ∨
      ∃ u ∈ lists.behind locks t, q = (k.tcb u).priority} := by
    ext q
    simp only [Kernel.entitled, Lists.behind, Set.mem_ofPred_eq,
      List.mem_flatMap, guarded.kept.consistent.mem_mutex,
      guarded.owns.listedBy_iff isTask]
    refine or_congr_right ⟨?_, ?_⟩
    · rintro ⟨m, u, reason, listed, waits, equal⟩
      exact ⟨u, ⟨m, listed, reason, waits⟩, equal⟩
    · rintro ⟨u, ⟨m, listed, reason, waits⟩, equal⟩
      exact ⟨m, u, reason, listed, waits, equal⟩
  have least := k.highest_isLeast (k.tcb t).basePriority
    (lists.behind locks t)
  rw [← same] at least
  exact ⟨fun own => own.unique least, fun equal => by
    rw [Kernel.AtOwnPriority, equal]
    exact least⟩

theorem Guarded.maxHeldPriority_highest
    (guarded : Guarded rule dropped k lists locks) {rest : List MutexId}
    (owned : locks.owned k.tnCurrRunTask = m :: rest)
    {fuel : Nat} (enough : (locks.owned k.tnCurrRunTask).length +
      (lists.behind locks k.tnCurrRunTask).length ≤ fuel) (p : Nat) :
    maxHeldPriority fuel k fuel (.entry m) p =
      some (k.highest p (lists.behind locks k.tnCurrRunTask)) := by
  have each : ∀ n ∈ m :: rest, ∀ p,
      findMaxBlockedPriority fuel k n p =
        some (k.highest p (lists.task (.wait (.mutex n)))) := by
    rw [← owned]
    intro n member p
    have isMutex := ((guarded.owns.owned _ n).mp member).2.1
    have some := (List.sublist_flatten_of_mem (List.mem_map_of_mem
      (f := fun n => lists.task (.wait (.mutex n))) member)).length_le
    rw [← List.flatMap_def] at some
    exact findMaxBlockedPriority_eq
      guarded.kept.consistent.scheduled.represents
      (guarded.kept.consistent.live (.mutex n) isMutex)
      (guarded.owns.kind n isMutex).symm (by unfold Lists.behind at enough; omega)
  rw [Lists.behind, Kernel.highest, List.foldl_flatMap, owned]
  exact maxHeldPriority_eq guarded.owns.mutexLinks
    (show locks.owned k.tnCurrRunTask = [] ++ m :: rest from owned)
    each (by rw [← owned]; omega)

/-- The priority that `do_unlock_mutex` gives to the running task. -/
theorem Guarded.unlockPriority_eq (guarded : Guarded rule dropped k lists locks)
    (kind : (k.mutex m).attr = tnMutexAttrInherit ∨
      (k.mutex m).attr = tnMutexAttrCeiling) {fuel : Nat}
    (enough : (locks.owned k.tnCurrRunTask).length +
      (lists.behind locks k.tnCurrRunTask).length < fuel) :
    unlockPriority fuel k m = setCurrentPriority fuel k k.tnCurrRunTask
      (k.highest (k.tcb k.tnCurrRunTask).basePriority
        (lists.behind locks k.tnCurrRunTask)) := by
  have isTask := isTask_iff.mpr guarded.kept.curr
  have empty := guarded.owns.mutexLinks.isQueueEmpty_iff isTask
  have first := guarded.owns.mutexLinks.next_head isTask
  unfold unlockPriority
  dsimp only
  cases owned : locks.owned k.tnCurrRunTask with
  | nil =>
      rw [if_pos (empty.mpr owned), Lists.behind, owned]
      rfl
  | cons n rest =>
      have search := guarded.maxHeldPriority_highest owned enough.le
        (k.tcb k.tnCurrRunTask).basePriority
      rw [owned] at first empty
      rw [if_neg (fun nobody => by cases empty.mp nobody), if_pos kind,
        show k.mutexLinks.next (.head k.tnCurrRunTask) = .entry n from first,
        search]
      obtain ⟨fuel, rfl⟩ := Nat.exists_eq_add_of_lt enough
      refine ite_eq_left_iff.mpr fun same => ?_
      rw [not_not.mp same]
      exact (if_pos rfl).symm

end Priorities

section Pair

variable {rule : Rule} {dropped : Set MutexId} {k : Kernel} {lists : Lists}
variable {locks : Locks} {m : MutexId}

theorem Locks.drop_take (t : TaskId) (unowned : ∀ t, m ∉ locks.owned t)
    (unlocked : m ∉ locks.locked) :
    (locks.take t m false).drop m = locks := by
  have owned : UsbBulk.drop (pushLast locks.owned t m) m = locks.owned := by
    funext u
    by_cases same : u = t
    · subst same
      simp [UsbBulk.drop, List.erase_append, unowned]
    · rw [UsbBulk.drop, pushLast_other same]
      exact List.erase_of_not_mem (unowned u)
  have locked : locks.locked.erase m = locks.locked :=
    List.erase_of_not_mem unlocked
  simp [Locks.drop, Locks.take, owned, locked]

/-- The state in which `do_unlock_mutex` calculates the priority, if the mutex has
just been locked. -/
def Kernel.relinked (k : Kernel) (m : MutexId) : Kernel :=
  { takeMutex k k.tnCurrRunTask m with
    mutexLinks := queueRemoveEntry
      (queueAddTail k.mutexLinks (.head k.tnCurrRunTask) (.entry m)) (.entry m)
    lockLinks := queueRemoveEntry k.lockLinks (.entry m) }

theorem Guarded.relinked (guarded : Guarded rule dropped k lists locks)
    (isMutex : k.isMutex m = true)
    (inherits : (k.mutex m).attr = tnMutexAttrInherit)
    (free : (k.mutex m).holder = none) :
    Guarded rule (insert m dropped) (k.relinked m) lists locks := by
  have listed : m ∉ dropped := fun out =>
    (guarded.owns.dropped m out).2 free
  obtain ⟨unowned, unlocked⟩ := guarded.owns.absent (.inr free)
  have taken := guarded.take isMutex inherits (.inr free)
    (isTask_iff.mpr guarded.kept.curr)
  rw [Set.sdiff_singleton_eq_self listed] at taken
  have after := taken.drop (t := k.tnCurrRunTask)
    (by simpa [takeMutex, Kernel.setMutex, Kernel.isMutex] using isMutex) listed
    (by simp [takeMutex, Kernel.setMutex])
  rwa [Locks.drop_take _ unowned unlocked] at after

/-- `do_unlock_mutex`, if nobody waits for the mutex. -/
theorem doUnlockMutex_nobody {k₁ : Kernel} {lowered : Bool} {fuel : Nat}
    (first : unlockPriority fuel { k with
      mutexLinks := queueRemoveEntry k.mutexLinks (.entry m)
      lockLinks := queueRemoveEntry k.lockLinks (.entry m) } m =
        some (k₁, lowered))
    (nobody : k₁.noWaiters (.mutex m) = true) :
    doUnlockMutex fuel k m =
      let k₂ := k₁.setMutex m { k₁.mutex m with holder := none }
      if (k₁.mutex m).attr = tnMutexAttrCeiling then
        retryBlocked fuel (some k₁.tnCurrRunTask) fuel k₂
          (k₁.blockLinks.next (.head ())) lowered
      else some (k₂, lowered) := by
  have gives : handOver fuel k₁ m = some (k₁.setMutex m
    { k₁.mutex m with holder := none }, false, some k₁.tnCurrRunTask) := by
    rw [handOver, if_pos nobody]
  simp only [doUnlockMutex, first, gives, Option.bind_eq_bind,
    Option.bind_some, Bool.or_false]
  simp [Kernel.setMutex]

/-- The first part of `do_unlock_mutex` comes to its end. -/
theorem Guarded.unlockPriority_some
    (guarded : Guarded rule dropped k lists locks)
    (indifferent : rule.Indifferent)
    (running : (k.tcb k.tnCurrRunTask).taskState = .runnable)
    (kind : (k.mutex m).attr = tnMutexAttrInherit ∨
      (k.mutex m).attr = tnMutexAttrCeiling) {fuel : Nat}
    (enough : (locks.owned k.tnCurrRunTask).length +
      (lists.behind locks k.tnCurrRunTask).length < fuel) {p : Nat}
    (isHighest : p = k.highest (k.tcb k.tnCurrRunTask).basePriority
      (lists.behind locks k.tnCurrRunTask)) :
    ∃ k' lowered lists', unlockPriority fuel k m = some (k', lowered) ∧
      Adjusted rule k k' lists lists' ∧
      (k'.tcb k.tnCurrRunTask).priority = p ∧
      ((k.tcb k.tnCurrRunTask).priority = p → k' = k) := by
  have base := (guarded.kept.consistent.tasks.valid _
    guarded.kept.curr).basePriority
  have least := k.highest_isLeast (k.tcb k.tnCurrRunTask).basePriority
    (lists.behind locks k.tnCurrRunTask)
  have small := (least.2 (.inl rfl)).trans_lt base
  rw [guarded.unlockPriority_eq kind enough, ← isHighest]
  rw [← isHighest] at small
  obtain ⟨fuel, rfl⟩ := Nat.exists_eq_add_of_lt enough
  by_cases same : (k.tcb k.tnCurrRunTask).priority = p
  · exact ⟨k, false, lists, if_pos same, .refl guarded.kept, same,
      fun _ => rfl⟩
  · obtain ⟨k', changed, lists', run, tcb, adjusted⟩ :=
      guarded.kept.adjustReady indifferent (isTask_iff.mpr guarded.kept.curr)
        running small
    refine ⟨k', changed, lists', ?_, adjusted, ?_, fun equal => absurd equal same⟩
    · exact (setPriorityAlong_unblocked _ (.inl running) same).trans
        ((if_pos running).trans run)
    · rw [tcb, Function.update_self]

theorem Adjusted.noWaiters {k' : Kernel} {lists' : Lists}
    (adjusted : Adjusted rule k k' lists lists')
    (kept : Kept rule none k lists) (isMutex : k.isMutex m = true) :
    k'.noWaiters (.mutex m) = k.noWaiters (.mutex m) := by
  have has : k.hasList (.mutex m) = true := isMutex
  have has' : k'.hasList (.mutex m) = true :=
    (Kernel.isMutex_congr (congrArg Footing.mutex adjusted.footing) m).trans
      isMutex
  rw [Bool.eq_iff_iff, adjusted.kept.noWaiters_iff has', adjusted.waits,
    kept.noWaiters_iff has]

/-- What `do_unlock_mutex` does to a mutex that has just been locked. -/
theorem Guarded.unlockPair (guarded : Guarded rule dropped k lists locks)
    (indifferent : rule.Indifferent)
    (running : (k.tcb k.tnCurrRunTask).taskState = .runnable)
    (isMutex : k.isMutex m = true)
    (inherits : (k.mutex m).attr = tnMutexAttrInherit)
    (free : (k.mutex m).holder = none)
    (nobody : k.noWaiters (.mutex m) = true) {fuel : Nat}
    (enough : (locks.owned k.tnCurrRunTask).length +
      (lists.behind locks k.tnCurrRunTask).length < fuel) :
    ∃ k' needSwitch,
      doUnlockMutex fuel (takeMutex k k.tnCurrRunTask m) m =
        some (k', needSwitch) ∧
      (k'.tcb k.tnCurrRunTask).priority =
        k.highest (k.tcb k.tnCurrRunTask).basePriority
          (lists.behind locks k.tnCurrRunTask) ∧
      ((k.tcb k.tnCurrRunTask).priority =
          k.highest (k.tcb k.tnCurrRunTask).basePriority
            (lists.behind locks k.tnCurrRunTask) →
        k' = { k with
          mutexLinks := (k.relinked m).mutexLinks
          lockLinks := (k.relinked m).lockLinks }) := by
  have relinked := guarded.relinked isMutex inherits free
  have inherits' : ((k.relinked m).mutex m).attr = tnMutexAttrInherit := by
    simp [Kernel.relinked, takeMutex, Kernel.setMutex, inherits]
  have isMutex' : (k.relinked m).isMutex m = true := by
    simpa [Kernel.relinked, takeMutex, Kernel.setMutex, Kernel.isMutex]
      using isMutex
  obtain ⟨k₁, changed, lists₁, first, adjusted, priority, unchanged⟩ :=
    relinked.unlockPriority_some indifferent running (.inl inherits') enough rfl
  have mutex₁ : k₁.mutex = (k.relinked m).mutex :=
    congrArg Footing.mutex adjusted.footing
  have nobody₁ : k₁.noWaiters (.mutex m) = true :=
    (adjusted.noWaiters relinked.kept isMutex').trans nobody
  have attr₁ : (k₁.mutex m).attr ≠ tnMutexAttrCeiling := by
    rw [mutex₁, inherits']
    decide
  refine ⟨_, changed, (doUnlockMutex_nobody first nobody₁).trans
    (if_neg attr₁), priority, fun same => ?_⟩
  have restored : Function.update (Function.update k.mutex m
      { k.mutex m with holder := some k.tnCurrRunTask }) m
      { k.mutex m with holder := none } = k.mutex := by
    rw [Function.update_idem, Function.update_eq_self_iff, ← free]
  rw [unchanged same]
  simp [Kernel.relinked, takeMutex, Kernel.setMutex, restored]

/-- In the lists that the pair of calls leaves every task holds what it held. -/
theorem Guarded.relinked_held (guarded : Guarded rule dropped k lists locks)
    (isMutex : k.isMutex m = true)
    (inherits : (k.mutex m).attr = tnMutexAttrInherit)
    (free : (k.mutex m).holder = none) {t : TaskId}
    (isTask : k.isTask t = true) (mutexes : List MutexId) :
    (k.relinked m).mutexLinks.Ring (.head t) (mutexes.map .entry) ↔
      k.mutexLinks.Ring (.head t) (mutexes.map .entry) := by
  have relinked := guarded.relinked isMutex inherits free
  rw [relinked.owns.mutexLinks.ring_iff isTask,
    guarded.owns.mutexLinks.ring_iff isTask]

/-- A task that locks a free mutex with priority inheritance and unlocks it at once
is told of no error, and leaves everything as it was if and only if its priority
was the highest that it is entitled to. -/
theorem lockUnlock_neutral_iff {image : Image}
    (reachable : Reachable image Kernel.Patient k)
    (running : (k.tcb k.tnCurrRunTask).taskState = .runnable)
    (context : k.wrongNonIntContext = false) (isMutex : k.isMutex m = true)
    (inherits : (k.mutex m).attr = tnMutexAttrInherit)
    (free : (k.mutex m).holder = none)
    (nobody : k.noWaiters (.mutex m) = true) {timeout : Word}
    (waits : timeout ≠ 0) :
    ∃ k₁, (∀ fuel, tnMutexLock fuel k (some m) timeout =
        some (k₁, .ret .noErr)) ∧
      ∃ enough, ∀ fuel, enough ≤ fuel → ∃ k₂ needSwitch,
        tnMutexUnlock fuel k₁ (some m) =
          some (k₂, .retSwitch .noErr needSwitch) ∧
        (SameAround m k.tnCurrRunTask k k₂ ↔
          k.AtOwnPriority k.tnCurrRunTask) := by
  obtain ⟨lists, dropped, locks, guarded⟩ := reachable.lockGuarded
  have isTask := isTask_iff.mpr guarded.kept.curr
  have legal : ¬k.lockIllegal m = true := by
    simp [Kernel.lockIllegal, free, inherits, tnMutexAttrInherit,
      tnMutexAttrCeiling]
  refine ⟨takeMutex k k.tnCurrRunTask m, fun fuel => ?_,
    (locks.owned k.tnCurrRunTask).length +
      (lists.behind locks k.tnCurrRunTask).length + 1, fun fuel enough => ?_⟩
  · rw [tnMutexLock, checked_pass (decide_eq_false waits) isMutex context,
      mutexLockBody_inherit inherits legal, free]
  obtain ⟨k₂, needSwitch, unlock, priority, unchanged⟩ :=
    guarded.unlockPair Rule.any_indifferent running isMutex inherits free
      nobody (Nat.lt_of_succ_le enough)
  refine ⟨k₂, needSwitch, ?_, ?_⟩
  · have held : ((takeMutex k k.tnCurrRunTask m).mutex m).holder =
        some k.tnCurrRunTask := by simp [takeMutex, Kernel.setMutex]
    have isMutex' : (takeMutex k k.tnCurrRunTask m).isMutex m = true := by
      simpa [takeMutex, Kernel.setMutex, Kernel.isMutex] using isMutex
    rw [tnMutexUnlock, checked_pass rfl isMutex' (show
      (takeMutex k k.tnCurrRunTask m).wrongNonIntContext = false from context)]
    simp only [mutexUnlockBody, unlock, Option.bind_eq_bind, Option.bind_some]
    exact if_neg (not_not.mpr held)
  · rw [guarded.atOwnPriority_iff isTask]
    constructor
    · exact fun same => same.priority.symm.trans priority
    · intro own
      rw [unchanged own]
      exact ⟨rfl, fun _ _ => Iff.rfl, rfl, rfl, fun _ => Iff.rfl,
        fun u isTask mutexes =>
          guarded.relinked_held isMutex inherits free isTask mutexes⟩

end Pair

/-! ## Two runs -/

section Samples

/-- A ready task runs, and nobody wants mutex 0. -/
def Kernel.uncontended (k : Kernel) : Bool :=
  (k.tcb k.tnCurrRunTask).taskState = .runnable ∧
    k.wrongNonIntContext = false ∧ k.isMutex 0 = true ∧
    (k.mutex 0).attr = tnMutexAttrInherit ∧ (k.mutex 0).holder = none ∧
    k.noWaiters (.mutex 0) = true

/-- Task 2 runs while the timer task sleeps. -/
def uncontendedScript : List Move := [
  .task (.taskCreate (some 2) .sample),
  .task (.mutexCreate (some 0) tnMutexAttrInherit 0),
  .task (.taskSleep tnWaitInfinite), .switch]

theorem uncontendedScript_free : ∀ move ∈ uncontendedScript,
    move.Free Kernel.Patient := by
  simp [uncontendedScript, Move.Free, Kernel.Patient]

theorem lockUnlock_neutral_uncontended : ∃ k,
    Reachable .sample Kernel.Patient k ∧
    ∃ k₁, (∀ fuel, tnMutexLock fuel k (some 0) tnWaitInfinite =
        some (k₁, .ret .noErr)) ∧
      ∃ enough, ∀ fuel, enough ≤ fuel → ∃ k₂ needSwitch,
        tnMutexUnlock fuel k₁ (some 0) =
          some (k₂, .retSwitch .noErr needSwitch) ∧
        (SameAround 0 k.tnCurrRunTask k k₂ ↔
          k.AtOwnPriority k.tnCurrRunTask) := by
  obtain ⟨k, reachable, found⟩ := Reachable.of_script uncontendedScript_free
    (show (Kernel.started.follow .sample 4 ⟨[0, 1, 2],
      [.ready 0, .ready 5, .ready 31, .wait (.mutex 0)], [0]⟩
      uncontendedScript).any Kernel.uncontended = true by decide +kernel)
  obtain ⟨running, context, isMutex, inherits, free, nobody⟩ :=
    of_decide_eq_true found
  exact ⟨k, reachable, lockUnlock_neutral_iff reachable running context isMutex
    inherits free nobody (by decide)⟩

/-- What mutex 0 is locked and unlocked with. -/
def Kernel.pairResets (k : Kernel) : Bool :=
  (tnMutexLock 4 k (some 0) tnWaitInfinite).any fun (k₁, locked) =>
    locked = .ret .noErr &&
      (tnMutexUnlock 4 k₁ (some 0)).any fun (k₂, unlocked) =>
        unlocked.rc = some .noErr &&
          (k₂.tcb k.tnCurrRunTask).priority ≠
            (k.tcb k.tnCurrRunTask).priority

/-- A priority that `tn_task_change_priority` has set is lost. -/
theorem lockUnlock_resets : ∃ k k₁ k₂ unlocked,
    Reachable .sample Kernel.Patient k ∧ k.uncontended = true ∧
      tnMutexLock 4 k (some 0) tnWaitInfinite = some (k₁, .ret .noErr) ∧
      tnMutexUnlock 4 k₁ (some 0) = some (k₂, unlocked) ∧
      unlocked.rc = some .noErr ∧ ¬SameAround 0 k.tnCurrRunTask k k₂ := by
  have free : ∀ move ∈ uncontendedScript ++
      [.task (.taskChangePriority (some 2) 3)],
      move.Free Kernel.Patient := by
    simp [uncontendedScript, Move.Free, Kernel.Patient]
  obtain ⟨k, reachable, found⟩ := Reachable.of_script free
    (show (Kernel.started.follow .sample 4 ⟨[0, 1, 2],
      [.ready 0, .ready 3, .ready 5, .ready 31, .wait (.mutex 0)], [0]⟩ _).any
      (fun k => k.uncontended && k.pairResets) = true by decide +kernel)
  obtain ⟨uncontended, resets⟩ := (Bool.and_eq_true ..).mp found
  obtain ⟨⟨k₁, locked⟩, lock, resets⟩ := (Option.any_eq_true ..).mp resets
  obtain ⟨isLocked, resets⟩ := (Bool.and_eq_true ..).mp resets
  obtain ⟨⟨k₂, unlocked⟩, unlock, resets⟩ := (Option.any_eq_true ..).mp resets
  obtain ⟨isUnlocked, differs⟩ := (Bool.and_eq_true ..).mp resets
  have isLocked : locked = .ret .noErr := of_decide_eq_true isLocked
  subst isLocked
  exact ⟨k, k₁, k₂, unlocked, reachable, uncontended, lock, unlock,
    of_decide_eq_true isUnlocked,
    fun same => of_decide_eq_true differs same.priority⟩

end Samples

end UsbBulk
