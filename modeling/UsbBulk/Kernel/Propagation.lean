import UsbBulk.Kernel.Guarded

/-!
# How far a priority is inherited

`set_current_priority` walks from the holder of a mutex along the tasks that
block each other.  It writes to one control block only: to that of the task that
it was given, or, if the walk ends at a ready task, to that of this one.
-/

namespace UsbBulk

/-- No rule at all. -/
def Rule.any : Rule where
  holds _ _ := True
  stop _ := True
  raise _ := True
  born _ := True
  waits _ _ := True
  same _ _ holds := holds
  awake _ _ _ holds := holds
  asleep _ _ _ _ holds := holds
  suspend _ _ holds := holds
  ready _ _ holds := holds
  freeze _ _ holds := holds
  priority _ holds := holds
  tick _ holds := holds
  create _ _ _ _ _ _ _ holds := holds

theorem Rule.any_indifferent : Rule.any.Indifferent :=
  ⟨fun _ => trivial, fun _ _ _ => trivial, fun _ => trivial⟩

/-- A task that waits for no mutex: it is ready, suspended, asleep, or waits for
another object. -/
def Tcb.Unblocked (tcb : Tcb) : Prop :=
  tcb.taskState = .runnable ∨ tcb.taskState = .suspend ∨
    (tcb.taskState.isWait = true ∧ tcb.taskWaitReason.isMutex = false)

/-- Each task waits for a mutex with priority inheritance that the next one holds,
and the last one is not blocked. -/
inductive BlockingChain (k : Kernel) : List TaskId → Prop where
  | last {t : TaskId} (isTask : k.isTask t = true)
      (unblocked : (k.tcb t).Unblocked) : BlockingChain k [t]
  | link {t u : TaskId} {m : MutexId} {rest : List TaskId}
      (waits : (k.tcb t).mutexWait = some (m, .mutexI))
      (inherits : (k.mutex m).attr = tnMutexAttrInherit)
      (held : (k.mutex m).holder = some u)
      (chain : BlockingChain k (u :: rest)) : BlockingChain k (t :: u :: rest)

/-- Every task of the chain runs at the priority `p`, and no other task has
another priority than before. -/
structure Propagated (k k' : Kernel) (lists' : Lists) (chain : List TaskId)
    (p : Nat) : Prop where
  raised : ∀ t ∈ chain, (k'.tcb t).priority = p
  ready : ∀ t ∈ chain, (k'.tcb t).taskState = .runnable →
    t ∈ lists'.task (.ready p)
  others : ∀ t, t ∉ chain → (k'.tcb t).priority = (k.tcb t).priority

section Walk

variable {k : Kernel} {lists : Lists} {t : TaskId} {chain : List TaskId}
variable {p fuel : Nat}

theorem Consistent.kept (consistent : Consistent none k lists)
    (curr : k.isTask k.tnCurrRunTask = true) : Kept .any none k lists :=
  ⟨consistent, fun _ => trivial, isTask_iff.mp curr⟩

theorem setPriorityAlong_blocked {m : MutexId} {u : TaskId} (task : TaskId)
    (waits : (k.tcb t).mutexWait = some (m, .mutexI))
    (held : (k.mutex m).holder = some u) (differs : (k.tcb t).priority ≠ p) :
    setPriorityAlong task (fuel + 1) k t p =
      (if (k.tcb t).priority < p then
        findMaxBlockedPriority fuel k m (k.tcb u).basePriority
      else some p).bind fun q => setPriorityAlong task fuel k u q := by
  obtain ⟨-, waiting, queue, reason⟩ := Tcb.mutexWait_eq_some.mp waits
  have notReady : (k.tcb t).taskState ≠ .runnable := by
    intro ready
    rw [ready] at waiting
    cases waiting
  rw [setPriorityAlong]
  dsimp only
  rw [if_neg differs, if_neg notReady, if_pos waiting, reason,
    if_pos (show WaitReason.mutexI.isMutex = true from rfl), queue]
  simp only [getMutexByWaitQueque, Option.bind_eq_bind, Option.bind_some,
    reduceCtorEq, if_false, held]
  split <;> rfl

theorem setPriorityAlong_unblocked (task : TaskId)
    (unblocked : (k.tcb t).Unblocked) (differs : (k.tcb t).priority ≠ p) :
    setPriorityAlong task (fuel + 1) k t p =
      if (k.tcb t).taskState = .runnable then changeRunningTaskPriority k t p
      else some (k.setTcb task { k.tcb task with priority := p }, false) := by
  rw [setPriorityAlong]
  dsimp only
  rw [if_neg differs]
  rcases unblocked with ready | suspended | ⟨waiting, noMutex⟩
  · rw [if_pos ready, if_pos ready]
  · simp [suspended, TaskState.isWait]
  · by_cases ready : (k.tcb t).taskState = .runnable
    · rw [if_pos ready, if_pos ready]
    · rw [if_neg ready, if_neg ready, if_pos waiting, noMutex,
        if_neg (by decide)]

/-- The walk along a chain of tasks with lower priorities ends at its last
task. -/
theorem setPriorityAlong_chain (task : TaskId)
    (blocking : BlockingChain k (t :: chain))
    (lower : ∀ u ∈ t :: chain, p < (k.tcb u).priority)
    (enough : (t :: chain).length ≤ fuel) :
    setPriorityAlong task fuel k t p =
      let last := (t :: chain).getLast (List.cons_ne_nil t chain)
      if (k.tcb last).taskState = .runnable then
        changeRunningTaskPriority k last p
      else some (k.setTcb task { k.tcb task with priority := p }, false) := by
  induction chain generalizing t fuel with
  | nil =>
      obtain ⟨fuel, rfl⟩ := Nat.exists_eq_add_of_le' enough
      have differs := Nat.ne_of_gt (lower t List.mem_cons_self)
      cases blocking with
      | last isTask unblocked =>
          exact setPriorityAlong_unblocked task unblocked differs
  | cons u rest ih =>
      obtain ⟨fuel, rfl⟩ := Nat.exists_eq_add_of_le'
        ((Nat.le_add_left 1 _).trans enough)
      have above := lower t List.mem_cons_self
      cases blocking with
      | link waits inherits held blocking =>
          rw [setPriorityAlong_blocked task waits held (Nat.ne_of_gt above),
            if_neg (Nat.not_lt_of_gt above), Option.bind_some,
            ih blocking (fun v later => lower v (List.mem_cons_of_mem t later))
              (by simpa using enough)]
          rfl

theorem BlockingChain.getLast_unblocked (blocking : BlockingChain k chain)
    (nonempty : chain ≠ []) :
    (k.tcb (chain.getLast nonempty)).Unblocked ∧
      k.isTask (chain.getLast nonempty) = true := by
  induction blocking with
  | last isTask unblocked => exact ⟨unblocked, isTask⟩
  | link waits inherits held rest ih =>
      rw [List.getLast_cons (List.cons_ne_nil _ _)]
      exact ih (List.cons_ne_nil _ _)

theorem Tcb.Unblocked.mutexWait {tcb : Tcb} (unblocked : tcb.Unblocked)
    (m : MutexId) : tcb.mutexWait ≠ some (m, .mutexI) := by
  intro waits
  obtain ⟨-, waiting, -, reason⟩ := Tcb.mutexWait_eq_some.mp waits
  rcases unblocked with ready | suspended | ⟨-, noMutex⟩
  · rw [ready] at waiting
    cases waiting
  · rw [suspended] at waiting
    cases waiting
  · rw [reason] at noMutex
    cases noMutex

/-- The first task of a longer chain is another one than the last. -/
theorem BlockingChain.last_ne_first {u : TaskId} {rest : List TaskId}
    (blocking : BlockingChain k (t :: u :: rest)) :
    (u :: rest).getLast (List.cons_ne_nil u rest) ≠ t := by
  intro same
  cases blocking with
  | link waits inherits held blocking =>
      have unblocked := (blocking.getLast_unblocked (List.cons_ne_nil u rest)).1
      rw [same] at unblocked
      exact unblocked.mutexWait _ waits

/-- The task whose control block the walk along a chain writes to. -/
def Kernel.raised (k : Kernel) (t : TaskId) (chain : List TaskId) : TaskId :=
  let last := (t :: chain).getLast (List.cons_ne_nil t chain)
  if (k.tcb last).taskState = .runnable then last else t

/-- `set_current_priority` along a chain. -/
theorem Kept.raise (kept : Kept .any none k lists)
    (blocking : BlockingChain k (t :: chain))
    (lower : ∀ u ∈ t :: chain, p < (k.tcb u).priority)
    (small : p < tnNumPriority) (enough : (t :: chain).length ≤ fuel) :
    ∃ k' changed lists', setCurrentPriority fuel k t p = some (k', changed) ∧
      k'.tcb = Function.update k.tcb (k.raised t chain)
        { k.tcb (k.raised t chain) with priority := p } ∧
      Adjusted .any k k' lists lists' := by
  rw [setCurrentPriority, setPriorityAlong_chain t blocking lower enough]
  dsimp only
  obtain ⟨unblocked, isTask⟩ :=
    blocking.getLast_unblocked (List.cons_ne_nil t chain)
  unfold Kernel.raised
  dsimp only
  split
  case isTrue ready =>
      obtain ⟨k', changed, lists', run, tcb, adjusted⟩ :=
        kept.adjustReady Rule.any_indifferent isTask ready small
      exact ⟨k', changed, lists', run, tcb, adjusted⟩
  case isFalse notReady =>
      have waits : (k.tcb t).taskState ≠ .runnable := by
        cases chain with
        | nil => exact notReady
        | cons u rest =>
            intro ready
            cases blocking with
            | link waits =>
                exact (show (k.tcb t).Unblocked from .inl ready).mutexWait _
                  waits
      exact ⟨_, false, lists, rfl, rfl,
        kept.adjustWaiter Rule.any_indifferent waits small⟩

end Walk

/-! ## The call that blocks -/

/-- The running task may call `tn_mutex_lock` for a mutex with priority
inheritance that another task holds. -/
structure Requests (k : Kernel) (m : MutexId) (holder : TaskId) : Prop where
  curr : k.isTask k.tnCurrRunTask = true
  running : (k.tcb k.tnCurrRunTask).taskState = .runnable
  allowed : k.wrongNonIntContext = false
  isMutex : k.isMutex m = true
  inherits : (k.mutex m).attr = tnMutexAttrInherit
  held : (k.mutex m).holder = some holder

section Lock

variable {k : Kernel} {lists : Lists} {t : TaskId} {chain : List TaskId}
variable {m : MutexId} {timeout : Word} {fuel : Nat}

/-- What the call does to the priorities and to the states of the other tasks. -/
theorem Requests.lock (requests : Requests k m t)
    (consistent : Consistent none k lists)
    (blocking : BlockingChain k (t :: chain))
    (lower : ∀ u ∈ t :: chain,
      (k.tcb k.tnCurrRunTask).priority < (k.tcb u).priority)
    (waits : timeout ≠ 0) (enough : (t :: chain).length ≤ fuel) :
    ∃ k' lists', tnMutexLock fuel k (some m) timeout = some (k', .block) ∧
      Consistent none k' lists' ∧
      ∀ u, (k'.tcb u).priority = (if u = k.raised t chain then
          (k.tcb k.tnCurrRunTask).priority else (k.tcb u).priority) ∧
        (k'.tcb u).idTask = (k.tcb u).idTask := by
  have kept := consistent.kept requests.curr
  have small := (consistent.tasks.valid _ kept.curr).priority
  have other : ∀ u ∈ t :: chain, u ≠ k.tnCurrRunTask := by
    rintro u member rfl
    exact Nat.lt_irrefl _ (lower _ member)
  obtain ⟨k₁, changed, lists₁, run₁, tcb₁, adjusted⟩ :=
    kept.raise blocking lower small enough
  have member : k.raised t chain ∈ t :: chain := by
    unfold Kernel.raised
    dsimp only
    split
    · exact List.getLast_mem _
    · exact List.mem_cons_self
  have same : k₁.tnCurrRunTask = k.tnCurrRunTask :=
    congrArg (·.mode.tnCurrRunTask) adjusted.footing
  have still : k₁.tcb k₁.tnCurrRunTask = k.tcb k.tnCurrRunTask := by
    rw [tcb₁, same, Function.update_of_ne (other _ member).symm]
  obtain ⟨taskLinks, timerLinks, bmp, next, run₂, after⟩ :=
    adjusted.kept.consistent.taskCurrToWaitAction (by rw [still]; exact kept.curr)
      (by rw [still]; exact requests.running)
      (show WaitReason.mutexI.fits (some (.mutex m)) = true from rfl)
      (fun list equal => by
        cases equal
        have mutex := congrArg Footing.mutex adjusted.footing
        exact (Kernel.isMutex_congr mutex m).trans requests.isMutex) timeout
  refine ⟨_, _, ?_, after, fun u => ?_⟩
  · have legal : k.lockIllegal m = false := by
      have different := other t List.mem_cons_self
      simp [Kernel.lockIllegal, requests.held, requests.inherits, different,
        tnMutexAttrInherit, tnMutexAttrCeiling]
    have above := lower t List.mem_cons_self
    simp only [tnMutexLock, checked, waits, decide_false, Bool.false_eq_true,
      if_false, requests.isMutex, Bool.not_true, requests.allowed,
      mutexLockBody, legal, requests.inherits, requests.held,
      tnMutexAttrInherit, tnMutexAttrCeiling]
    simp only [inheritPriority, if_pos above, run₁, Option.bind_eq_bind,
      Option.bind_some, run₂]
    rfl
  · change (Function.update k₁.tcb k₁.tnCurrRunTask _ u).priority = _ ∧
      (Function.update k₁.tcb k₁.tnCurrRunTask _ u).idTask = _
    rw [still, same, tcb₁]
    by_cases isCurr : u = k.tnCurrRunTask
    · subst isCurr
      rw [Function.update_self, if_neg (other _ member).symm]
      exact ⟨rfl, rfl⟩
    · rw [Function.update_of_ne isCurr]
      by_cases isRaised : u = k.raised t chain
      · subst isRaised
        rw [Function.update_self, if_pos rfl]
        exact ⟨rfl, rfl⟩
      · rw [Function.update_of_ne isRaised, if_neg isRaised]
        exact ⟨rfl, rfl⟩

theorem BlockingChain.exists_not_raised {u : TaskId} {rest : List TaskId}
    (blocking : BlockingChain k (t :: u :: rest)) :
    ∃ v ∈ t :: u :: rest, v ≠ k.raised t (u :: rest) := by
  have different := blocking.last_ne_first
  have last : (t :: u :: rest).getLast (List.cons_ne_nil t (u :: rest)) =
      (u :: rest).getLast (List.cons_ne_nil u rest) :=
    List.getLast_cons (List.cons_ne_nil u rest)
  unfold Kernel.raised
  dsimp only
  rw [last]
  split
  · exact ⟨t, List.mem_cons_self, different.symm⟩
  · exact ⟨_, List.mem_cons_of_mem t (List.getLast_mem _), different⟩

/-- The priority of the task that blocks arrives at every task of the chain if
and only if the holder of the mutex is the whole chain. -/
theorem inherit_propagates_iff (requests : Requests k m t)
    (consistent : Consistent none k lists)
    (blocking : BlockingChain k (t :: chain))
    (lower : ∀ u ∈ t :: chain,
      (k.tcb k.tnCurrRunTask).priority < (k.tcb u).priority)
    (waits : timeout ≠ 0) (enough : (t :: chain).length ≤ fuel) :
    ∃ k' lists', tnMutexLock fuel k (some m) timeout = some (k', .block) ∧
      Consistent none k' lists' ∧
      (Propagated k k' lists' (t :: chain) (k.tcb k.tnCurrRunTask).priority ↔
        chain = []) := by
  obtain ⟨k', lists', run, after, effect⟩ :=
    requests.lock consistent blocking lower waits enough
  refine ⟨k', lists', run, after, fun propagated => ?_, ?_⟩
  · cases chain with
    | nil => rfl
    | cons u rest =>
        obtain ⟨v, member, leftOut⟩ := blocking.exists_not_raised
        have raised := propagated.raised v member
        rw [(effect v).1, if_neg leftOut] at raised
        exact absurd raised (Nat.ne_of_gt (lower v member))
  · rintro rfl
    have alone : k.raised t [] = t := ite_self t
    rw [alone] at effect
    have isTask := (blocking.getLast_unblocked (List.cons_ne_nil t [])).2
    have raised : (k'.tcb t).priority = (k.tcb k.tnCurrRunTask).priority := by
      rw [(effect t).1, if_pos rfl]
    refine ⟨fun u member => ?_, fun u member ready => ?_, fun u outside => ?_⟩
    · rwa [List.mem_singleton.mp member]
    · rw [List.mem_singleton.mp member] at ready ⊢
      exact (after.tasks.home t _).mpr ⟨by simp, Tcb.home_eq_ready.mpr
        ⟨(effect t).2.trans (isTask_iff.mp isTask), ready, raised⟩⟩
    · rw [(effect u).1, if_neg (by simpa using outside)]

end Lock

end UsbBulk
