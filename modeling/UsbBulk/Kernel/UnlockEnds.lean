import UsbBulk.Kernel.BlockedScan

/-!
# When `do_unlock_mutex` comes to its end

The waiting task that gets a mutex is woken while the running task is still the
holder, so that the priority of the old holder is set in one step.  What is left are
the searches, which need a round for each entry of a list.
-/

namespace UsbBulk

section Parts

variable {rule : Rule} {dropped : Set MutexId} {k : Kernel} {lists : Lists}
variable {locks : Locks} {m : MutexId} {t u : TaskId} {reason : WaitReason}
variable {fuel : Nat}

theorem Guarded.restoreHolder_isSome
    (guarded : Guarded rule dropped k lists locks)
    (indifferent : rule.Indifferent) (isMutex : k.isMutex m = true)
    (held : (k.mutex m).holder = some u) (isTask : k.isTask u = true)
    (ready : (k.tcb u).taskState = .runnable)
    (awake : (k.tcb t).taskWaitReason = .none) (rc : Bool)
    (enough : (lists.task (.wait (.mutex m))).length < fuel) :
    (restoreHolderPriority fuel k t (some (.mutex m)) rc).isSome = true := by
  have kept := guarded.kept
  have base := (kept.consistent.tasks.valid u (isTask_iff.mp isTask)).basePriority
  have least := k.highest_isLeast (k.tcb u).basePriority
    (lists.task (.wait (.mutex m)))
  have small := (least.2 (.inl rfl)).trans_lt base
  have search := findMaxBlockedPriority_eq kept.consistent.scheduled.represents
    (kept.consistent.live (.mutex m) isMutex) (guarded.owns.kind m isMutex).symm
    enough.le (p := (k.tcb u).basePriority)
  generalize k.highest _ _ = p at small search
  have sets : (setCurrentPriority fuel k u p).isSome = true := by
    obtain ⟨rounds, rfl⟩ := Nat.exists_eq_add_of_lt enough
    by_cases same : (k.tcb u).priority = p
    · rw [setCurrentPriority, setPriorityAlong]
      simp [same]
    · obtain ⟨k', changed, lists', run, -⟩ :=
        kept.adjustReady indifferent isTask ready small
      have along : setPriorityAlong u
          ((lists.task (.wait (.mutex m))).length + rounds + 1) k u p = _ :=
        setPriorityAlong_unblocked u (.inl ready) same
      rw [if_pos ready, run] at along
      rw [setCurrentPriority, along]
      rfl
  obtain ⟨⟨k', changed⟩, sets⟩ := Option.isSome_iff_exists.mp sets
  simp only [restoreHolderPriority, getMutexByWaitQueque, Option.bind_eq_bind,
    Option.bind_some, awake, reduceCtorEq, if_false, held, search, sets]
  split <;> rfl

/-- A task that waits for a mutex that the running task holds is woken. -/
theorem Guarded.endWait_isSome (guarded : Guarded rule dropped k lists locks)
    (indifferent : rule.Indifferent)
    (waits : (k.tcb t).mutexWait = some (m, reason))
    (held : (k.mutex m).holder = some u) (isTask : k.isTask u = true)
    (ready : (k.tcb u).taskState = .runnable)
    (blockLinks : Links (Node Unit TaskId))
    (unblocked : Represents blockLinks (fun _ => True)
      fun _ => locks.blocked.erase t)
    (enough : (lists.task (.wait (.mutex m))).length < fuel) :
    (taskWaitComplete fuel { k with
      taskLinks := queueRemoveEntry k.taskLinks (.entry t)
      blockLinks := blockLinks } t).isSome = true := by
  have isMutex := guarded.kept.consistent.mutexWait_isMutex waits
  obtain ⟨k₂, lists₂, complete, woken⟩ :=
    guarded.wake indifferent waits blockLinks unblocked
  have mutex : k₂.mutex = k.mutex := congrArg Footing.mutex woken.footing
  have other : u ≠ t := by
    rintro rfl
    rw [Tcb.mutexWait_of_awake (by simp [ready, TaskState.isWait])] at waits
    cases waits
  have same : k₂.tcb u = k.tcb u := by
    rw [woken.tcb, Function.update_of_ne other]
  have awake : (k₂.tcb t).taskWaitReason = .none := by
    rw [woken.tcb, Function.update_self]
    rfl
  have shorter : (lists₂.task (.wait (.mutex m))).length ≤
      (lists.task (.wait (.mutex m))).length := by
    rw [woken.members]
    exact List.length_erase_le
  rw [complete fuel]
  exact woken.guarded.restoreHolder_isSome indifferent
    ((Kernel.isMutex_congr mutex m).trans isMutex) (by rw [mutex, held])
    (by rw [isTask_iff, same]; exact isTask_iff.mp isTask)
    (by rw [same, ready]) awake _ (by omega)

/-- Nobody waits, or the task that is chosen is barred by no locked mutex. -/
def Kernel.Awards (k : Kernel) (waiting : List TaskId)
    (locked : List MutexId) : Prop :=
  waiting = [] ∨ ∃ w, (k.best (none, tnNumPriority - 1) waiting).1 = some w ∧
    ∀ n ∈ locked, k.bars w n = false

theorem Kernel.not_awards {waiting : List TaskId} {locked : List MutexId}
    {w : TaskId} (best : (k.best (none, tnNumPriority - 1) waiting).1 = some w)
    (barred : ∃ n ∈ locked, k.bars w n = true) : ¬k.Awards waiting locked := by
  rintro (rfl | ⟨v, chosen, enabled⟩)
  · cases best
  · obtain ⟨n, member, bars⟩ := barred
    cases best.symm.trans chosen
    cases bars.symm.trans (enabled n member)

theorem Guarded.awards_after {k₁ : Kernel} {lists₁ : Lists}
    (guarded : Guarded rule dropped k lists locks)
    (running : (k.tcb k.tnCurrRunTask).taskState = .runnable)
    (adjusted : Adjusted rule { k with
      mutexLinks := queueRemoveEntry k.mutexLinks (.entry m)
      lockLinks := queueRemoveEntry k.lockLinks (.entry m) } k₁ lists lists₁)
    (others : ∀ t, t ≠ k.tnCurrRunTask → k₁.tcb t = k.tcb t)
    (locked : List MutexId) :
    k₁.Awards (lists₁.task (.wait (.mutex m))) locked ↔
      k.Awards (lists.task (.wait (.mutex m))) locked := by
  have mutex₁ : k₁.mutex = k.mutex := congrArg Footing.mutex adjusted.footing
  have same : ∀ u ∈ lists.task (.wait (.mutex m)), k₁.tcb u = k.tcb u := by
    intro u member
    obtain ⟨reason, waits⟩ := guarded.kept.consistent.mem_mutex.mp member
    refine others u ?_
    rintro rfl
    rw [Tcb.mutexWait_of_awake (by simp [running, TaskState.isWait])] at waits
    cases waits
  have best₁ : k₁.best (none, tnNumPriority - 1)
      (lists.task (.wait (.mutex m))) = k.best (none, tnNumPriority - 1)
      (lists.task (.wait (.mutex m))) :=
    Kernel.best_congr fun u member => by rw [same u member]
  rw [Kernel.Awards, Kernel.Awards, adjusted.waits, best₁]
  refine or_congr_right (exists_congr fun w => and_congr_right fun best =>
    forall₂_congr fun n _ => ?_)
  rw [Kernel.bars, Kernel.bars, mutex₁,
    same w ((Kernel.best_mem best).resolve_left (by simp))]

theorem Guarded.handOverCeiling_isSome
    (guarded : Guarded rule dropped k lists locks)
    (indifferent : rule.Indifferent) (isMutex : k.isMutex m = true)
    (ceiling : (k.mutex m).attr = tnMutexAttrCeiling)
    (awaited : k.noWaiters (.mutex m) ≠ true)
    (held : (k.mutex m).holder = some u) (isTask : k.isTask u = true)
    (ready : (k.tcb u).taskState = .runnable)
    (awards : k.Awards (lists.task (.wait (.mutex m))) locks.locked)
    (waiters : (lists.task (.wait (.mutex m))).length < fuel)
    (locked : locks.locked.length < fuel)
    (blocked : locks.blocked.length < fuel) :
    (handOver fuel k m).isSome = true := by
  have represents := guarded.kept.consistent.scheduled.represents
  obtain ⟨t, rest, waiting⟩ :=
    guarded.kept.first (show k.hasList (.mutex m) = true from isMutex)
      (eq_false_of_ne_true awaited)
  obtain ⟨w, best, enabled⟩ := awards.resolve_left
    (by rw [waiting]; exact List.cons_ne_nil t rest)
  obtain ⟨reason, waits⟩ := guarded.kept.consistent.mem_mutex.mp
    ((Kernel.best_mem best).resolve_left (by simp))
  have search : highestWaiter k m fuel (.entry t) none (tnNumPriority - 1) =
      some (some w) := by
    rw [highestWaiter_eq represents (show _ = [] ++ t :: rest from waiting)
      (by rw [← waiting]; exact waiters.le), ← waiting, best]
  have alive : liveHead lists.live (.wait (.mutex m)) :=
    guarded.kept.consistent.live (.mutex m) isMutex
  have first := represents.next_head alive
  rw [waiting] at first
  obtain ⟨blkTask, enable, -⟩ :=
    enableLockMutex_eq guarded.owns.lockLinks w locked.le
  have all : (locks.locked.all fun n => !k.bars w n) = true := by
    simpa using enabled
  have remove := removeTaskFromBlockedList_eq
    (k := { k with taskLinks := queueRemoveEntry k.taskLinks (.entry w) })
    guarded.blocks.blockLinks w blocked
  obtain ⟨⟨k₂, woken⟩, wakes⟩ := Option.isSome_iff_exists.mp
    (guarded.endWait_isSome indifferent waits held isTask ready _
      guarded.blocks.blockLinks.removeIfMember_single waiters)
  rw [handOver, if_neg awaited, if_pos ceiling,
    show k.taskLinks.next (.head (.wait (.mutex m))) = .entry t from first]
  simp only [search, Option.bind_eq_bind, Option.bind_some, enable, all,
    if_true, remove, wakes]
  rfl

theorem Guarded.handOverInherit_isSome
    (guarded : Guarded rule dropped k lists locks)
    (indifferent : rule.Indifferent) (isMutex : k.isMutex m = true)
    (inherits : (k.mutex m).attr = tnMutexAttrInherit)
    (awaited : k.noWaiters (.mutex m) ≠ true)
    (held : (k.mutex m).holder = some u) (isTask : k.isTask u = true)
    (ready : (k.tcb u).taskState = .runnable)
    (waiters : (lists.task (.wait (.mutex m))).length < fuel) :
    (handOver fuel k m).isSome = true := by
  have notCeiling : (k.mutex m).attr ≠ tnMutexAttrCeiling := by
    rw [inherits]
    decide
  obtain ⟨t, rest, waiting⟩ :=
    guarded.kept.first (show k.hasList (.mutex m) = true from isMutex)
      (eq_false_of_ne_true awaited)
  obtain ⟨reason, waits⟩ := guarded.kept.consistent.mem_mutex.mp
    (show t ∈ lists.task (.wait (.mutex m)) by simp [waiting])
  obtain ⟨⟨k₂, woken⟩, wakes⟩ := Option.isSome_iff_exists.mp
    (guarded.endWait_isSome indifferent waits held isTask ready k.blockLinks
      (guarded.blocks.without waits notCeiling) waiters)
  rw [handOver, if_neg awaited, if_neg notCeiling, if_pos inherits]
  simp only [(guarded.kept.removeWaiter waiting).1, Option.bind_eq_bind,
    Option.bind_some]
  rw [wakes]
  rfl

theorem Guarded.handOver_isSome (guarded : Guarded rule dropped k lists locks)
    (indifferent : rule.Indifferent) (isMutex : k.isMutex m = true)
    (held : (k.mutex m).holder = some u) (isTask : k.isTask u = true)
    (ready : (k.tcb u).taskState = .runnable)
    (awards : (k.mutex m).attr = tnMutexAttrCeiling →
      k.Awards (lists.task (.wait (.mutex m))) locks.locked)
    (waiters : (lists.task (.wait (.mutex m))).length < fuel)
    (locked : locks.locked.length < fuel)
    (blocked : locks.blocked.length < fuel) :
    (handOver fuel k m).isSome = true := by
  by_cases nobody : k.noWaiters (.mutex m) = true
  · rw [handOver, if_pos nobody]
    rfl
  rcases guarded.owns.kind m isMutex with ceiling | inherits
  · exact guarded.handOverCeiling_isSome indifferent isMutex ceiling nobody held
      isTask ready (awards ceiling) waiters locked blocked
  · exact guarded.handOverInherit_isSome indifferent isMutex inherits nobody held
      isTask ready waiters

end Parts

section Unlock

variable {rule : Rule} {dropped : Set MutexId} {k : Kernel} {lists : Lists}
variable {locks : Locks} {m : MutexId}

/-- With nobody waiting the loop over the blocked tasks has to start at one. -/
theorem Guarded.unlock_isSome_nobody
    (guarded : Guarded rule dropped k lists locks)
    (indifferent : rule.Indifferent)
    (running : (k.tcb k.tnCurrRunTask).taskState = .runnable)
    (isMutex : k.isMutex m = true) (listed : m ∉ dropped)
    (held : (k.mutex m).holder = some k.tnCurrRunTask)
    (nobody : k.noWaiters (.mutex m) = true)
    (blocked : (k.mutex m).attr = tnMutexAttrCeiling → locks.blocked ≠ []) :
    ∃ enough, ∀ fuel, enough ≤ fuel → (doUnlockMutex fuel k m).isSome = true := by
  rcases guarded.owns.kind m isMutex with ceiling | inherits
  · obtain ⟨enough, starts⟩ := guarded.scanStart_nobody indifferent running
      isMutex ceiling listed held nobody
    obtain ⟨rounds, scans⟩ := (guarded.scansBlocked_iff indifferent running
      isMutex ceiling listed held nobody).mpr (blocked ceiling)
    refine ⟨max enough rounds, fun fuel more => ?_⟩
    obtain ⟨start, needSwitch, _, _, isStart, -⟩ :=
      starts fuel ((le_max_left ..).trans more)
    rw [doUnlockMutex_scan isStart]
    exact (scans fuel ((le_max_right ..).trans more) _ _ _ isStart).ends
  · have unlinked := guarded.drop isMutex listed held
    refine ⟨((locks.drop m).owned k.tnCurrRunTask).length +
      (lists.behind (locks.drop m) k.tnCurrRunTask).length + 1,
      fun fuel enough => ?_⟩
    obtain ⟨k₁, lowered, lists₁, first, adjusted, -⟩ :=
      unlinked.unlockPriority_some indifferent running (.inl inherits)
        (Nat.lt_of_succ_le enough) rfl
    have mutex₁ : k₁.mutex = k.mutex :=
      congrArg Footing.mutex adjusted.footing
    have nobody₁ : k₁.noWaiters (.mutex m) = true :=
      (adjusted.noWaiters unlinked.kept isMutex).trans nobody
    have notCeiling : (k₁.mutex m).attr ≠ tnMutexAttrCeiling := by
      rw [mutex₁, inherits]
      decide
    rw [doUnlockMutex_nobody first nobody₁]
    simp [notCeiling]

/-- With nobody waiting and no task blocked it never comes to its end. -/
theorem Guarded.unlock_stuck (guarded : Guarded rule dropped k lists locks)
    (indifferent : rule.Indifferent)
    (running : (k.tcb k.tnCurrRunTask).taskState = .runnable)
    (isMutex : k.isMutex m = true)
    (ceiling : (k.mutex m).attr = tnMutexAttrCeiling) (listed : m ∉ dropped)
    (held : (k.mutex m).holder = some k.tnCurrRunTask)
    (nobody : k.noWaiters (.mutex m) = true) (empty : locks.blocked = []) :
    ∃ enough, ∀ fuel, enough ≤ fuel → doUnlockMutex fuel k m = none := by
  obtain ⟨enough, starts⟩ := guarded.scanStart_nobody indifferent running
    isMutex ceiling listed held nobody
  refine ⟨enough, fun fuel more => ?_⟩
  obtain ⟨start, needSwitch, _, _, isStart, after⟩ := starts fuel more
  have first := after.blocks.blockLinks.next_head_single
  rw [show (locks.drop m).blocked = [] from empty] at first
  have first : start.blockLinks.next (.head ()) = .head () := first
  rw [doUnlockMutex_scan isStart, first]
  cases fuel <;> rfl

theorem Guarded.unlock_isSome_awaited
    (guarded : Guarded rule dropped k lists locks)
    (indifferent : rule.Indifferent)
    (running : (k.tcb k.tnCurrRunTask).taskState = .runnable)
    (isMutex : k.isMutex m = true) (listed : m ∉ dropped)
    (held : (k.mutex m).holder = some k.tnCurrRunTask)
    (awaited : lists.task (.wait (.mutex m)) ≠ [])
    (awards : (k.mutex m).attr = tnMutexAttrCeiling →
      k.Awards (lists.task (.wait (.mutex m))) (locks.locked.erase m)) :
    ∃ enough, ∀ fuel, enough ≤ fuel → (doUnlockMutex fuel k m).isSome = true := by
  have unlinked := guarded.drop isMutex listed held
  refine ⟨((locks.drop m).owned k.tnCurrRunTask).length +
      (lists.behind (locks.drop m) k.tnCurrRunTask).length +
      (lists.task (.wait (.mutex m))).length + (locks.drop m).locked.length +
      locks.blocked.length + 1, fun fuel enough => ?_⟩
  obtain ⟨k₁, lowered, lists₁, first, adjusted, -⟩ :=
    unlinked.unlockPriority_some indifferent running
      (guarded.owns.kind m isMutex).symm
      (show ((locks.drop m).owned k.tnCurrRunTask).length +
        (lists.behind (locks.drop m) k.tnCurrRunTask).length < fuel by omega) rfl
  have others := unlockPriority_others unlinked.kept indifferent running fuel m
    (k₁, lowered) first
  have mutex₁ : k₁.mutex = k.mutex := congrArg Footing.mutex adjusted.footing
  have isMutex₁ := (Kernel.isMutex_congr mutex₁ m).trans isMutex
  have waiting₁ : lists₁.task (.wait (.mutex m)) =
      lists.task (.wait (.mutex m)) := adjusted.waits _
  have guarded₁ := unlinked.adjust adjusted
  obtain ⟨p, tcb₁⟩ := adjusted.tcb k.tnCurrRunTask
  have ready₁ : (k₁.tcb k.tnCurrRunTask).taskState = .runnable := by
    rw [tcb₁]
    exact running
  have isTask₁ : k₁.isTask k.tnCurrRunTask = true := by
    rw [isTask_iff, tcb₁]
    exact guarded.kept.curr
  have awards₁ : (k₁.mutex m).attr = tnMutexAttrCeiling →
      k₁.Awards (lists₁.task (.wait (.mutex m))) (locks.drop m).locked := by
    rw [mutex₁]
    exact fun ceiling => (guarded.awards_after running adjusted others _).mpr
      (awards ceiling)
  obtain ⟨⟨k₂, woken, hiPriTask⟩, gives⟩ := Option.isSome_iff_exists.mp
    (guarded₁.handOver_isSome indifferent isMutex₁ (u := k.tnCurrRunTask)
      (by rw [mutex₁, held]) isTask₁ ready₁ awards₁
      (show (lists₁.task (.wait (.mutex m))).length < fuel by
        rw [waiting₁]; omega) (by omega)
      (show locks.blocked.length < fuel by omega))
  have handed : ∃ lists₂ dropped₂ locks₂,
      Guarded rule dropped₂ k₂ lists₂ locks₂ ∧
        HandedOver m (insert m dropped) k₁ k₂ lists₁ (locks.drop m) hiPriTask
          dropped₂ locks₂ := by
    rcases guarded₁.owns.kind m isMutex₁ with ceiling | inherits
    · exact guarded₁.handOverCeiling indifferent (Set.mem_insert m dropped)
        isMutex₁ ceiling fuel _ gives
    · exact guarded₁.handOverInherit indifferent (Set.mem_insert m dropped)
        isMutex₁ inherits fuel _ gives
  obtain ⟨_, _, _, -, handed⟩ := handed
  have awarded : (k₂.mutex m).holder ≠ none := by
    cases handed with
    | freed nobody =>
        obtain ⟨w, rest, waiting⟩ := List.exists_cons_of_ne_nil awaited
        obtain ⟨reason, waits⟩ := guarded₁.kept.consistent.mem_mutex.mp
          (show w ∈ lists₁.task (.wait (.mutex m)) by simp [waiting₁, waiting])
        exact absurd waits (nobody w reason)
    | handed w waited mutex =>
        rw [mutex, Function.update_self]
        exact Option.some_ne_none w
    | denied w ceiling best barred mutex =>
        rw [mutex, mutex₁, held]
        exact Option.some_ne_none _
  simp [doUnlockMutex, first, gives, awarded]

end Unlock

end UsbBulk
