import Mathlib.Order.BooleanAlgebra.Set
import UsbBulk.Kernel.Inherit

/-!
# Who holds which mutex

The lists of the mutexes that each task holds, of the locked mutexes with a
ceiling and of the blocked tasks, and their agreement with the holder fields and
with what the control blocks say.  A mutex that `do_unlock_mutex` has unlinked is
*dropped*: it is in no list, although its holder field still names a task, until
the function gives it away.
-/

namespace UsbBulk

/-- The mutex that a task waits for, and the reason of the wait. -/
def Tcb.mutexWait (tcb : Tcb) : Option (MutexId × WaitReason) :=
  if tcb.idTask = tnIdTask ∧ tcb.taskState.isWait = true then
    (getMutexByWaitQueque tcb.pwaitQueue).map fun m => (m, tcb.taskWaitReason)
  else none

/-- The lists of mutexes and the list of blocked tasks. -/
structure Locks where
  owned : TaskId → List MutexId
  locked : List MutexId
  blocked : List TaskId

/-- The mutexes agree with the lists that they are linked in. -/
structure Owns (dropped : Set MutexId) (k : Kernel) (locks : Locks) :
    Prop where
  mutexLinks : Represents k.mutexLinks (fun t => k.isTask t = true)
    locks.owned
  lockLinks : Represents k.lockLinks (fun _ => True) fun _ => locks.locked
  owned : ∀ t m, m ∈ locks.owned t ↔
    m ∉ dropped ∧ k.isMutex m = true ∧ (k.mutex m).holder = some t
  locked : ∀ m, m ∈ locks.locked ↔
    m ∉ dropped ∧ k.isMutex m = true ∧
      (k.mutex m).attr = tnMutexAttrCeiling ∧ (k.mutex m).holder ≠ none
  kind : ∀ m, k.isMutex m = true →
    (k.mutex m).attr = tnMutexAttrCeiling ∨
      (k.mutex m).attr = tnMutexAttrInherit
  alone : ∀ m, k.isMutex m = true → (k.mutex m).attr = tnMutexAttrInherit →
    k.lockLinks.Alone (.entry m)
  holder : ∀ m t, k.isMutex m = true → (k.mutex m).holder = some t →
    k.isTask t = true
  dropped : ∀ m ∈ dropped, k.isMutex m = true ∧ (k.mutex m).holder ≠ none

/-- The tasks that a ceiling blocks are in the list of blocked tasks. -/
structure Blocks (k : Kernel) (locks : Locks) : Prop where
  blockLinks : Represents k.blockLinks (fun _ => True) fun _ => locks.blocked
  blocked : ∀ t, t ∈ locks.blocked ↔
    ∃ m, (k.tcb t).mutexWait = some (m, .mutexCBlk)
  ceiling : ∀ t m, (k.tcb t).mutexWait = some (m, .mutexCBlk) →
    (k.mutex m).attr = tnMutexAttrCeiling
  blkTask : ∀ t u, k.isTask t = true → (k.tcb t).blkTask = some u →
    k.isTask u = true

section Waits

variable {tcb a b : Tcb} {m : MutexId} {reason : WaitReason}
variable {detached : Option TaskId} {k : Kernel} {lists : Lists} {t : TaskId}

theorem getMutexByWaitQueque_eq_some {queue : Option WaitList} :
    getMutexByWaitQueque queue = some m ↔ queue = some (.mutex m) := by
  cases queue with
  | none => simp [getMutexByWaitQueque]
  | some list => cases list <;> simp [getMutexByWaitQueque]

namespace Tcb

theorem mutexWait_eq_some : tcb.mutexWait = some (m, reason) ↔
    tcb.idTask = tnIdTask ∧ tcb.taskState.isWait = true ∧
      tcb.pwaitQueue = some (.mutex m) ∧ tcb.taskWaitReason = reason := by
  unfold mutexWait
  split
  · next waits => simp [getMutexByWaitQueque_eq_some, waits]
  · next none =>
      refine ⟨fun waits => (Option.some_ne_none _ waits.symm).elim,
        fun waits => ?_⟩
      exact absurd ⟨waits.1, waits.2.1⟩ none

theorem mutexWait_of_awake (awake : tcb.taskState.isWait = false) :
    tcb.mutexWait = none := by
  simp [mutexWait, awake]

theorem mutexWait_of_queue (queue : getMutexByWaitQueque tcb.pwaitQueue = none) :
    tcb.mutexWait = none := by
  simp [mutexWait, queue]

theorem mutexWait_of_stranger (stranger : tcb.idTask ≠ tnIdTask) :
    tcb.mutexWait = none := by
  simp [mutexWait, stranger]

theorem mutexWait_congr (idTask : b.idTask = a.idTask)
    (isWait : b.taskState.isWait = a.taskState.isWait)
    (queue : b.pwaitQueue = a.pwaitQueue)
    (reason : b.taskWaitReason = a.taskWaitReason) :
    b.mutexWait = a.mutexWait := by
  simp only [mutexWait, idTask, isWait, queue, reason]

theorem SamePlace.mutexWait (same : SamePlace a b) :
    b.mutexWait = a.mutexWait :=
  mutexWait_congr same.idTask (by rw [same.taskState]) same.pwaitQueue
    same.taskWaitReason

/-- A wait for anything else is no wait for a mutex. -/
theorem Valid.mutexWait (valid : tcb.Valid)
    (waiting : tcb.taskState.isWait = true)
    (noMutex : tcb.taskWaitReason.isMutex = false) : tcb.mutexWait = none := by
  refine mutexWait_of_queue ?_
  have fits := valid.waiting waiting
  revert fits noMutex
  cases tcb.pwaitQueue with
  | none => exact fun _ _ => rfl
  | some list =>
      cases list <;> cases tcb.taskWaitReason <;>
        simp [WaitReason.fits, WaitReason.isMutex, getMutexByWaitQueque]

theorem Valid.isMutex (valid : tcb.Valid)
    (waits : tcb.mutexWait = some (m, reason)) : reason.isMutex = true := by
  obtain ⟨_, waiting, queue, rfl⟩ := mutexWait_eq_some.mp waits
  have fits := valid.waiting waiting
  rw [queue] at fits
  revert fits
  cases tcb.taskWaitReason <;> simp [WaitReason.fits, WaitReason.isMutex]

end Tcb

/-- The wait list of a mutex holds the tasks that wait for it. -/
theorem Consistent.mem_mutex (consistent : Consistent none k lists) :
    t ∈ lists.task (.wait (.mutex m)) ↔
      ∃ reason, (k.tcb t).mutexWait = some (m, reason) := by
  rw [consistent.tasks.home, Tcb.home_eq_wait]
  simp [Tcb.mutexWait_eq_some]

theorem Consistent.mutexWait_isMutex (consistent : Consistent none k lists)
    (waits : (k.tcb t).mutexWait = some (m, reason)) :
    k.isMutex m = true :=
  consistent.waiters (.mutex m)
    (List.ne_nil_of_mem (consistent.mem_mutex.mpr ⟨reason, waits⟩))

end Waits

/-! ## Changes that concern neither mutexes nor blocked tasks -/

section Frames

variable {dropped : Set MutexId} {k k' : Kernel} {locks : Locks}

theorem Kernel.isMutex_congr (mutex : k'.mutex = k.mutex) (m : MutexId) :
    k'.isMutex m = k.isMutex m := by
  rw [Kernel.isMutex, Kernel.isMutex, mutex]

/-- A control block is replaced by one of the same task. -/
theorem Kernel.isTask_update {t : TaskId} {new : Tcb}
    (tcb : k'.tcb = Function.update k.tcb t new)
    (sameId : new.idTask = (k.tcb t).idTask) (u : TaskId) :
    k'.isTask u = k.isTask u := by
  rw [Kernel.isTask, Kernel.isTask, tcb]
  by_cases same : u = t
  · rw [same, Function.update_self, sameId]
  · rw [Function.update_of_ne same]

theorem Owns.frame (owns : Owns dropped k locks) (mutex : k'.mutex = k.mutex)
    (mutexLinks : k'.mutexLinks = k.mutexLinks)
    (lockLinks : k'.lockLinks = k.lockLinks)
    (tasks : ∀ t, k'.isTask t = k.isTask t) : Owns dropped k' locks := by
  have isMutex := Kernel.isMutex_congr mutex
  constructor
  · rw [mutexLinks, show (fun t => k'.isTask t = true) =
      fun t => k.isTask t = true from funext fun t => by rw [tasks t]]
    exact owns.mutexLinks
  · rw [lockLinks]
    exact owns.lockLinks
  · intro t m
    rw [owns.owned, isMutex, mutex]
  · intro m
    rw [owns.locked, isMutex, mutex]
  · intro m
    rw [isMutex, mutex]
    exact owns.kind m
  · intro m
    rw [isMutex, mutex, lockLinks]
    exact owns.alone m
  · intro m t
    rw [isMutex, mutex, tasks]
    exact owns.holder m t
  · intro m
    rw [isMutex, mutex]
    exact owns.dropped m

theorem Blocks.frame (blocks : Blocks k locks)
    (mutex : ∀ t m reason, (k.tcb t).mutexWait = some (m, reason) →
      (k'.mutex m).attr = (k.mutex m).attr)
    (blockLinks : k'.blockLinks = k.blockLinks)
    (waits : ∀ t, (k'.tcb t).mutexWait = (k.tcb t).mutexWait)
    (blkTask : ∀ t u, k'.isTask t = true → (k'.tcb t).blkTask = some u →
      k'.isTask u = true) : Blocks k' locks := by
  constructor
  · rw [blockLinks]
    exact blocks.blockLinks
  · intro t
    rw [waits]
    exact blocks.blocked t
  · intro t m blocked
    rw [waits] at blocked
    rw [mutex t m _ blocked]
    exact blocks.ceiling t m blocked
  · exact blkTask

theorem Blocks.of_locks (blocks : Blocks k locks) {owned : TaskId → List MutexId}
    {locked : List MutexId} :
    Blocks k { locks with owned := owned, locked := locked } :=
  ⟨blocks.blockLinks, blocks.blocked, blocks.ceiling, blocks.blkTask⟩

theorem Owns.of_locks (owns : Owns dropped k locks) {blocked : List TaskId} :
    Owns dropped k { locks with blocked := blocked } :=
  ⟨owns.mutexLinks, owns.lockLinks, owns.owned, owns.locked, owns.kind,
    owns.alone, owns.holder, owns.dropped⟩

end Frames

/-! ## Single changes -/

section Changes

variable {dropped : Set MutexId} {k k' : Kernel} {locks : Locks}
variable {m : MutexId} {t : TaskId}

/-- No list holds a mutex that is free or has been dropped. -/
theorem Owns.absent (owns : Owns dropped k locks)
    (free : m ∈ dropped ∨ (k.mutex m).holder = none) :
    (∀ t, m ∉ locks.owned t) ∧ m ∉ locks.locked := by
  constructor
  · intro t member
    obtain ⟨kept, _, held⟩ := (owns.owned t m).mp member
    rcases free with out | free
    · exact kept out
    · cases free.symm.trans held
  · intro member
    obtain ⟨kept, _, _, held⟩ := (owns.locked m).mp member
    rcases free with out | free
    · exact kept out
    · exact held free

/-- The lists after a task has been made the holder of a mutex. -/
def Locks.take (locks : Locks) (t : TaskId) (m : MutexId) (ceiling : Bool) :
    Locks :=
  { locks with
    owned := pushLast locks.owned t m
    locked := if ceiling then locks.locked ++ [m] else locks.locked }

/-- The lists after a mutex has been unlinked. -/
def Locks.drop (locks : Locks) (m : MutexId) : Locks :=
  { locks with
    owned := UsbBulk.drop locks.owned m
    locked := locks.locked.erase m }

theorem Owns.take (owns : Owns dropped k locks) (isMutex : k.isMutex m = true)
    (free : m ∈ dropped ∨ (k.mutex m).holder = none)
    (isTask : k.isTask t = true)
    (mutex : k'.mutex = Function.update k.mutex m
      { k.mutex m with holder := some t })
    (mutexLinks : k'.mutexLinks =
      queueAddTail k.mutexLinks (.head t) (.entry m))
    {ceiling : Bool}
    (attr : ceiling = true ↔ (k.mutex m).attr = tnMutexAttrCeiling)
    (lockLinks : k'.lockLinks = if ceiling then
      queueAddTail k.lockLinks (.head ()) (.entry m) else k.lockLinks)
    (tasks : ∀ t, k'.isTask t = k.isTask t) :
    Owns (dropped \ {m}) k' (locks.take t m ceiling) := by
  obtain ⟨unowned, unlocked⟩ := owns.absent free
  have isMutex' : ∀ m, k'.isMutex m = k.isMutex m := by
    intro other
    rw [Kernel.isMutex, Kernel.isMutex, mutex]
    by_cases same : other = m
    · subst same
      simp
    · simp [same]
  have attrs : ∀ m, (k'.mutex m).attr = (k.mutex m).attr := by
    intro other
    rw [mutex]
    by_cases same : other = m
    · subst same
      simp
    · simp [same]
  have here : (k'.mutex m).holder = some t := by
    rw [mutex, Function.update_self]
  have there : ∀ other, other ≠ m →
      (k'.mutex other).holder = (k.mutex other).holder := by
    intro other different
    rw [mutex, Function.update_of_ne different]
  constructor
  · rw [mutexLinks, show (fun t => k'.isTask t = true) =
      fun t => k.isTask t = true from funext fun t => by rw [tasks t]]
    exact owns.mutexLinks.addTail isTask unowned
  · rw [lockLinks]
    cases ceiling with
    | true => exact owns.lockLinks.addTail_single unlocked
    | false => exact owns.lockLinks
  · intro u other
    rw [isMutex', Locks.take, mem_pushLast]
    by_cases same : other = m
    · subst same
      simp [here, unowned, isMutex, eq_comm]
    · rw [owns.owned]
      simp [same, there other same]
  · intro other
    rw [isMutex', attrs]
    have listed : other ∈ (locks.take t m ceiling).locked ↔
        other ∈ locks.locked ∨ (ceiling = true ∧ other = m) := by
      cases ceiling <;> simp [Locks.take]
    rw [listed]
    by_cases same : other = m
    · subst same
      simp [here, unlocked, isMutex, attr]
    · rw [owns.locked]
      simp [same, there other same]
  · intro other
    rw [isMutex', attrs]
    exact owns.kind other
  · intro other isMutex inherit
    rw [isMutex'] at isMutex
    rw [attrs] at inherit
    have alone := owns.alone other isMutex inherit
    rw [lockLinks]
    cases ceiling with
    | false => exact alone
    | true =>
        have different : other ≠ m := by
          rintro rfl
          have both := (attr.mp rfl).symm.trans inherit
          exact absurd both (by decide)
        refine owns.lockLinks.addTail_alone_single different ?_ alone
        intro member
        have ceiling := ((owns.locked other).mp member).2.2.1
        exact absurd (ceiling.symm.trans inherit) (by decide)
  · intro other u isMutex held
    rw [isMutex'] at isMutex
    rw [tasks]
    by_cases same : other = m
    · subst same
      cases here.symm.trans held
      exact isTask
    · rw [there other same] at held
      exact owns.holder other u isMutex held
  · rintro other ⟨out, different⟩
    rw [isMutex', there other different]
    exact owns.dropped other out

/-- The first step of `do_unlock_mutex`: the mutex leaves its two lists. -/
theorem Owns.drop (owns : Owns dropped k locks) (isMutex : k.isMutex m = true)
    (listed : m ∉ dropped) (held : (k.mutex m).holder = some t) :
    Owns (insert m dropped) { k with
      mutexLinks := queueRemoveEntry k.mutexLinks (.entry m)
      lockLinks := queueRemoveEntry k.lockLinks (.entry m) }
      (locks.drop m) := by
  have owned : m ∈ locks.owned t :=
    (owns.owned t m).mpr ⟨listed, isMutex, held⟩
  have others : ∀ other, other ∈ locks.locked.erase m ↔
      other ≠ m ∧ other ∈ locks.locked :=
    fun other => (owns.lockLinks.nodup ()).mem_erase_iff
  -- The entry of a mutex without a ceiling is only linked to itself.
  have unlinked : Represents (queueRemoveEntry k.lockLinks (.entry m))
        (fun _ => True) (fun _ => locks.locked.erase m) ∧
      ∀ other, k.isMutex other = true →
        (k.mutex other).attr = tnMutexAttrInherit →
        (queueRemoveEntry k.lockLinks (.entry m)).Alone (.entry other) := by
    rcases owns.kind m isMutex with ceiling | inherit
    · have member : m ∈ locks.locked :=
        (owns.locked m).mpr ⟨listed, isMutex, ceiling, by simp [held]⟩
      refine ⟨owns.lockLinks.removeEntry_single member,
        fun other isMutex inherit => ?_⟩
      refine owns.lockLinks.removeEntry_alone_single member ?_
        (owns.alone other isMutex inherit)
      intro member
      have ceiling := ((owns.locked other).mp member).2.2.1
      exact absurd (ceiling.symm.trans inherit) (by decide)
    · have absent : m ∉ locks.locked := by
        intro member
        have ceiling := ((owns.locked m).mp member).2.2.1
        exact absurd (ceiling.symm.trans inherit) (by decide)
      rw [queueRemoveEntry_eq, (owns.alone m isMutex inherit).unlink,
        List.erase_of_not_mem absent]
      exact ⟨owns.lockLinks, owns.alone⟩
  refine ⟨owns.mutexLinks.removeEntry owned, unlinked.1, ?_, ?_, owns.kind,
    unlinked.2, owns.holder, ?_⟩
  · intro u other
    rw [Locks.drop, owns.mutexLinks.mem_drop, owns.owned]
    simp [Kernel.isMutex, and_assoc]
  · intro other
    rw [Locks.drop, others, owns.locked]
    simp [Kernel.isMutex, and_assoc]
  · rintro other (rfl | out)
    · exact ⟨isMutex, by simp [held]⟩
    · exact owns.dropped other out

theorem Owns.free (owns : Owns dropped k locks) (out : m ∈ dropped) :
    Owns (dropped \ {m}) (k.setMutex m { k.mutex m with holder := none })
      locks := by
  obtain ⟨unowned, unlocked⟩ := owns.absent (.inl out)
  have isMutex : ∀ other, (k.setMutex m
      { k.mutex m with holder := none }).isMutex other = k.isMutex other := by
    intro other
    by_cases same : other = m
    · subst same
      simp [Kernel.isMutex, Kernel.setMutex]
    · simp [Kernel.isMutex, Kernel.setMutex, same]
  have attr : ∀ other, ((k.setMutex m
      { k.mutex m with holder := none }).mutex other).attr =
        (k.mutex other).attr := by
    intro other
    by_cases same : other = m
    · subst same
      simp [Kernel.setMutex]
    · simp [Kernel.setMutex, same]
  have here : ((k.setMutex m { k.mutex m with holder := none }).mutex m).holder
      = none := by
    simp [Kernel.setMutex]
  have there : ∀ other, other ≠ m →
      ((k.setMutex m { k.mutex m with holder := none }).mutex other).holder =
        (k.mutex other).holder := by
    intro other different
    simp [Kernel.setMutex, different]
  refine ⟨owns.mutexLinks, owns.lockLinks, fun u other => ?_, fun other => ?_,
    fun other => ?_, fun other => ?_, fun other u => ?_,
    fun other still => ?_⟩
  · rw [isMutex]
    by_cases same : other = m
    · subst same
      simp [here, unowned u]
    · rw [there other same, owns.owned]
      simp [same]
  · rw [isMutex, attr]
    by_cases same : other = m
    · subst same
      simp [here, unlocked]
    · rw [there other same, owns.locked]
      simp [same]
  · rw [isMutex, attr]
    exact owns.kind other
  · rw [isMutex, attr]
    exact owns.alone other
  · rw [isMutex]
    intro known held
    by_cases same : other = m
    · subst same
      cases here.symm.trans held
    · rw [there other same] at held
      exact owns.holder other u known held
  · obtain ⟨out, different⟩ := still
    rw [isMutex, there other different]
    exact owns.dropped other out

/-- One control block is replaced, and with it the list of blocked tasks. -/
theorem Blocks.replace (blocks : Blocks k locks) {new : Tcb}
    {blocked : List TaskId} (mutex : k'.mutex = k.mutex)
    (tcb : k'.tcb = Function.update k.tcb t new)
    (stays : k.isTask t = true → new.idTask = tnIdTask)
    (blockLinks : Represents k'.blockLinks (fun _ => True) fun _ => blocked)
    (here : t ∈ blocked ↔ ∃ m, new.mutexWait = some (m, .mutexCBlk))
    (there : ∀ u, u ≠ t → (u ∈ blocked ↔ u ∈ locks.blocked))
    (ceiling : ∀ m, new.mutexWait = some (m, .mutexCBlk) →
      (k.mutex m).attr = tnMutexAttrCeiling)
    (blkTask : ∀ u, new.idTask = tnIdTask → new.blkTask = some u →
      k.isTask u = true) :
    Blocks k' { locks with blocked := blocked } := by
  have self : k'.tcb t = new := by rw [tcb, Function.update_self]
  have other : ∀ u, u ≠ t → k'.tcb u = k.tcb u := by
    intro u different
    rw [tcb, Function.update_of_ne different]
  have tasks : ∀ u, k.isTask u = true → k'.isTask u = true := by
    intro u isTask
    rw [isTask_iff]
    by_cases same : u = t
    · subst same
      rw [self]
      exact stays isTask
    · rw [other u same]
      exact isTask_iff.mp isTask
  refine ⟨blockLinks, fun u => ?_, fun u m => ?_, fun u v isTask => ?_⟩
  · by_cases same : u = t
    · subst same
      rw [self]
      exact here
    · rw [other u same]
      exact (there u same).trans (blocks.blocked u)
  · rw [mutex]
    by_cases same : u = t
    · rw [same, self]
      exact ceiling m
    · rw [other u same]
      exact blocks.ceiling u m
  · rw [isTask_iff] at isTask
    by_cases same : u = t
    · rw [same, self] at isTask ⊢
      exact fun stored => tasks v (blkTask v isTask stored)
    · rw [other u same] at isTask ⊢
      exact fun stored =>
        tasks v (blocks.blkTask u v (isTask_iff.mpr isTask) stored)

/-- A task waits for nothing that has a ceiling in the way. -/
theorem Blocks.not_mem (blocks : Blocks k locks)
    (not : ∀ m, (k.tcb t).mutexWait ≠ some (m, .mutexCBlk)) :
    t ∉ locks.blocked := fun member => by
  obtain ⟨m, blocked⟩ := (blocks.blocked t).mp member
  exact not m blocked

/-- Only tasks that wait for a mutex with a ceiling are blocked. -/
theorem Blocks.without (blocks : Blocks k locks) {reason : WaitReason}
    (waits : (k.tcb t).mutexWait = some (m, reason))
    (notCeiling : (k.mutex m).attr ≠ tnMutexAttrCeiling) :
    Represents k.blockLinks (fun _ => True) fun _ => locks.blocked.erase t := by
  have unlisted : t ∉ locks.blocked := by
    refine blocks.not_mem fun n blocked => notCeiling ?_
    obtain ⟨rfl, -⟩ := Prod.mk.inj (Option.some.inj (waits.symm.trans blocked))
    exact blocks.ceiling t m blocked
  rw [List.erase_of_not_mem unlisted]
  exact blocks.blockLinks

theorem Owns.create (owns : Owns dropped k locks) {new : Mutex}
    (fresh : k.isMutex m = false) (free : new.holder = none)
    (kind : new.attr = tnMutexAttrCeiling ∨ new.attr = tnMutexAttrInherit)
    (mutex : k'.mutex = Function.update k.mutex m new)
    (mutexLinks : k'.mutexLinks = queueReset k.mutexLinks (.entry m))
    (lockLinks : k'.lockLinks = queueReset k.lockLinks (.entry m))
    (tasks : ∀ t, k'.isTask t = k.isTask t) : Owns dropped k' locks := by
  have unowned : ∀ t, m ∉ locks.owned t := by
    intro t member
    have isMutex := ((owns.owned t m).mp member).2.1
    exact absurd (fresh.symm.trans isMutex) (by decide)
  have unlocked : m ∉ locks.locked := by
    intro member
    have isMutex := ((owns.locked m).mp member).2.1
    exact absurd (fresh.symm.trans isMutex) (by decide)
  have self : k'.mutex m = new := by rw [mutex, Function.update_self]
  have other : ∀ other, other ≠ m → k'.mutex other = k.mutex other := by
    intro other different
    rw [mutex, Function.update_of_ne different]
  have isMutex : ∀ other, other ≠ m → k'.isMutex other = k.isMutex other := by
    intro u different
    rw [Kernel.isMutex, Kernel.isMutex, other u different]
  constructor
  · rw [mutexLinks, show (fun t => k'.isTask t = true) =
      fun t => k.isTask t = true from funext fun t => by rw [tasks t]]
    exact owns.mutexLinks.resetEntry unowned
  · rw [lockLinks]
    exact owns.lockLinks.resetEntry fun _ => unlocked
  · intro u n
    by_cases same : n = m
    · subst same
      simp [self, free, unowned]
    · rw [isMutex n same, other n same]
      exact owns.owned u n
  · intro n
    by_cases same : n = m
    · subst same
      simp [self, free, unlocked]
    · rw [isMutex n same, other n same]
      exact owns.locked n
  · intro n
    by_cases same : n = m
    · rw [same, self]
      exact fun _ => kind
    · rw [isMutex n same, other n same]
      exact owns.kind n
  · intro n known inherit
    rw [lockLinks, queueReset_eq]
    by_cases same : n = m
    · subst same
      exact Links.alone_isolate _ _
    · rw [isMutex n same] at known
      rw [other n same] at inherit
      exact (owns.alone n known inherit).isolate _
  · intro n u
    rw [tasks]
    by_cases same : n = m
    · rw [same, self, free]
      exact fun _ held => by cases held
    · rw [isMutex n same, other n same]
      exact owns.holder n u
  · intro n out
    have known := owns.dropped n out
    have same : n ≠ m := by
      rintro rfl
      exact absurd (fresh.symm.trans known.1) (by decide)
    rwa [isMutex n same, other n same]

end Changes

end UsbBulk
