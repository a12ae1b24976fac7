import UsbBulk.Kernel.Propagation

/-!
# The services of mutexes with priority inheritance

What the creation, the lock and the unlock do to the owners of mutexes and to the
tasks that wait for them.  All of them keep the invariant of runs with mutexes.
-/

namespace UsbBulk

section Steps

variable {rule : Rule} {dropped : Set MutexId} {k k' : Kernel}
variable {lists : Lists} {locks : Locks} {m : MutexId} {t : TaskId}

theorem Kept.setMutex {detached : Option TaskId}
    (kept : Kept rule detached k lists) {value : Mutex}
    (sameId : value.idMutex = (k.mutex m).idMutex) :
    Kept rule detached (k.setMutex m value) lists := by
  refine kept.of_objects rfl rfl rfl rfl rfl rfl rfl fun list => ?_
  rw [Kernel.hasList_setMutex, sameId]
  split
  · next equal => rw [equal]; rfl
  · rfl

/-- The attribute of a mutex is set when it is created. -/
theorem attr_setHolder (mutex : MutexId → Mutex) (holder : Option TaskId)
    (other : MutexId) :
    (Function.update mutex m { mutex m with holder := holder } other).attr =
      (mutex other).attr := by
  by_cases same : other = m
  · subst same
    rw [Function.update_self]
  · rw [Function.update_of_ne same]

/-! ## Creation -/

/-- The object that `tn_mutex_create` makes of a free control block. -/
theorem Kept.createMutex (kept : Kept rule none k lists)
    (absent : k.isMutex m = false) {new : Mutex}
    (isNew : new.idMutex = tnIdMutex)
    (mutexLinks : Links (Node TaskId MutexId))
    (lockLinks : Links (Node Unit MutexId)) :
    Kept rule none { k.setMutex m new with
      taskLinks := queueReset k.taskLinks (.head (.wait (.mutex m)))
      mutexLinks := mutexLinks
      lockLinks := lockLinks }
      { lists with
        live := fun other => other = .mutex m ∨ lists.live other } := by
  refine kept.created (kept.consistent.resetList (.mutex m) absent) rfl rfl rfl
    rfl rfl rfl ⟨rfl, rfl⟩ (fun list has before => ?_)
    (fun list has => .inr (kept.consistent.live list has)) fun list has => ?_
  · by_cases equal : list = .mutex m
    · exact .inl equal
    · have split := k.hasList_setMutex list m new
      rw [if_neg equal] at split
      exact absurd (before.symm.trans (split.symm.trans has)) (by decide)
  · refine (k.hasList_setMutex list m new).trans ?_
    split
    · exact decide_eq_true isNew
    · exact has

theorem Guarded.create (guarded : Guarded rule dropped k lists locks)
    (mutex : Option MutexId) (attr : Word) (ceilPriority : Int) :
    Ends (tnMutexCreate k mutex attr ceilPriority) fun (k', _) =>
      (∃ lists', Guarded rule dropped k' lists' locks) ∧ k'.tcb = k.tcb ∧
        (k'.mutex = k.mutex ∨ ∃ m new, k.isMutex m = false ∧
          k'.mutex = Function.update k.mutex m new ∧ new.holder = none ∧
          new.attr = attr) := by
  unfold tnMutexCreate
  have same : (∃ lists', Guarded rule dropped k lists' locks) ∧ k.tcb = k.tcb ∧
      (k.mutex = k.mutex ∨ ∃ m new, k.isMutex m = false ∧
        k.mutex = Function.update k.mutex m new ∧ new.holder = none ∧
        new.attr = attr) := ⟨⟨lists, guarded⟩, rfl, .inl rfl⟩
  cases mutex with
  | none => exact ends_some same
  | some m =>
      refine ends_ite (fun _ => ends_some same) fun fresh => ends_ite
        (fun _ => ends_some same) fun kind => ends_ite
          (fun _ => ends_some same) fun _ => ends_some ?_
      have absent : k.isMutex m = false := by
        rw [Kernel.isMutex, not_not.mp fresh]
        decide
      refine ⟨⟨_, guarded.kept.createMutex absent rfl _ _, ?_, ?_⟩, rfl,
        .inr ⟨m, _, absent, rfl, rfl, rfl⟩⟩
      · refine guarded.owns.create absent rfl ?_ rfl rfl rfl fun _ => rfl
        by_contra other
        exact kind (not_or.mp other)
      · refine guarded.blocks.frame (fun t n reason waits => ?_) rfl
          (fun _ => rfl) guarded.blocks.blkTask
        have isMutex := guarded.kept.consistent.mutexWait_isMutex waits
        refine congrArg Mutex.attr (Function.update_of_ne ?_ ..)
        rintro rfl
        exact absurd (absent.symm.trans isMutex) (by decide)

/-! ## Lock -/

/-- A task becomes the holder of a mutex that is free or has been unlinked. -/
theorem Guarded.take (guarded : Guarded rule dropped k lists locks)
    (isMutex : k.isMutex m = true)
    (inherits : (k.mutex m).attr = tnMutexAttrInherit)
    (free : m ∈ dropped ∨ (k.mutex m).holder = none)
    (isTask : k.isTask t = true) :
    Guarded rule (dropped \ {m}) (takeMutex k t m) lists
      (locks.take t m false) := by
  have kept : Kept rule none
      (k.setMutex m { k.mutex m with holder := some t }) lists :=
    guarded.kept.setMutex rfl
  refine ⟨kept.of_objects rfl rfl rfl rfl rfl rfl rfl fun _ => rfl,
    guarded.owns.take isMutex free isTask rfl rfl ?_ rfl fun _ => rfl, ?_⟩
  · simp [inherits, tnMutexAttrInherit, tnMutexAttrCeiling]
  · have blocks : Blocks (takeMutex k t m) locks :=
      guarded.blocks.frame (fun _ n _ _ => attr_setHolder k.mutex _ n) rfl
        (fun _ => rfl) guarded.blocks.blkTask
    exact blocks.of_locks

/-- One control block is replaced, and with it the list of blocked tasks. -/
theorem Guarded.replace (guarded : Guarded rule dropped k lists locks)
    {lists' : Lists} (kept : Kept rule none k' lists') {new : Tcb}
    (tcb : k'.tcb = Function.update k.tcb t new)
    (sameId : new.idTask = (k.tcb t).idTask)
    (footing : k'.footing = { k.footing with blockLinks := k'.blockLinks })
    {blocked : List TaskId}
    (blockLinks : Represents k'.blockLinks (fun _ => True) fun _ => blocked)
    (here : t ∈ blocked ↔ ∃ m, new.mutexWait = some (m, .mutexCBlk))
    (there : ∀ u, u ≠ t → (u ∈ blocked ↔ u ∈ locks.blocked))
    (ceiling : ∀ m, new.mutexWait = some (m, .mutexCBlk) →
      (k.mutex m).attr = tnMutexAttrCeiling)
    (blkTask : ∀ u, new.idTask = tnIdTask → new.blkTask = some u →
      k.isTask u = true) :
    Guarded rule dropped k' lists' { locks with blocked := blocked } := by
  have mutex : k'.mutex = k.mutex := congrArg Footing.mutex footing
  have owns : Owns dropped k' locks :=
    guarded.owns.frame mutex (congrArg Footing.mutexLinks footing)
      (congrArg Footing.lockLinks footing) (Kernel.isTask_update tcb sameId)
  exact ⟨kept, owns.of_locks, guarded.blocks.replace mutex tcb
    (fun isTask => sameId.trans (isTask_iff.mp isTask)) blockLinks here there
    ceiling blkTask⟩

/-- The running task starts to wait for a mutex; no ceiling is in its way. -/
theorem Guarded.wait (guarded : Guarded rule dropped k lists locks)
    (isMutex : k.isMutex m = true)
    (running : (k.tcb k.tnCurrRunTask).taskState = .runnable)
    (stop : rule.stop k.tnCurrRunTask) {timeout : Word}
    (waits : rule.waits (some (.mutex m)) timeout) {reason : WaitReason}
    (fits : reason.fits (some (.mutex m)) = true)
    (unblocked : reason ≠ .mutexCBlk) :
    ∃ k' lists', taskCurrToWaitAction k (some (.mutex m)) reason timeout =
        some k' ∧
      Guarded rule dropped k' lists' locks ∧
      Changed rule (.mutex m)
        (lists.task (.wait (.mutex m)) ++ [k.tnCurrRunTask]) k.tnCurrRunTask
        ((k.tcb k.tnCurrRunTask).asleep (some (.mutex m)) reason timeout)
        k k' lists lists' := by
  have awake : (k.tcb k.tnCurrRunTask).taskState.isWait = false := by
    simp [running, TaskState.isWait]
  have before := Tcb.mutexWait_of_awake awake
  have asleep : ((k.tcb k.tnCurrRunTask).asleep (some (.mutex m)) reason
      timeout).mutexWait = some (m, reason) :=
    Tcb.mutexWait_eq_some.mpr ⟨guarded.kept.curr, rfl, rfl, rfl⟩
  obtain ⟨k', lists', run, changed⟩ := guarded.kept.sleep running stop waits
    fits (show k.hasList (.mutex m) = true from isMutex)
  have footing := taskCurrToWaitAction_apart footing_apart rfl _ _ _ _ run
  have blockLinks : k'.blockLinks = k.blockLinks :=
    congrArg Footing.blockLinks footing
  have absent : k.tnCurrRunTask ∉ locks.blocked :=
    guarded.blocks.not_mem (by simp [before])
  refine ⟨k', lists', run, guarded.replace changed.kept changed.tcb rfl
    (by rw [blockLinks]; exact footing) ?_ ?_ (fun _ _ => Iff.rfl) ?_
    fun u _ stored => guarded.blocks.blkTask _ u
      (isTask_iff.mpr guarded.kept.curr) stored, changed⟩
  · rw [blockLinks]
    exact guarded.blocks.blockLinks
  · simp [absent, asleep, unblocked]
  · simp [asleep, unblocked]

/-! ## Unlock -/

theorem maxHeldPriority_le {fuel rounds p : Nat} (que : Node TaskId MutexId) :
    Ends (maxHeldPriority fuel k rounds que p) (· ≤ p) := by
  induction rounds generalizing que p with
  | zero => exact ends_none
  | succ rounds ih =>
      refine ends_bind fun m => Ends.bind (findMaxBlockedPriority_le m p)
        fun q lower => ends_ite (fun _ => ends_some lower) fun _ => ?_
      exact fun r result => (ih _ r result).trans lower

/-- The first part of `do_unlock_mutex` lowers the priority of the running
task. -/
theorem unlockPriority_adjusted (kept : Kept rule none k lists)
    (indifferent : rule.Indifferent) (known : k.Known) (fuel : Nat)
    (m : MutexId) :
    Ends (unlockPriority fuel k m) fun (k', _) =>
      ∃ lists', Adjusted rule k k' lists lists' := by
  have isTask := isTask_iff.mpr kept.curr
  have base := (kept.consistent.tasks.valid _ kept.curr).basePriority
  refine ends_ite (fun _ => ?_) fun _ => ends_ite (fun _ => ?_)
    fun _ => ends_some ⟨lists, .refl kept⟩
  · exact setCurrentPriority_adjusted kept indifferent known isTask base
  · refine Ends.bind (maxHeldPriority_le _) fun p lower =>
      ends_ite (fun _ => ?_) fun _ => ends_some ⟨lists, .refl kept⟩
    exact setCurrentPriority_adjusted kept indifferent known isTask
      (lower.trans_lt base)

theorem unlockPriority_others (kept : Kept rule none k lists)
    (indifferent : rule.Indifferent)
    (running : (k.tcb k.tnCurrRunTask).taskState = .runnable) (fuel : Nat)
    (m : MutexId) :
    Ends (unlockPriority fuel k m) fun (k', _) =>
      ∀ t, t ≠ k.tnCurrRunTask → k'.tcb t = k.tcb t := by
  have isTask := isTask_iff.mpr kept.curr
  have base := (kept.consistent.tasks.valid _ kept.curr).basePriority
  have sets : ∀ p < tnNumPriority,
      Ends (setCurrentPriority fuel k k.tnCurrRunTask p) fun (k', _) =>
        ∀ t, t ≠ k.tnCurrRunTask → k'.tcb t = k.tcb t := by
    intro p small after run t other
    have tcb := setCurrentPriority_sets kept indifferent isTask
      (fun waiting => by rw [running] at waiting; cases waiting) small after run
    rw [tcb, Function.update_of_ne other]
  refine ends_ite (fun _ => sets _ base) fun _ => ends_ite (fun _ => ?_)
    fun _ => ends_some fun _ _ => rfl
  exact Ends.bind (maxHeldPriority_le _) fun p lower => ends_ite
    (fun _ => sets p (lower.trans_lt base)) fun _ => ends_some fun _ _ => rfl

theorem Guarded.free (guarded : Guarded rule dropped k lists locks)
    (out : m ∈ dropped) :
    Guarded rule (dropped \ {m})
      (k.setMutex m { k.mutex m with holder := none }) lists locks :=
  ⟨guarded.kept.setMutex rfl, guarded.owns.free out,
    guarded.blocks.frame (fun _ n _ _ => attr_setHolder k.mutex _ n) rfl
      (fun _ => rfl) guarded.blocks.blkTask⟩

/-- The wait of a task has ended, and it is no longer in the list of blocked
tasks. -/
structure Woken (rule : Rule) (dropped : Set MutexId) (m : MutexId)
    (t : TaskId) (blockLinks : Links (Node Unit TaskId)) (k k' : Kernel)
    (lists lists' : Lists) (locks : Locks) : Prop where
  guarded : Guarded rule dropped k' lists'
    { locks with blocked := locks.blocked.erase t }
  members : lists'.task (.wait (.mutex m)) =
    (lists.task (.wait (.mutex m))).erase t
  others : ∀ list, list ≠ .mutex m →
    lists'.task (.wait list) = lists.task (.wait list)
  tcb : k'.tcb = Function.update k.tcb t (k.tcb t).awake
  footing : k'.footing = { k.footing with blockLinks := blockLinks }

/-- The wait of a task ends; what is left is to calculate the priority of the old
holder again. -/
theorem Guarded.wake (guarded : Guarded rule dropped k lists locks)
    (indifferent : rule.Indifferent) {reason : WaitReason}
    (waits : (k.tcb t).mutexWait = some (m, reason))
    (blockLinks : Links (Node Unit TaskId))
    (unblocked : Represents blockLinks (fun _ => True)
      fun _ => locks.blocked.erase t) :
    ∃ k' lists', (∀ fuel, taskWaitComplete fuel { k with
          taskLinks := queueRemoveEntry k.taskLinks (.entry t)
          blockLinks := blockLinks } t =
        restoreHolderPriority fuel k' t (some (.mutex m))
          (!(k.tcb t).taskState.isSuspend)) ∧
      Woken rule dropped m t blockLinks k k' lists lists' locks := by
  have isMutex := (guarded.kept.consistent.tasks.valid t
    (Tcb.mutexWait_eq_some.mp waits).1).isMutex waits
  have member := guarded.kept.consistent.mem_mutex.mpr ⟨reason, waits⟩
  obtain ⟨task, isWait, queue, rfl⟩ := Tcb.mutexWait_eq_some.mp waits
  have detached : Kept rule (some t) { k with
      taskLinks := queueRemoveEntry k.taskLinks (.entry t)
      blockLinks := blockLinks } (lists.detach t) :=
    (guarded.kept.unlinkWaiter member).of_objects rfl rfl rfl rfl rfl rfl rfl
      fun _ => rfl
  obtain ⟨taskLinks, bmp, next, run, consistent⟩ :=
    detached.consistent.completeWait task isWait
  have valid := guarded.kept.consistent.tasks.valid t task
  have awake : (k.tcb t).awake.mutexWait = none :=
    Tcb.mutexWait_of_awake Tcb.awake_not_isWait
  have kept := detached.of_update consistent (k.tcb t).awake rfl rfl rfl
    (indifferent.awake valid isWait)
  generalize same : Kernel.withTasks _ _ _ _ _ _ = k₂ at run kept
  have tcb : k₂.tcb = Function.update k.tcb t (k.tcb t).awake := by
    rw [← same]
    rfl
  have footing : k₂.footing = { k.footing with blockLinks := blockLinks } := by
    rw [← same]
    rfl
  have links : k₂.blockLinks = blockLinks :=
    congrArg Footing.blockLinks footing
  have nodup := guarded.blocks.blockLinks.nodup ()
  refine ⟨k₂, _, fun fuel => ?_, guarded.replace kept tcb rfl
    (by rw [links]; exact footing) (links ▸ unblocked) ?_
    (fun u different => ?_) (by simp [awake])
    fun u _ stored => guarded.blocks.blkTask t u (isTask_iff.mpr task) stored,
    ?_, fun list other => ?_, tcb, footing⟩
  · rw [run fuel, isMutex, queue]
    rfl
  · simp [nodup.mem_erase_iff, awake]
  · simp [nodup.mem_erase_iff, different]
  · exact Lists.wake_wait _ _ _ _
  · rw [Lists.wake_wait]
    refine drop_of_absent fun inside => other ?_
    simpa using guarded.kept.consistent.scheduled.represents.disjoint inside
      member

theorem Kept.nobodyWaits (kept : Kept rule none k lists)
    (isMutex : k.isMutex m = true) (empty : k.noWaiters (.mutex m) = true)
    (t : TaskId) (reason : WaitReason) :
    (k.tcb t).mutexWait ≠ some (m, reason) := by
  intro waits
  have member := kept.consistent.mem_mutex.mpr ⟨reason, waits⟩
  have has : k.hasList (.mutex m) = true := isMutex
  rw [(kept.noWaiters_iff has).mp empty] at member
  cases member

theorem Adjusted.mutexWait {lists' : Lists}
    (adjusted : Adjusted rule k k' lists lists') (t : TaskId) :
    (k'.tcb t).mutexWait = (k.tcb t).mutexWait := by
  obtain ⟨p, tcb⟩ := adjusted.tcb t
  rw [tcb]
  rfl

/-- What the services of mutexes with priority inheritance do to the holders and
to the tasks that wait.  Only the task that asked for a mutex starts to wait. -/
inductive Granting (asked : Option MutexId) (k k' : Kernel) : Prop where
  | unchanged (mutex : k'.mutex = k.mutex)
      (waits : ∀ t, (k'.tcb t).mutexWait = (k.tcb t).mutexWait)
  | taken (m : MutexId) (free : (k.mutex m).holder = none)
      (mutex : k'.mutex = Function.update k.mutex m
        { k.mutex m with holder := some k.tnCurrRunTask })
      (waits : ∀ t, (k'.tcb t).mutexWait = (k.tcb t).mutexWait)
  | blocked (m : MutexId) (holder : TaskId) (isAsked : asked = some m)
      (other : holder ≠ k.tnCurrRunTask)
      (held : (k.mutex m).holder = some holder) (mutex : k'.mutex = k.mutex)
      (waits : ∀ t, (k'.tcb t).mutexWait =
        if t = k.tnCurrRunTask then some (m, .mutexI)
        else (k.tcb t).mutexWait)
  | freed (m : MutexId) (new : Mutex)
      (nobody : ∀ t reason, (k.tcb t).mutexWait ≠ some (m, reason))
      (free : new.holder = none) (inherits : new.attr = tnMutexAttrInherit)
      (mutex : k'.mutex = Function.update k.mutex m new)
      (waits : ∀ t, (k'.tcb t).mutexWait = (k.tcb t).mutexWait)
  | handed (m : MutexId) (w : TaskId)
      (mutex : k'.mutex = Function.update k.mutex m
        { k.mutex m with holder := some w })
      (waits : ∀ t, (k'.tcb t).mutexWait =
        if t = w then none else (k.tcb t).mutexWait)

/-- A task that waits for a mutex becomes ready, and the priority of the old holder
is calculated again. -/
theorem Guarded.endWait (guarded : Guarded rule dropped k lists locks)
    (indifferent : rule.Indifferent) {reason : WaitReason}
    (waits : (k.tcb t).mutexWait = some (m, reason))
    (blockLinks : Links (Node Unit TaskId))
    (unblocked : Represents blockLinks (fun _ => True)
      fun _ => locks.blocked.erase t) (fuel : Nat) :
    Ends (taskWaitComplete fuel { k with
        taskLinks := queueRemoveEntry k.taskLinks (.entry t)
        blockLinks := blockLinks } t) fun (k', _) =>
      ∃ lists', Guarded rule dropped k' lists'
          { locks with blocked := locks.blocked.erase t } ∧
        k'.mutex = k.mutex ∧ k'.isTask t = true ∧
        ∀ u, (k'.tcb u).mutexWait =
          if u = t then none else (k.tcb u).mutexWait := by
  have isMutex := guarded.kept.consistent.mutexWait_isMutex waits
  obtain ⟨k₂, lists₂, complete, woken⟩ := guarded.wake indifferent waits
    blockLinks unblocked
  have mutex : k₂.mutex = k.mutex := congrArg Footing.mutex woken.footing
  have awake : (k₂.tcb t).taskWaitReason = .none := by
    rw [woken.tcb, Function.update_self]
    rfl
  have waits₂ : ∀ u, (k₂.tcb u).mutexWait =
      if u = t then none else (k.tcb u).mutexWait := by
    intro u
    rw [woken.tcb]
    by_cases same : u = t
    · rw [same, Function.update_self, if_pos rfl]
      exact Tcb.mutexWait_of_awake Tcb.awake_not_isWait
    · rw [Function.update_of_ne same, if_neg same]
  rw [complete fuel]
  intro after run
  obtain ⟨lists₃, adjusted⟩ := restoreHolderPriority_adjusted
    woken.guarded.kept indifferent woken.guarded.known
    ((Kernel.isMutex_congr mutex m).trans isMutex) awake _ after run
  refine ⟨lists₃, woken.guarded.adjust adjusted,
    (congrArg Footing.mutex adjusted.footing).trans mutex, ?_,
    fun u => (adjusted.mutexWait u).trans (waits₂ u)⟩
  obtain ⟨p, tcb⟩ := adjusted.tcb t
  rw [isTask_iff, tcb, woken.tcb, Function.update_self]
  exact (Tcb.mutexWait_eq_some.mp waits).1

/-- What the second part of `do_unlock_mutex` makes of a mutex that has been
unlinked: the mutexes that are still dropped, and their locks. -/
inductive HandedOver (m : MutexId) (dropped : Set MutexId) (k k' : Kernel)
    (lists : Lists) (locks : Locks) (hiPriTask : Option TaskId) :
    Set MutexId → Locks → Prop where
  | freed (nobody : ∀ t reason, (k.tcb t).mutexWait ≠ some (m, reason))
      (isHi : hiPriTask = some k.tnCurrRunTask)
      (same : k' = k.setMutex m { k.mutex m with holder := none }) :
      HandedOver m dropped k k' lists locks hiPriTask (dropped \ {m}) locks
  | handed (w : TaskId) {reason : WaitReason}
      (waited : (k.tcb w).mutexWait = some (m, reason))
      (mutex : k'.mutex = Function.update k.mutex m
        { k.mutex m with holder := some w })
      (waits : ∀ u, (k'.tcb u).mutexWait =
        if u = w then none else (k.tcb u).mutexWait) {ceiling : Bool}
      (kind : ceiling = true ↔ (k.mutex m).attr = tnMutexAttrCeiling)
      (enabled : ceiling = true → (k.best (none, tnNumPriority - 1)
          (lists.task (.wait (.mutex m)))).1 = some w ∧
        ∀ n ∈ locks.locked, k.bars w n = false) :
      HandedOver m dropped k k' lists locks hiPriTask (dropped \ {m})
        (Locks.take { locks with blocked := locks.blocked.erase w } w m
          ceiling)
  | denied (w : TaskId) {blocked : List TaskId}
      (ceiling : (k.mutex m).attr = tnMutexAttrCeiling)
      (best : (k.best (none, tnNumPriority - 1)
        (lists.task (.wait (.mutex m)))).1 = some w)
      (barred : ∃ n ∈ locks.locked, k.bars w n = true)
      (mutex : k'.mutex = k.mutex)
      (waits : ∀ u, (k'.tcb u).mutexWait =
        if u = w then some (m, .mutexCBlk) else (k.tcb u).mutexWait) :
      HandedOver m dropped k k' lists locks hiPriTask dropped
        { locks with blocked := blocked }

/-- The first task that waits for a mutex with priority inheritance gets it. -/
theorem Guarded.handOverInherit (guarded : Guarded rule dropped k lists locks)
    (indifferent : rule.Indifferent) (out : m ∈ dropped)
    (isMutex : k.isMutex m = true)
    (inherits : (k.mutex m).attr = tnMutexAttrInherit) (fuel : Nat) :
    Ends (handOver fuel k m) fun (k', _, hiPriTask) => ∃ lists' dropped' locks',
      Guarded rule dropped' k' lists' locks' ∧
        HandedOver m dropped k k' lists locks hiPriTask dropped' locks' := by
  have notCeiling : (k.mutex m).attr ≠ tnMutexAttrCeiling := by
    rw [inherits]
    decide
  have has : k.hasList (.mutex m) = true := isMutex
  refine ends_ite (fun empty => ends_some ?_) fun awaited => ?_
  · refine ⟨lists, _, locks, guarded.free out,
      .freed (guarded.kept.nobodyWaits isMutex empty) rfl rfl⟩
  rw [if_neg notCeiling, if_pos inherits]
  obtain ⟨t, rest, waiting⟩ :=
    guarded.kept.first has (eq_false_of_ne_true awaited)
  obtain ⟨reason, waits⟩ := guarded.kept.consistent.mem_mutex.mp
    (show t ∈ lists.task (.wait (.mutex m)) by simp [waiting])
  refine ends_bind_eq (guarded.kept.removeWaiter waiting).1
    (Ends.bind (guarded.endWait indifferent waits k.blockLinks
      (guarded.blocks.without waits notCeiling) fuel) ?_)
  rintro ⟨k₃, _⟩ ⟨lists₃, after, mutex, isTask, waits₃⟩
  have given : (takeMutex k₃ t m).mutex = Function.update k.mutex m
      { k.mutex m with holder := some t } := by
    change Function.update k₃.mutex m _ = _
    rw [mutex]
  have waits' : ∀ u, ((takeMutex k₃ t m).tcb u).mutexWait =
      if u = t then none else (k.tcb u).mutexWait := waits₃
  exact ends_some ⟨lists₃, _, _, after.take
    ((Kernel.isMutex_congr mutex m).trans isMutex) (by rw [mutex, inherits])
    (.inl out) isTask,
      .handed t waits given waits' (by simp [notCeiling]) nofun⟩

theorem HandedOver.granting {hiPriTask : Option TaskId} {dropped' : Set MutexId}
    {locks' : Locks}
    (handed : HandedOver m dropped k k' lists locks hiPriTask dropped' locks')
    (inherits : (k.mutex m).attr = tnMutexAttrInherit) :
    dropped' = dropped \ {m} ∧ (k'.mutex m).attr = tnMutexAttrInherit ∧
      Granting none k k' := by
  cases handed with
  | freed nobody isHi same =>
      subst same
      exact ⟨rfl, (attr_setHolder k.mutex none m).trans inherits,
        .freed m { k.mutex m with holder := none } nobody rfl inherits rfl
          fun _ => rfl⟩
  | handed w waited mutex waits =>
      refine ⟨rfl, ?_, .handed m w mutex waits⟩
      rw [mutex]
      exact (attr_setHolder k.mutex _ m).trans inherits
  | denied w ceiling =>
      exact absurd (ceiling.symm.trans inherits) (by decide)

/-- The first step of `do_unlock_mutex`. -/
theorem Guarded.drop (guarded : Guarded rule dropped k lists locks)
    (isMutex : k.isMutex m = true) (listed : m ∉ dropped)
    (held : (k.mutex m).holder = some t) :
    Guarded rule (insert m dropped) { k with
      mutexLinks := queueRemoveEntry k.mutexLinks (.entry m)
      lockLinks := queueRemoveEntry k.lockLinks (.entry m) } lists
      (locks.drop m) :=
  ⟨guarded.kept.of_objects rfl rfl rfl rfl rfl rfl rfl fun _ => rfl,
    guarded.owns.drop isMutex listed held, guarded.blocks.blockLinks,
    guarded.blocks.blocked, guarded.blocks.ceiling, guarded.blocks.blkTask⟩

theorem Granting.of_same {asked : Option MutexId} {k₁ : Kernel}
    (granting : Granting asked k₁ k')
    (mutex : k₁.mutex = k.mutex)
    (waits : ∀ t, (k₁.tcb t).mutexWait = (k.tcb t).mutexWait)
    (curr : k₁.tnCurrRunTask = k.tnCurrRunTask) : Granting asked k k' := by
  cases granting with
  | unchanged mutex' waits' =>
      exact .unchanged (mutex'.trans mutex) fun t => (waits' t).trans (waits t)
  | taken m free mutex' waits' =>
      rw [mutex] at free mutex'
      rw [curr] at mutex'
      exact .taken m free mutex' fun t => (waits' t).trans (waits t)
  | blocked m holder isAsked other held mutex' waits' =>
      rw [mutex] at held mutex'
      simp only [curr, waits] at other waits'
      exact .blocked m holder isAsked other held mutex' waits'
  | freed m new nobody free inherits mutex' waits' =>
      simp only [mutex, waits] at nobody mutex' waits'
      exact .freed m new nobody free inherits mutex' waits'
  | handed m w mutex' waits' =>
      simp only [mutex, waits] at mutex' waits'
      exact .handed m w mutex' waits'

/-- What `do_unlock_mutex` does to a mutex that the running task holds. -/
theorem Guarded.unlock (guarded : Guarded rule dropped k lists locks)
    (indifferent : rule.Indifferent) (isMutex : k.isMutex m = true)
    (listed : m ∉ dropped)
    (inherits : (k.mutex m).attr = tnMutexAttrInherit)
    (held : (k.mutex m).holder = some k.tnCurrRunTask) (fuel : Nat) :
    Ends (doUnlockMutex fuel k m) fun (k', _) => ∃ lists' locks',
      Guarded rule dropped k' lists' locks' ∧ Granting none k k' := by
  have unlinked := guarded.drop isMutex listed held
  refine Ends.bind (unlockPriority_adjusted unlinked.kept indifferent
    unlinked.known fuel m)
    fun first ⟨lists₁, adjusted⟩ => ?_
  have mutex₁ : first.1.mutex = k.mutex :=
    congrArg Footing.mutex adjusted.footing
  have waits₁ : ∀ t, (first.1.tcb t).mutexWait = (k.tcb t).mutexWait :=
    adjusted.mutexWait
  have curr₁ : first.1.tnCurrRunTask = k.tnCurrRunTask :=
    congrArg (·.mode.tnCurrRunTask) adjusted.footing
  refine Ends.bind ((unlinked.adjust adjusted).handOverInherit indifferent
    (Set.mem_insert m dropped) ((Kernel.isMutex_congr mutex₁ m).trans isMutex)
    (by rw [mutex₁, inherits]) fuel)
    fun second ⟨lists₂, dropped₂, locks₂, after, handed⟩ => ?_
  obtain ⟨given, attr, granting⟩ := handed.granting (by rw [mutex₁, inherits])
  -- Only a free mutex with a ceiling is offered to the blocked tasks.
  rw [given, Set.insert_sdiff_self_of_notMem listed] at after
  refine ends_ite (fun offered => ?_) fun _ => ends_some
    ⟨lists₂, locks₂, after, granting.of_same mutex₁ waits₁ curr₁⟩
  rw [attr] at offered
  exact absurd offered.2 (by decide)

/-! ## The calls -/

theorem mutexLockBody_inherit {fuel : Nat} {timeout : Word} {m : MutexId}
    (inherits : (k.mutex m).attr = tnMutexAttrInherit)
    (legal : ¬k.lockIllegal m = true) :
    mutexLockBody fuel k timeout m =
      match (k.mutex m).holder with
      | none => some (takeMutex k k.tnCurrRunTask m, .ret .noErr)
      | some holder => (inheritPriority fuel k holder).bind fun k =>
          (taskCurrToWaitAction k (some (.mutex m)) .mutexI timeout).bind
            fun k => some (k, .block) := by
  have notCeiling : (k.mutex m).attr ≠ tnMutexAttrCeiling := by
    rw [inherits]
    decide
  unfold mutexLockBody
  dsimp only
  rw [if_neg legal, if_neg notCeiling, if_pos inherits]
  rfl

theorem Guarded.lock (guarded : Guarded rule dropped k lists locks)
    (indifferent : rule.Indifferent) (isMutex : k.isMutex m = true)
    (inherits : (k.mutex m).attr = tnMutexAttrInherit)
    (running : (k.tcb k.tnCurrRunTask).taskState = .runnable)
    (stop : rule.stop k.tnCurrRunTask) {timeout : Word}
    (waits : rule.waits (some (.mutex m)) timeout) (fuel : Nat) :
    Ends (mutexLockBody fuel k timeout m) fun (k', _) =>
      ∃ lists' locks', Guarded rule dropped k' lists' locks' ∧
        Granting (some m) k k' := by
  have notCeiling : (k.mutex m).attr ≠ tnMutexAttrCeiling := by
    rw [inherits]
    decide
  unfold mutexLockBody
  dsimp only
  refine ends_ite (fun _ => ends_some ⟨lists, locks, guarded,
    .unchanged rfl fun _ => rfl⟩) fun legal => ?_
  rw [if_neg notCeiling, if_pos inherits]
  split
  case h_1 free =>
      have listed : m ∉ dropped := fun out =>
        (guarded.owns.dropped m out).2 free
      have taken := guarded.take isMutex inherits (.inr free)
        (isTask_iff.mpr guarded.kept.curr)
      rw [Set.sdiff_singleton_eq_self listed] at taken
      exact ends_some ⟨lists, _, taken, .taken m free rfl fun _ => rfl⟩
  case h_2 holder held =>
      have other : holder ≠ k.tnCurrRunTask := by
        rintro rfl
        exact legal (by simp [Kernel.lockIllegal, held])
      have isTask := guarded.owns.holder m holder isMutex held
      refine Ends.bind (inheritPriority_adjusted guarded.kept indifferent
        guarded.known isTask) fun k₁ raised => ?_
      obtain ⟨lists₁, adjusted⟩ := raised
      have mutex₁ : k₁.mutex = k.mutex :=
        congrArg Footing.mutex adjusted.footing
      have curr₁ : k₁.tnCurrRunTask = k.tnCurrRunTask :=
        congrArg (·.mode.tnCurrRunTask) adjusted.footing
      obtain ⟨p, tcb₁⟩ := adjusted.tcb k.tnCurrRunTask
      obtain ⟨k₂, lists₂, run, after, changed⟩ :=
        (guarded.adjust adjusted).wait
          ((Kernel.isMutex_congr mutex₁ m).trans isMutex)
          (by rw [curr₁, tcb₁]; exact running) (by rw [curr₁]; exact stop)
          waits (show WaitReason.mutexI.fits (some (.mutex m)) = true from rfl)
          (by decide)
      refine ends_bind_eq run (ends_some ⟨lists₂, locks, after,
        .blocked m holder rfl other held (changed.same.mutex.trans mutex₁)
          fun u => ?_⟩)
      rw [changed.tcb, curr₁]
      by_cases same : u = k.tnCurrRunTask
      · subst same
        rw [Function.update_self, if_pos rfl, tcb₁]
        exact Tcb.mutexWait_eq_some.mpr ⟨guarded.kept.curr, rfl, rfl, rfl⟩
      · rw [Function.update_of_ne same, if_neg same]
        exact adjusted.mutexWait u

end Steps

end UsbBulk
