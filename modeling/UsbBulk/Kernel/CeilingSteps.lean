import UsbBulk.Kernel.MutexSteps

/-!
# The services of mutexes with a ceiling

A task may lock such a mutex only if no locked mutex of another task has a ceiling
above the priority of the task.  The answers of the searches are given first, then
what the parts of the services do, and then the services for mutexes of both kinds.
-/

namespace UsbBulk

section Searches

variable {rule : Rule} {k : Kernel} {lists : Lists} {locked : List MutexId}
variable {blocked : List TaskId} {m : MutexId} {t : TaskId} {fuel : Nat}

/-- Every answer of `enable_lock_mutex`. -/
theorem enableLockMutex_spec
    (represents : Represents k.lockLinks (fun _ => True) fun _ => locked) :
    Ends (enableLockMutex fuel k t) fun (enabled, blkTask) =>
      enabled = locked.all (fun n => !k.bars t n) ∧
        ∀ u, blkTask = some u →
          ∃ n ∈ locked, (k.mutex n).holder = some u := by
  intro after run
  obtain ⟨blkTask, search, found⟩ := enableLockMutex_eq represents t
    (Nat.le_add_left locked.length fuel)
  have more := enableLockMutex_more run locked.length
  obtain rfl := Option.some.inj (search.symm.trans more)
  exact ⟨rfl, found⟩

/-- Every answer of `remove_task_from_blocked_list`. -/
theorem removeTaskFromBlockedList_spec
    (represents : Represents k.blockLinks (fun _ => True) fun _ => blocked) :
    Ends (removeTaskFromBlockedList fuel k t) fun k' =>
      ∃ blockLinks, k' = { k with blockLinks := blockLinks } ∧
        Represents blockLinks (fun _ => True) fun _ => blocked.erase t := by
  intro k' run
  have search := removeTaskFromBlockedList_eq represents t
    (show blocked.length < fuel + (blocked.length + 1) by omega)
  have more := removeBlockedFrom_more run (blocked.length + 1)
  obtain rfl := Option.some.inj (search.symm.trans more)
  exact ⟨_, rfl, represents.removeIfMember_single⟩

/-- Every answer of `queue_contains_entry` about the list of blocked tasks. -/
theorem blockedContains_spec
    (represents : Represents k.blockLinks (fun _ => True) fun _ => blocked) :
    Ends (queueContainsEntry k.blockLinks (.head ()) (.entry t) fuel
      (k.blockLinks.next (.head ()))) (· = decide (t ∈ blocked)) := by
  intro found run
  have search := @Represents.containsEntry_iff Unit TaskId _ _ _ _ _ () t
    represents trivial (fuel + (blocked.length + 1))
    (show blocked.length < fuel + (blocked.length + 1) by omega)
  exact Option.some.inj
    ((queueContainsEntry_more run (blocked.length + 1)).symm.trans search)

/-- Every answer of the search for the waiting task with the highest priority. -/
theorem highestWaiter_spec (kept : Kept rule none k lists)
    (some : lists.task (.wait (.mutex m)) ≠ []) :
    Ends (highestWaiter k m fuel (k.taskLinks.next (.head (.wait (.mutex m))))
      none (tnNumPriority - 1)) fun found =>
        found = (k.best (none, tnNumPriority - 1)
          (lists.task (.wait (.mutex m)))).1 := by
  intro found run
  have represents := kept.consistent.scheduled.represents
  have alive : liveHead lists.live (.wait (.mutex m)) :=
    represents.live_of_mem (List.getLast_mem some)
  have first := represents.next_head alive
  obtain ⟨u, rest, waiting⟩ := List.exists_cons_of_ne_nil some
  rw [waiting] at first
  rw [show k.taskLinks.next (.head (.wait (.mutex m))) = .entry u from first]
    at run
  have more := highestWaiter_more run (u :: rest).length
  rw [highestWaiter_eq represents (show _ = [] ++ u :: rest from waiting)
    (Nat.le_add_left _ _)] at more
  rw [waiting]
  exact (Option.some.inj more).symm

end Searches

section Parts

variable {rule : Rule} {dropped : Set MutexId} {k k' : Kernel}
variable {lists : Lists} {locks locks' : Locks} {m : MutexId} {t : TaskId}

/-! ## Single changes -/

/-- The reason of a wait and the task that is in the way are stored. -/
theorem Kept.setBlocker {detached : Option TaskId}
    (kept : Kept rule detached k lists) (indifferent : rule.Indifferent)
    {reason : WaitReason} (blkTask : Option TaskId)
    (fits : (k.tcb t).taskState.isWait = true →
      reason.fits (k.tcb t).pwaitQueue = true) :
    Kept rule detached (k.setTcb t { k.tcb t with
      taskWaitReason := reason, blkTask := blkTask }) lists := by
  refine kept.of_update (kept.consistent.replace _ rfl rfl Iff.rfl
    fun valid => ?_) _ rfl rfl rfl indifferent.block
  exact ⟨valid.priority, valid.basePriority, fits, valid.notWaiting⟩

/-- A task becomes the holder of a mutex with a ceiling. -/
theorem Guarded.takeCeiling (guarded : Guarded rule dropped k lists locks)
    (indifferent : rule.Indifferent) (isMutex : k.isMutex m = true)
    (ceiling : (k.mutex m).attr = tnMutexAttrCeiling)
    (free : m ∈ dropped ∨ (k.mutex m).holder = none)
    (isTask : k.isTask t = true) :
    Guarded rule (dropped \ {m}) (takeCeilingMutex k t m) lists
      (locks.take t m true) := by
  have valid := guarded.kept.consistent.tasks.valid t (isTask_iff.mp isTask)
  have stored : Kept rule none
      (k.setTcb t { k.tcb t with blkTask := none }) lists :=
    guarded.kept.setBlocker indifferent none valid.waiting
  have kept : Kept rule none ((k.setTcb t
      { k.tcb t with blkTask := none }).setMutex m
        { k.mutex m with holder := some t }) lists := stored.setMutex rfl
  have tcb : ∀ u, (takeCeilingMutex k t m).tcb u =
      if u = t then { k.tcb t with blkTask := none } else k.tcb u := by
    intro u
    by_cases same : u = t
    · subst same
      simp [takeCeilingMutex, takeMutex, Kernel.setTcb, Kernel.setMutex]
    · simp [takeCeilingMutex, takeMutex, Kernel.setTcb, Kernel.setMutex, same]
  have tasks : ∀ u, (takeCeilingMutex k t m).isTask u = k.isTask u := by
    intro u
    rw [Kernel.isTask, Kernel.isTask, tcb]
    split
    · next same => rw [same]
    · rfl
  refine ⟨kept.of_objects rfl rfl rfl rfl rfl rfl rfl fun _ => rfl,
    guarded.owns.take isMutex free isTask rfl rfl ?_ rfl tasks, ?_⟩
  · simp [ceiling]
  · have blocks : Blocks (takeCeilingMutex k t m) locks := by
      refine guarded.blocks.frame (fun _ n _ _ => attr_setHolder k.mutex _ n)
        rfl (fun u => ?_) fun u v isTask stored => ?_
      · rw [tcb]
        split
        · next same => rw [same]; rfl
        · rfl
      · rw [tasks] at isTask ⊢
        rw [tcb] at stored
        split at stored
        · cases stored
        · exact guarded.blocks.blkTask u v isTask stored
    exact blocks.of_locks

theorem Guarded.stayBlocked (guarded : Guarded rule dropped k lists locks)
    (indifferent : rule.Indifferent) {reason : WaitReason}
    (waits : (k.tcb t).mutexWait = some (m, reason))
    (ceiling : (k.mutex m).attr = tnMutexAttrCeiling)
    (unlisted : t ∉ locks.blocked) {blkTask : Option TaskId}
    (known : ∀ u, blkTask = some u → k.isTask u = true) :
    Guarded rule dropped { k.setTcb t { k.tcb t with
        taskWaitReason := .mutexCBlk, blkTask := blkTask } with
      blockLinks := queueAddTail k.blockLinks (.head ()) (.entry t) } lists
      { locks with blocked := locks.blocked ++ [t] } := by
  obtain ⟨task, isWait, queue, -⟩ := Tcb.mutexWait_eq_some.mp waits
  have stored : Kept rule none { k.setTcb t { k.tcb t with
        taskWaitReason := .mutexCBlk, blkTask := blkTask } with
      blockLinks := queueAddTail k.blockLinks (.head ()) (.entry t) } lists :=
    (guarded.kept.setBlocker indifferent blkTask fun _ => by
      rw [queue]; rfl).of_objects rfl rfl rfl rfl rfl rfl rfl fun _ => rfl
  have blocked : Tcb.mutexWait { k.tcb t with
      taskWaitReason := .mutexCBlk, blkTask := blkTask } =
        some (m, .mutexCBlk) :=
    Tcb.mutexWait_eq_some.mpr ⟨task, isWait, queue, rfl⟩
  refine guarded.replace stored rfl rfl rfl
    (guarded.blocks.blockLinks.addTail_single unlisted) ?_
    (fun u different => by simp [different]) ?_ fun u _ => known u
  · simp [blocked]
  · simp [blocked, ceiling]

/-- The running task starts to wait for a mutex that a ceiling denies it. -/
theorem Guarded.waitBlocked (guarded : Guarded rule dropped k lists locks)
    (indifferent : rule.Indifferent) (isMutex : k.isMutex m = true)
    (ceiling : (k.mutex m).attr = tnMutexAttrCeiling)
    (running : (k.tcb k.tnCurrRunTask).taskState = .runnable)
    (stop : rule.stop k.tnCurrRunTask) {timeout : Word}
    (waits : rule.waits (some (.mutex m)) timeout) {blkTask : Option TaskId}
    (known : ∀ u, blkTask = some u → k.isTask u = true) :
    Ends (taskCurrToWaitAction { k.setTcb k.tnCurrRunTask
        { k.tcb k.tnCurrRunTask with blkTask := blkTask } with
      blockLinks := queueAddTail k.blockLinks (.head ())
        (.entry k.tnCurrRunTask) } (some (.mutex m)) .mutexCBlk timeout)
      fun k' => ∃ lists', Guarded rule dropped k' lists'
        { locks with blocked := locks.blocked ++ [k.tnCurrRunTask] } ∧
        k'.mutex = k.mutex ∧ ∀ t, (k'.tcb t).mutexWait =
          if t = k.tnCurrRunTask then some (m, .mutexCBlk)
          else (k.tcb t).mutexWait := by
  have awake : (k.tcb k.tnCurrRunTask).taskState.isWait = false := by
    simp [running, TaskState.isWait]
  have absent : k.tnCurrRunTask ∉ locks.blocked :=
    guarded.blocks.not_mem (by simp [Tcb.mutexWait_of_awake awake])
  have valid := guarded.kept.consistent.tasks.valid _ guarded.kept.curr
  -- The control block is written to before the task leaves the ready list.
  generalize isNew : { k.tcb k.tnCurrRunTask with blkTask := blkTask } = new
  have stored : Kept rule none { k.setTcb k.tnCurrRunTask new with
      blockLinks := queueAddTail k.blockLinks (.head ())
        (.entry k.tnCurrRunTask) } lists := by
    have kept := guarded.kept.setBlocker indifferent blkTask valid.waiting
    rw [← isNew]
    exact kept.of_objects rfl rfl rfl rfl rfl rfl rfl fun _ => rfl
  have there : Function.update k.tcb k.tnCurrRunTask new k.tnCurrRunTask =
      new := Function.update_self _ _ _
  obtain ⟨k', lists', run, changed⟩ := stored.sleep
    (show (Function.update k.tcb k.tnCurrRunTask new
      k.tnCurrRunTask).taskState = .runnable by rw [there, ← isNew, running])
    stop waits (show WaitReason.mutexCBlk.fits (some (.mutex m)) = true from rfl)
    (show k.hasList (.mutex m) = true from isMutex)
  have footing := taskCurrToWaitAction_apart footing_apart rfl _ _ _ _ run
  have links : k'.blockLinks = queueAddTail k.blockLinks (.head ())
      (.entry k.tnCurrRunTask) := congrArg Footing.blockLinks footing
  have tcb : k'.tcb = Function.update k.tcb k.tnCurrRunTask
      (new.asleep (some (.mutex m)) .mutexCBlk timeout) := by
    refine changed.tcb.trans ?_
    change Function.update (Function.update k.tcb k.tnCurrRunTask new)
      k.tnCurrRunTask ((Function.update k.tcb k.tnCurrRunTask new
        k.tnCurrRunTask).asleep _ _ _) = _
    rw [there, Function.update_idem]
  have asleep : (new.asleep (some (.mutex m)) .mutexCBlk timeout).mutexWait =
      some (m, .mutexCBlk) :=
    Tcb.mutexWait_eq_some.mpr
      ⟨by rw [← isNew]; exact guarded.kept.curr, rfl, rfl, rfl⟩
  rw [run]
  refine ends_some ⟨lists', guarded.replace changed.kept tcb
    (by rw [← isNew]; rfl) (by rw [links]; exact footing)
    (links ▸ guarded.blocks.blockLinks.addTail_single absent) ?_
    (fun u different => by simp [different]) ?_ ?_,
    congrArg Footing.mutex footing, fun t => ?_⟩
  · simp [asleep]
  · simp [asleep, ceiling]
  · rw [← isNew]
    exact fun u _ => known u
  · rw [tcb]
    by_cases same : t = k.tnCurrRunTask
    · rw [same, Function.update_self, asleep, if_pos rfl]
    · rw [Function.update_of_ne same, if_neg same]

/-! ## Another attempt of a blocked task -/

/-- A free mutex has no holder whose priority could be restored. -/
theorem restoreHolderPriority_free {fuel : Nat}
    (awake : (k.tcb t).taskWaitReason = .none)
    (free : (k.mutex m).holder = none) (rc : Bool) :
    restoreHolderPriority fuel k t (some (.mutex m)) rc = some (k, rc) := by
  simp [restoreHolderPriority, getMutexByWaitQueque, awake, free]

/-- What an attempt for a blocked task does. -/
inductive Tried (t : TaskId) (k : Kernel) (locks : Locks) :
    Kernel → Locks → Prop where
  | failed : Tried t k locks k locks
  | taken {k' : Kernel} (n : MutexId)
      (waited : (k.tcb t).mutexWait = some (n, .mutexCBlk))
      (free : (k.mutex n).holder = none)
      (enabled : ∀ o ∈ locks.locked, k.bars t o = false)
      (mode : k'.mode = k.mode)
      (mutex : k'.mutex = Function.update k.mutex n
        { k.mutex n with holder := some t })
      (tcb : k'.tcb = Function.update k.tcb t
        { (k.tcb t).awake with blkTask := none })
      (blockLinks : k'.blockLinks =
        queueRemoveEntry k.blockLinks (.entry t)) :
      Tried t k locks k'
        (Locks.take { locks with blocked := locks.blocked.erase t } t n true)

/-- What `try_lock_mutex` does for a blocked task. -/
theorem Guarded.tryLock (guarded : Guarded rule dropped k lists locks)
    (indifferent : rule.Indifferent) (member : t ∈ locks.blocked)
    (fuel : Nat) :
    Ends (tryLockMutex fuel k t) fun (k', _) => ∃ lists' locks',
      Guarded rule dropped k' lists' locks' ∧ Tried t k locks k' locks' := by
  have same : ∃ lists' locks', Guarded rule dropped k lists' locks' ∧
      Tried t k locks k locks' := ⟨lists, locks, guarded, .failed⟩
  obtain ⟨n, waits⟩ := (guarded.blocks.blocked t).mp member
  obtain ⟨task, -, queue, -⟩ := Tcb.mutexWait_eq_some.mp waits
  have isMutex := guarded.kept.consistent.mutexWait_isMutex waits
  have ceiling := guarded.blocks.ceiling t n waits
  refine ends_bind_eq (getMutexByWaitQueque_eq_some.mpr queue)
    (ends_ite (fun free => ?_) fun _ => ends_some same)
  refine Ends.bind (enableLockMutex_spec guarded.owns.lockLinks)
    fun (_, _) ⟨answer, _⟩ =>
      ends_ite (fun enabled => ?_) fun _ => ends_some same
  obtain ⟨k₂, lists₂, complete, woken⟩ := guarded.wake indifferent waits
    (queueRemoveEntry k.blockLinks (.entry t))
    (guarded.blocks.blockLinks.removeEntry_single member)
  have mutex : k₂.mutex = k.mutex := congrArg Footing.mutex woken.footing
  have free₂ : (k₂.mutex n).holder = none := by rw [mutex, free]
  have awake : k₂.tcb t = (k.tcb t).awake := by
    rw [woken.tcb, Function.update_self]
  have isTask : k₂.isTask t = true := by
    rw [isTask_iff, awake]
    exact task
  refine ends_bind_eq ((complete fuel).trans
    (restoreHolderPriority_free (by rw [awake]; rfl) free₂ _)) (ends_some ?_)
  have listed : n ∉ dropped := fun out =>
    (guarded.owns.dropped n out).2 free
  have taken := woken.guarded.takeCeiling indifferent
    ((Kernel.isMutex_congr mutex n).trans isMutex) (by rw [mutex, ceiling])
    (.inr free₂) isTask
  rw [Set.sdiff_singleton_eq_self listed] at taken
  refine ⟨lists₂, _, taken, .taken n waits free (fun o locked => ?_)
    (congrArg Footing.mode woken.footing) ?_ ?_
    (congrArg Footing.blockLinks woken.footing)⟩
  · simpa using List.all_eq_true.mp (answer.symm.trans enabled) o locked
  · change Function.update k₂.mutex n
      { k₂.mutex n with holder := some t } = _
    rw [mutex]
  · change Function.update k₂.tcb t { k₂.tcb t with blkTask := none } = _
    rw [awake, woken.tcb, Function.update_idem]

/-- With a round for each locked mutex the attempt comes to its end. -/
theorem Guarded.tryLock_isSome (guarded : Guarded rule dropped k lists locks)
    (indifferent : rule.Indifferent) (member : t ∈ locks.blocked)
    {fuel : Nat} (enough : locks.locked.length ≤ fuel) :
    (tryLockMutex fuel k t).isSome = true := by
  obtain ⟨n, waits⟩ := (guarded.blocks.blocked t).mp member
  obtain ⟨-, -, queue, -⟩ := Tcb.mutexWait_eq_some.mp waits
  obtain ⟨blkTask, search, -⟩ :=
    enableLockMutex_eq guarded.owns.lockLinks t enough
  obtain ⟨k₂, lists₂, complete, woken⟩ := guarded.wake indifferent waits
    (queueRemoveEntry k.blockLinks (.entry t))
    (guarded.blocks.blockLinks.removeEntry_single member)
  have mutex : k₂.mutex = k.mutex := congrArg Footing.mutex woken.footing
  have awake : (k₂.tcb t).taskWaitReason = .none := by
    rw [woken.tcb, Function.update_self]
    rfl
  simp only [tryLockMutex, getMutexByWaitQueque_eq_some.mpr queue,
    Option.bind_eq_bind, Option.bind_some, search, complete fuel]
  split
  · next free =>
      have free₂ : (k₂.mutex n).holder = none := by rw [mutex, free]
      rw [restoreHolderPriority_free awake free₂]
      split <;> rfl
  · rfl

section Scan

variable {front rest : List TaskId}

/-- A task that has left the list still leads to the one behind it. -/
theorem Tried.next (tried : Tried t k locks k' locks')
    (blocks : Blocks k locks) (reached : locks.blocked = front ++ t :: rest) :
    k'.blockLinks.next (.entry t) =
      (rest.map Node.entry).headD (.head ()) := by
  have before := blocks.blockLinks.next_entry_single reached
  cases tried with
  | failed => exact before
  | taken n waited free enabled mode mutex tcb links =>
      rw [links, blocks.blockLinks.removeEntry_next_single (by simp [reached]),
        before]

theorem Tried.behind (tried : Tried t k locks k' locks')
    (blocks : Blocks k locks) (reached : locks.blocked = front ++ t :: rest) :
    ∃ front', locks'.blocked = front' ++ rest := by
  have nodup := blocks.blockLinks.nodup ()
  rw [reached] at nodup
  have absent : t ∉ front := fun inside =>
    (List.nodup_append.mp nodup).2.2 t inside t (by simp) rfl
  cases tried with
  | failed => exact ⟨front ++ [t], by simp [reached]⟩
  | taken n waited free enabled mode mutex tcb links =>
      refine ⟨front, ?_⟩
      change locks.blocked.erase t = _
      simp [reached, List.erase_append, absent]

theorem retryBlocked_entry (fuel : Nat) (hiPriTask : Option TaskId)
    (rounds : Nat) (k : Kernel) (t : TaskId) (needSwitch : Bool) :
    retryBlocked fuel hiPriTask (rounds + 1) k (.entry t) needSwitch =
      (if some t ≠ hiPriTask then tryLockMutex fuel k t
        else some (k, false)).bind fun (k, woken) =>
          if k.blockLinks.next (.entry t) = .head () then
            some (k, needSwitch || woken)
          else retryBlocked fuel hiPriTask rounds k
            (k.blockLinks.next (.entry t)) (needSwitch || woken) := by
  simp only [retryBlocked, getTaskByBlockQueque, Option.bind_eq_bind,
    Option.bind_some]
  split <;> rfl

/-- What a number of attempts does. -/
inductive Retried : Kernel → Locks → Kernel → Locks → Prop where
  | refl {k : Kernel} {locks : Locks} : Retried k locks k locks
  | step {k k₁ k₂ : Kernel} {locks locks₁ locks₂ : Locks} {t : TaskId}
      (member : t ∈ locks.blocked) (tried : Tried t k locks k₁ locks₁)
      (later : Retried k₁ locks₁ k₂ locks₂) : Retried k locks k₂ locks₂

theorem Guarded.round (guarded : Guarded rule dropped k lists locks)
    (indifferent : rule.Indifferent) (member : t ∈ locks.blocked)
    (hiPriTask : Option TaskId) (fuel : Nat) :
    Ends (if some t ≠ hiPriTask then tryLockMutex fuel k t
        else some (k, false)) fun (k', _) => ∃ lists' locks',
      Guarded rule dropped k' lists' locks' ∧ Tried t k locks k' locks' :=
  ends_ite (fun _ => guarded.tryLock indifferent member fuel)
    fun _ => ends_some ⟨lists, locks, guarded, .failed⟩

theorem Guarded.retry (guarded : Guarded rule dropped k lists locks)
    (indifferent : rule.Indifferent)
    (reached : locks.blocked = front ++ t :: rest)
    (hiPriTask : Option TaskId) {fuel rounds : Nat} {needSwitch : Bool} :
    Ends (retryBlocked fuel hiPriTask rounds k (.entry t) needSwitch)
      fun (k', _) => ∃ lists' locks',
        Guarded rule dropped k' lists' locks' ∧
          Retried k locks k' locks' := by
  induction rounds generalizing k lists locks t front rest needSwitch with
  | zero => exact ends_none
  | succ rounds ih =>
      have member : t ∈ locks.blocked := by simp [reached]
      rw [retryBlocked_entry]
      refine Ends.bind (guarded.round indifferent member hiPriTask fuel)
        fun (k₁, _) ⟨lists₁, locks₁, after, tried⟩ => ?_
      have next := tried.next guarded.blocks reached
      obtain ⟨front₁, reached₁⟩ := tried.behind guarded.blocks reached
      refine ends_ite (fun _ => ends_some
        ⟨lists₁, locks₁, after, .step member tried .refl⟩) fun goOn => ?_
      cases rest with
      | nil => exact absurd next goOn
      | cons u rest =>
          rw [next]
          refine fun result run => ?_
          obtain ⟨lists', locks', done, later⟩ := ih after reached₁ result run
          exact ⟨lists', locks', done, .step member tried later⟩

end Scan

/-! ## Unlock -/

/-- The waiting task with the highest priority gets a mutex with a ceiling, unless
another ceiling is in its way. -/
theorem Guarded.handOverCeiling (guarded : Guarded rule dropped k lists locks)
    (indifferent : rule.Indifferent) (out : m ∈ dropped)
    (isMutex : k.isMutex m = true)
    (ceiling : (k.mutex m).attr = tnMutexAttrCeiling) (fuel : Nat) :
    Ends (handOver fuel k m) fun (k', _, hiPriTask) => ∃ lists' dropped' locks',
      Guarded rule dropped' k' lists' locks' ∧
        HandedOver m dropped k k' lists locks hiPriTask dropped' locks' := by
  have has : k.hasList (.mutex m) = true := isMutex
  refine ends_ite (fun empty => ends_some ?_) fun awaited => ?_
  · exact ⟨lists, _, locks, guarded.free out,
      .freed (guarded.kept.nobodyWaits isMutex empty) rfl rfl⟩
  rw [if_pos ceiling]
  have some : lists.task (.wait (.mutex m)) ≠ [] := fun empty =>
    awaited ((guarded.kept.noWaiters_iff has).mpr empty)
  refine Ends.bind (highestWaiter_spec guarded.kept some) fun found best => ?_
  refine Ends.bind (show Ends found (found = Option.some ·) from
    fun _ isFound => isFound) fun w isFound => ?_
  have best : (k.best (none, tnNumPriority - 1)
      (lists.task (.wait (.mutex m)))).1 = Option.some w :=
    best.symm.trans isFound
  obtain ⟨reason, waits⟩ := guarded.kept.consistent.mem_mutex.mp
    ((Kernel.best_mem best).resolve_left nofun)
  refine Ends.bind (enableLockMutex_spec guarded.owns.lockLinks)
    fun (enabled, blkTask) ⟨answer, found⟩ => ends_ite (fun enables => ?_)
      fun denied => ?_
  · refine Ends.bind (removeTaskFromBlockedList_spec
      (k := { k with taskLinks := queueRemoveEntry k.taskLinks (.entry w) })
      guarded.blocks.blockLinks) fun k₁ ⟨blockLinks, same, unblocked⟩ => ?_
    subst same
    refine Ends.bind (guarded.endWait indifferent waits blockLinks unblocked
      fuel) ?_
    rintro ⟨k₂, _⟩ ⟨lists₂, after, mutex, isTask, waits₂⟩
    have given : (takeCeilingMutex k₂ w m).mutex = Function.update k.mutex m
        { k.mutex m with holder := Option.some w } := by
      change Function.update k₂.mutex m
        { k₂.mutex m with holder := Option.some w } = _
      rw [mutex]
    have waits' : ∀ u, ((takeCeilingMutex k₂ w m).tcb u).mutexWait =
        if u = w then none else (k.tcb u).mutexWait := by
      intro u
      rw [← waits₂ u]
      by_cases same : u = w
      · subst same
        simp [takeCeilingMutex, takeMutex, Kernel.setTcb, Kernel.setMutex,
          Tcb.mutexWait]
      · simp [takeCeilingMutex, takeMutex, Kernel.setTcb, Kernel.setMutex,
          same]
    have enabled : ∀ n ∈ locks.locked, k.bars w n = false := fun n locked => by
      simpa using List.all_eq_true.mp (answer.symm.trans enables) n locked
    exact ends_some ⟨lists₂, _, _, after.takeCeiling indifferent
      ((Kernel.isMutex_congr mutex m).trans isMutex) (by rw [mutex, ceiling])
      (.inl out) isTask, .handed w waits given waits' (by simp [ceiling])
        fun _ => ⟨best, enabled⟩⟩
  · have barred : ∃ n ∈ locks.locked, k.bars w n = true := by
      have some := answer.symm.trans (eq_false_of_ne_true denied)
      simpa using some
    refine Ends.bind (blockedContains_spec guarded.blocks.blockLinks)
      fun listed isListed => ends_ite (fun member => ?_) fun unlisted => ?_
    · have member : w ∈ locks.blocked := by simpa [isListed] using member
      obtain ⟨n, blocked⟩ := (guarded.blocks.blocked w).mp member
      refine ends_some ⟨lists, dropped, locks, guarded,
        .denied w ceiling best barred rfl fun u => ?_⟩
      split
      · next same =>
          obtain ⟨rfl, -⟩ := Prod.mk.inj
            (Option.some.inj (waits.symm.trans blocked))
          rw [same, blocked]
      · rfl
    · have absent : w ∉ locks.blocked := by simpa [isListed] using unlisted
      obtain ⟨task, isWait, queue, -⟩ := Tcb.mutexWait_eq_some.mp waits
      have known : ∀ u, blkTask = Option.some u → k.isTask u = true := by
        intro u stored
        obtain ⟨n, locked, held⟩ := found u stored
        exact guarded.owns.holder n u
          ((guarded.owns.locked n).mp locked).2.1 held
      refine ends_some ⟨lists, dropped, _,
        guarded.stayBlocked indifferent waits ceiling absent known,
        .denied w ceiling best barred rfl fun u => ?_⟩
      by_cases same : u = w
      · subst same
        rw [if_pos rfl]
        simp [Kernel.setTcb, Tcb.mutexWait_eq_some, task, isWait, queue]
      · simp [Kernel.setTcb, same]

/-- The three parts of `do_unlock_mutex`, behind the removal of the mutex from its
lists. -/
inductive Unlocks (rule : Rule) (m : MutexId) (dropped : Set MutexId)
    (k k' : Kernel) (lists : Lists) (locks : Locks) (dropped' : Set MutexId)
    (locks' : Locks) : Prop where
  | parts {k₁ k₂ : Kernel} {lists₁ : Lists} {hiPriTask : Option TaskId}
      {locks₂ : Locks}
      (adjusted : Adjusted rule { k with
        mutexLinks := queueRemoveEntry k.mutexLinks (.entry m)
        lockLinks := queueRemoveEntry k.lockLinks (.entry m) } k₁ lists lists₁)
      (others : ∀ t, t ≠ k.tnCurrRunTask → k₁.tcb t = k.tcb t)
      (handed : HandedOver m (insert m dropped) k₁ k₂ lists₁ (locks.drop m)
        hiPriTask dropped' locks₂)
      (retried : Retried k₂ locks₂ k' locks')

theorem Guarded.retryAll (guarded : Guarded rule dropped k lists locks)
    (indifferent : rule.Indifferent) (hiPriTask : Option TaskId)
    {fuel rounds : Nat} {needSwitch : Bool} :
    Ends (retryBlocked fuel hiPriTask rounds k (k.blockLinks.next (.head ()))
        needSwitch) fun (k', _) => ∃ lists' locks',
      Guarded rule dropped k' lists' locks' ∧ Retried k locks k' locks' := by
  have first := guarded.blocks.blockLinks.next_head_single
  cases shape : locks.blocked with
  | nil =>
      rw [shape] at first
      rw [show k.blockLinks.next (.head ()) = .head () from first]
      cases rounds <;> exact ends_none
  | cons t rest =>
      rw [shape] at first
      rw [show k.blockLinks.next (.head ()) = .entry t from first]
      exact guarded.retry indifferent
        (show _ = [] ++ t :: rest from shape) hiPriTask

/-- The three parts, with what is known of the last one: the blocked tasks are tried
only if the mutex has become free. -/
inductive Settles (rule : Rule) (m : MutexId) (dropped : Set MutexId)
    (k k' : Kernel) (lists : Lists) (locks : Locks) (dropped' : Set MutexId)
    (locks' : Locks) : Prop where
  | parts {k₁ k₂ : Kernel} {lists₁ : Lists} {hiPriTask : Option TaskId}
      {locks₂ : Locks}
      (adjusted : Adjusted rule { k with
        mutexLinks := queueRemoveEntry k.mutexLinks (.entry m)
        lockLinks := queueRemoveEntry k.lockLinks (.entry m) } k₁ lists lists₁)
      (others : ∀ t, t ≠ k.tnCurrRunTask → k₁.tcb t = k.tcb t)
      (handed : HandedOver m (insert m dropped) k₁ k₂ lists₁ (locks.drop m)
        hiPriTask dropped' locks₂)
      (retried : Retried k₂ locks₂ k' locks')
      (settled : (k₂.mutex m).holder ≠ none → k' = k₂ ∧ locks' = locks₂)

theorem Settles.unlocks {dropped' : Set MutexId}
    (settles : Settles rule m dropped k k' lists locks dropped' locks') :
    Unlocks rule m dropped k k' lists locks dropped' locks' := by
  obtain ⟨adjusted, others, handed, retried, -⟩ := settles
  exact .parts adjusted others handed retried

/-- What `do_unlock_mutex` does to a mutex that the running task holds. -/
theorem Guarded.settle (guarded : Guarded rule dropped k lists locks)
    (indifferent : rule.Indifferent) (isMutex : k.isMutex m = true)
    (listed : m ∉ dropped)
    (held : (k.mutex m).holder = some k.tnCurrRunTask)
    (running : (k.tcb k.tnCurrRunTask).taskState = .runnable) (fuel : Nat) :
    Ends (doUnlockMutex fuel k m) fun (k', _) => ∃ lists' dropped' locks',
      Guarded rule dropped' k' lists' locks' ∧
        Settles rule m dropped k k' lists locks dropped' locks' := by
  have unlinked := guarded.drop isMutex listed held
  refine Ends.bind (fun first run => And.intro
    (unlockPriority_adjusted unlinked.kept indifferent unlinked.known fuel m
      first run)
    (unlockPriority_others unlinked.kept indifferent running fuel m first run))
    fun (k₁, _) ⟨⟨lists₁, adjusted⟩, others⟩ => ?_
  have mutex₁ : k₁.mutex = k.mutex := congrArg Footing.mutex adjusted.footing
  have isMutex₁ := (Kernel.isMutex_congr mutex₁ m).trans isMutex
  have guarded₁ := unlinked.adjust adjusted
  have handsOver : Ends (handOver fuel k₁ m) fun (k₂, _, hiPriTask) =>
      ∃ lists₂ dropped₂ locks₂, Guarded rule dropped₂ k₂ lists₂ locks₂ ∧
        HandedOver m (insert m dropped) k₁ k₂ lists₁ (locks.drop m) hiPriTask
          dropped₂ locks₂ := by
    rcases guarded₁.owns.kind m isMutex₁ with ceiling | inherits
    · exact guarded₁.handOverCeiling indifferent (Set.mem_insert m dropped)
        isMutex₁ ceiling fuel
    · exact guarded₁.handOverInherit indifferent (Set.mem_insert m dropped)
        isMutex₁ inherits fuel
  refine Ends.bind handsOver
    fun (k₂, _, hiPriTask) ⟨lists₂, dropped₂, locks₂, guarded₂, handed⟩ =>
      ends_ite (fun free => ?_) fun _ => ends_some
        ⟨lists₂, dropped₂, locks₂, guarded₂,
          .parts adjusted others handed .refl fun _ => ⟨rfl, rfl⟩⟩
  rintro ⟨k₃, _⟩ run
  obtain ⟨lists₃, locks₃, guarded₃, retried⟩ :=
    guarded₂.retryAll indifferent hiPriTask _ run
  exact ⟨lists₃, dropped₂, locks₃, guarded₃, .parts adjusted others handed
    retried fun awarded => absurd free.1 awarded⟩

theorem Guarded.release (guarded : Guarded rule dropped k lists locks)
    (indifferent : rule.Indifferent) (isMutex : k.isMutex m = true)
    (listed : m ∉ dropped)
    (held : (k.mutex m).holder = some k.tnCurrRunTask)
    (running : (k.tcb k.tnCurrRunTask).taskState = .runnable) (fuel : Nat) :
    Ends (doUnlockMutex fuel k m) fun (k', _) => ∃ lists' dropped' locks',
      Guarded rule dropped' k' lists' locks' ∧
        Unlocks rule m dropped k k' lists locks dropped' locks' := by
  intro after run
  obtain ⟨lists', dropped', locks', kept, settles⟩ :=
    guarded.settle indifferent isMutex listed held running fuel after run
  exact ⟨lists', dropped', locks', kept, settles.unlocks⟩

/-! ## Lock -/

/-- What a request for a mutex does: it is refused, granted, or the running task
starts to wait. -/
inductive Asked (m : MutexId) (k k' : Kernel) (locks : Locks) : Locks → Prop where
  | refused (same : k' = k) : Asked m k k' locks locks
  | taken {ceiling : Bool} (free : (k.mutex m).holder = none)
      (legal : k.lockIllegal m = false)
      (kind : ceiling = true ↔ (k.mutex m).attr = tnMutexAttrCeiling)
      (enabled : ceiling = true →
        ∀ n ∈ locks.locked, k.bars k.tnCurrRunTask n = false)
      (mutex : k'.mutex = Function.update k.mutex m
        { k.mutex m with holder := some k.tnCurrRunTask })
      (waits : ∀ t, (k'.tcb t).mutexWait = (k.tcb t).mutexWait) :
      Asked m k k' locks (locks.take k.tnCurrRunTask m ceiling)
  | waits (reason : WaitReason) {blocked : List TaskId}
      (legal : k.lockIllegal m = false) (mutex : k'.mutex = k.mutex)
      (waits : ∀ t, (k'.tcb t).mutexWait =
        if t = k.tnCurrRunTask then some (m, reason)
        else (k.tcb t).mutexWait) :
      Asked m k k' locks { locks with blocked := blocked }

theorem Guarded.getCeiling (guarded : Guarded rule dropped k lists locks)
    (indifferent : rule.Indifferent) (isMutex : k.isMutex m = true)
    (ceiling : (k.mutex m).attr = tnMutexAttrCeiling)
    (free : (k.mutex m).holder = none) (legal : k.lockIllegal m = false)
    (enabled : ∀ n ∈ locks.locked, k.bars k.tnCurrRunTask n = false) :
    ∃ lists' locks',
      Guarded rule dropped (takeCeilingMutex k k.tnCurrRunTask m) lists'
        locks' ∧
      Asked m k (takeCeilingMutex k k.tnCurrRunTask m) locks locks' := by
  have listed : m ∉ dropped := fun out =>
    (guarded.owns.dropped m out).2 free
  have taken := guarded.takeCeiling indifferent isMutex ceiling (.inr free)
    (isTask_iff.mpr guarded.kept.curr)
  rw [Set.sdiff_singleton_eq_self listed] at taken
  refine ⟨lists, _, taken, .taken free legal (by simp [ceiling])
    (fun _ => enabled) rfl fun t => ?_⟩
  by_cases same : t = k.tnCurrRunTask
  · subst same
    simp [takeCeilingMutex, takeMutex, Kernel.setTcb, Kernel.setMutex,
      Tcb.mutexWait]
  · simp [takeCeilingMutex, takeMutex, Kernel.setTcb, Kernel.setMutex, same]

theorem Guarded.getInherit (guarded : Guarded rule dropped k lists locks)
    (isMutex : k.isMutex m = true)
    (inherits : (k.mutex m).attr = tnMutexAttrInherit)
    (free : (k.mutex m).holder = none) (legal : k.lockIllegal m = false) :
    ∃ lists' locks',
      Guarded rule dropped (takeMutex k k.tnCurrRunTask m) lists' locks' ∧
      Asked m k (takeMutex k k.tnCurrRunTask m) locks locks' := by
  have listed : m ∉ dropped := fun out =>
    (guarded.owns.dropped m out).2 free
  have taken := guarded.take isMutex inherits (.inr free)
    (isTask_iff.mpr guarded.kept.curr)
  rw [Set.sdiff_singleton_eq_self listed] at taken
  exact ⟨lists, _, taken, .taken free legal
    (by simp [inherits, tnMutexAttrInherit, tnMutexAttrCeiling]) nofun rfl
    fun _ => rfl⟩

/-- The running task starts to wait, after the priority of the task that is in the
way may have been raised. -/
theorem Guarded.askHeld (guarded : Guarded rule dropped k lists locks)
    (indifferent : rule.Indifferent) (isMutex : k.isMutex m = true)
    (running : (k.tcb k.tnCurrRunTask).taskState = .runnable)
    (stop : rule.stop k.tnCurrRunTask) {timeout : Word}
    (waits : rule.waits (some (.mutex m)) timeout)
    (legal : k.lockIllegal m = false) {holder : TaskId}
    (held : (k.mutex m).holder = some holder) {reason : WaitReason}
    (fits : reason.fits (some (.mutex m)) = true)
    (unblocked : reason ≠ .mutexCBlk) (fuel : Nat) :
    Ends (do
        let k₁ ← inheritPriority fuel k holder
        let k' ← taskCurrToWaitAction k₁ (some (.mutex m)) reason timeout
        some (k', Reply.block))
      fun (k', _) => ∃ lists' locks', Guarded rule dropped k' lists' locks' ∧
        Asked m k k' locks locks' := by
  have isTask := guarded.owns.holder m holder isMutex held
  refine Ends.bind (inheritPriority_adjusted guarded.kept indifferent
    guarded.known isTask) fun k₁ ⟨lists₁, adjusted⟩ => ?_
  have mutex₁ : k₁.mutex = k.mutex := congrArg Footing.mutex adjusted.footing
  have curr₁ : k₁.tnCurrRunTask = k.tnCurrRunTask :=
    congrArg (·.mode.tnCurrRunTask) adjusted.footing
  obtain ⟨p, tcb₁⟩ := adjusted.tcb k.tnCurrRunTask
  obtain ⟨k₂, lists₂, run, after, changed⟩ := (guarded.adjust adjusted).wait
    ((Kernel.isMutex_congr mutex₁ m).trans isMutex)
    (by rw [curr₁, tcb₁]; exact running) (by rw [curr₁]; exact stop) waits
    fits unblocked
  refine ends_bind_eq run (ends_some ⟨lists₂, { locks with blocked := locks.blocked }, after,
    .waits reason legal (changed.same.mutex.trans mutex₁) fun t => ?_⟩)
  rw [changed.tcb, curr₁]
  by_cases same : t = k.tnCurrRunTask
  · subst same
    rw [Function.update_self, if_pos rfl, tcb₁]
    exact Tcb.mutexWait_eq_some.mpr ⟨guarded.kept.curr, rfl, rfl, rfl⟩
  · rw [Function.update_of_ne same, if_neg same]
    exact adjusted.mutexWait t

/-- The running task starts to wait for a free mutex that a ceiling denies it. -/
theorem Guarded.askDenied (guarded : Guarded rule dropped k lists locks)
    (indifferent : rule.Indifferent) (isMutex : k.isMutex m = true)
    (ceiling : (k.mutex m).attr = tnMutexAttrCeiling)
    (running : (k.tcb k.tnCurrRunTask).taskState = .runnable)
    (stop : rule.stop k.tnCurrRunTask) {timeout : Word}
    (waits : rule.waits (some (.mutex m)) timeout)
    (legal : k.lockIllegal m = false) {blkTask : Option TaskId}
    (known : ∀ u, blkTask = some u → k.isTask u = true)
    {raised : Option Kernel} (raises : Ends raised fun k₁ =>
      ∃ lists₁, Adjusted rule k k₁ lists lists₁) :
    Ends (do
        let k₁ ← raised
        let k' ← taskCurrToWaitAction { k₁.setTcb k.tnCurrRunTask
            { k₁.tcb k.tnCurrRunTask with blkTask := blkTask } with
          blockLinks := queueAddTail k₁.blockLinks (.head ())
            (.entry k.tnCurrRunTask) } (some (.mutex m)) .mutexCBlk timeout
        some (k', Reply.block))
      fun (k', _) => ∃ lists' locks', Guarded rule dropped k' lists' locks' ∧
        Asked m k k' locks locks' := by
  refine Ends.bind raises fun k₁ ⟨lists₁, adjusted⟩ => ?_
  have mutex₁ : k₁.mutex = k.mutex := congrArg Footing.mutex adjusted.footing
  have curr₁ : k₁.tnCurrRunTask = k.tnCurrRunTask :=
    congrArg (·.mode.tnCurrRunTask) adjusted.footing
  have known₁ : ∀ u, blkTask = some u → k₁.isTask u = true := by
    intro u stored
    obtain ⟨q, tcb⟩ := adjusted.tcb u
    rw [isTask_iff, tcb]
    exact isTask_iff.mp (known u stored)
  obtain ⟨p, tcb₁⟩ := adjusted.tcb k.tnCurrRunTask
  have wait := (guarded.adjust adjusted).waitBlocked indifferent
    ((Kernel.isMutex_congr mutex₁ m).trans isMutex) (by rw [mutex₁, ceiling])
    (by rw [curr₁, tcb₁]; exact running) (by rw [curr₁]; exact stop) waits
    known₁
  rw [curr₁] at wait
  refine Ends.bind wait fun k' ⟨lists₂, after, mutex, waits₂⟩ =>
    ends_some ⟨lists₂, _, after,
      .waits .mutexCBlk legal (mutex.trans mutex₁) fun t => ?_⟩
  rw [waits₂ t, adjusted.mutexWait t]

/-- What the critical section of `tn_mutex_lock` does to mutexes of both kinds. -/
theorem Guarded.ask (guarded : Guarded rule dropped k lists locks)
    (indifferent : rule.Indifferent) (isMutex : k.isMutex m = true)
    (running : (k.tcb k.tnCurrRunTask).taskState = .runnable)
    (stop : rule.stop k.tnCurrRunTask) {timeout : Word}
    (waits : rule.waits (some (.mutex m)) timeout) (fuel : Nat) :
    Ends (mutexLockBody fuel k timeout m) fun (k', _) => ∃ lists' locks',
      Guarded rule dropped k' lists' locks' ∧ Asked m k k' locks locks' := by
  unfold mutexLockBody
  dsimp only
  refine ends_ite (fun _ => ends_some ⟨lists, locks, guarded, .refused rfl⟩)
    fun notIllegal => ?_
  have legal := eq_false_of_ne_true notIllegal
  rcases guarded.owns.kind m isMutex with ceiling | inherits
  · rw [if_pos ceiling]
    split
    case h_1 free =>
        refine Ends.bind (enableLockMutex_spec guarded.owns.lockLinks)
          fun (enabled, blkTask) ⟨answer, found⟩ => ends_ite (fun may => ?_)
            fun _ => ?_
        · refine ends_some (guarded.getCeiling indifferent isMutex ceiling free
            legal fun n locked => ?_)
          simpa using List.all_eq_true.mp (answer.symm.trans may) n locked
        · have known : ∀ u, blkTask = some u → k.isTask u = true := by
            intro u stored
            obtain ⟨n, locked, held⟩ := found u stored
            exact guarded.owns.holder n u
              ((guarded.owns.locked n).mp locked).2.1 held
          cases blkTask with
          | none =>
              exact guarded.askDenied indifferent isMutex ceiling running stop
                waits legal known (ends_some ⟨lists, .refl guarded.kept⟩)
          | some u =>
              exact guarded.askDenied indifferent isMutex ceiling running stop
                waits legal known (inheritPriority_adjusted guarded.kept
                  indifferent guarded.known (known u rfl))
    case h_2 holder held =>
        exact guarded.askHeld indifferent isMutex running stop waits legal held
          (show WaitReason.mutexC.fits (some (.mutex m)) = true from rfl)
          (by decide) fuel
  · have notCeiling : (k.mutex m).attr ≠ tnMutexAttrCeiling := by
      rw [inherits]
      decide
    rw [if_neg notCeiling, if_pos inherits]
    split
    case h_1 free =>
        exact ends_some (guarded.getInherit isMutex inherits free legal)
    case h_2 holder held =>
        exact guarded.askHeld indifferent isMutex running stop waits legal held
          (show WaitReason.mutexI.fits (some (.mutex m)) = true from rfl)
          (by decide) fuel

theorem Guarded.poll (guarded : Guarded rule dropped k lists locks)
    (indifferent : rule.Indifferent) (isMutex : k.isMutex m = true)
    (fuel : Nat) :
    Ends (mutexLockPollingBody fuel k m) fun (k', _) => ∃ lists' locks',
      Guarded rule dropped k' lists' locks' ∧ Asked m k k' locks locks' := by
  have refused : ∃ lists' locks', Guarded rule dropped k lists' locks' ∧
      Asked m k k locks locks' := ⟨lists, locks, guarded, .refused rfl⟩
  unfold mutexLockPollingBody
  dsimp only
  refine ends_ite (fun _ => ends_some refused) fun notIllegal => ends_ite
    (fun free => ?_) fun _ => ends_some refused
  have legal := eq_false_of_ne_true notIllegal
  refine ends_ite (fun ceiling => ?_) fun notCeiling => ends_ite
    (fun inherits => ?_) fun _ => ends_some refused
  · refine Ends.bind (enableLockMutex_spec guarded.owns.lockLinks)
      fun (enabled, _) ⟨answer, _⟩ => ends_ite (fun may => ?_)
        fun _ => ends_some refused
    refine ends_some (guarded.getCeiling indifferent isMutex ceiling free legal
      fun n locked => ?_)
    simpa using List.all_eq_true.mp (answer.symm.trans may) n locked
  · exact ends_some (guarded.getInherit isMutex inherits free legal)

end Parts

end UsbBulk
