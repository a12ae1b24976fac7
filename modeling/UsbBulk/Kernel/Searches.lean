import UsbBulk.Kernel.Mutex

/-!
# What the searches of `tn_mutex.c` find

Each of these loops goes through one list and changes nothing.  With one round for
each entry of the list it ends with the value that a fold over the list gives.
-/

namespace UsbBulk

/-- The highest priority among a given one and those of some tasks. -/
def Kernel.highest (k : Kernel) (p : Nat) (tasks : List TaskId) : Nat :=
  tasks.foldl (fun q u => if (k.tcb u).priority < q then (k.tcb u).priority
    else q) p

/-- The task with the highest priority and this priority, and the values to start
with where no task has a higher one. -/
def Kernel.best (k : Kernel) (found : Option TaskId × Nat)
    (tasks : List TaskId) : Option TaskId × Nat :=
  tasks.foldl (fun found u => if (k.tcb u).priority < found.2 then
    (some u, (k.tcb u).priority) else found) found

/-- A locked mutex of another task has a ceiling above the priority of the task. -/
def Kernel.bars (k : Kernel) (t : TaskId) (m : MutexId) : Bool :=
  (k.mutex m).attr = tnMutexAttrCeiling ∧ (k.mutex m).holder ≠ some t ∧
    (k.mutex m).ceilPriority < (k.tcb t).priority

section Searches

variable {k k' : Kernel} {live : QueueHead → Prop}
variable {task : QueueHead → List TaskId} {m : MutexId} {t u : TaskId}
variable {p q fuel : Nat} {tasks : List TaskId}

/-! ## Waiting tasks -/

theorem Kernel.highest_congr
    (same : ∀ u ∈ tasks, (k'.tcb u).priority = (k.tcb u).priority) :
    k'.highest p tasks = k.highest p tasks := by
  unfold Kernel.highest
  induction tasks generalizing p with
  | nil => rfl
  | cons u tasks ih =>
      rw [List.foldl_cons, List.foldl_cons, same u List.mem_cons_self]
      exact ih fun v member => same v (List.mem_cons_of_mem _ member)

theorem maxWaiterPriority_eq (represents : Represents k.taskLinks live task)
    {front rest : List TaskId}
    (reached : task (.wait (.mutex m)) = front ++ u :: rest)
    (enough : (u :: rest).length ≤ fuel) :
    maxWaiterPriority k m fuel (.entry u) p =
      some (k.highest p (u :: rest)) := by
  induction rest generalizing front u p fuel with
  | nil =>
      obtain ⟨fuel, rfl⟩ := Nat.exists_eq_add_of_le' enough
      exact if_pos (represents.next_entry reached)
  | cons v rest ih =>
      obtain ⟨fuel, rfl⟩ := Nat.exists_eq_add_of_le'
        ((Nat.le_add_left 1 _).trans enough)
      have goOn : k.taskLinks.next (.entry u) = .entry v :=
        represents.next_entry reached
      have notLast : k.taskLinks.next (.entry u) ≠
          .head (.wait (.mutex m)) := by
        simp [goOn]
      refine (if_neg notLast).trans ?_
      rw [goOn]
      have split : task (.wait (.mutex m)) = (front ++ [u]) ++ v :: rest := by
        simpa using reached
      exact ih split (by simpa using enough)

/-- What `find_max_blocked_priority` finds. -/
theorem findMaxBlockedPriority_eq (represents : Represents k.taskLinks live task)
    (alive : live (.wait (.mutex m)))
    (attr : (k.mutex m).attr = tnMutexAttrInherit ∨
      (k.mutex m).attr = tnMutexAttrCeiling)
    (enough : (task (.wait (.mutex m))).length ≤ fuel) :
    findMaxBlockedPriority fuel k m p =
      some (k.highest p (task (.wait (.mutex m)))) := by
  have empty := represents.isQueueEmpty_iff alive
  have first := represents.next_head alive
  refine (if_pos attr).trans ?_
  cases waiting : task (.wait (.mutex m)) with
  | nil => exact if_pos (empty.mpr waiting)
  | cons u rest =>
      rw [waiting] at first empty enough
      refine (if_neg fun nobody => ?_).trans ?_
      · cases empty.mp nobody
      · rw [show k.taskLinks.next (.head (.wait (.mutex m))) = .entry u from
          first]
        exact maxWaiterPriority_eq represents
          (show _ = [] ++ u :: rest from waiting) enough

/-- The loop over the mutexes that the running task holds, from one on. -/
theorem maxHeldPriority_eq {known : TaskId → Prop}
    {owned : TaskId → List MutexId} {waiting : MutexId → List TaskId}
    (represents : Represents k.mutexLinks known owned)
    {front rest : List MutexId} {rounds : Nat}
    (reached : owned k.tnCurrRunTask = front ++ m :: rest)
    (each : ∀ n ∈ m :: rest, ∀ p,
      findMaxBlockedPriority fuel k n p = some (k.highest p (waiting n)))
    (enough : (m :: rest).length ≤ rounds) :
    maxHeldPriority fuel k rounds (.entry m) p =
      some ((m :: rest).foldl (fun p n => k.highest p (waiting n)) p) := by
  induction rest generalizing front m p rounds with
  | nil =>
      obtain ⟨rounds, rfl⟩ := Nat.exists_eq_add_of_le'
        (show 1 ≤ rounds from enough)
      simp only [maxHeldPriority, getMutexByMutexQueque,
        each m List.mem_cons_self, Option.bind_eq_bind, Option.bind_some]
      exact if_pos (represents.next_entry reached)
  | cons n rest ih =>
      obtain ⟨rounds, rfl⟩ := Nat.exists_eq_add_of_le'
        ((Nat.le_add_left 1 _).trans enough)
      have goOn : k.mutexLinks.next (.entry m) = .entry n :=
        represents.next_entry reached
      have split : owned k.tnCurrRunTask = (front ++ [m]) ++ n :: rest := by
        simpa using reached
      simp only [maxHeldPriority, getMutexByMutexQueque,
        each m List.mem_cons_self, Option.bind_eq_bind, Option.bind_some, goOn,
        reduceCtorEq, if_false]
      exact ih split (fun o member => each o (List.mem_cons_of_mem _ member))
        (by simpa using enough)

/-- The loop of `do_unlock_mutex` over the waiting tasks, from one on. -/
theorem highestWaiter_eq (represents : Represents k.taskLinks live task)
    {front rest : List TaskId} {hiPriTask : Option TaskId}
    (reached : task (.wait (.mutex m)) = front ++ u :: rest)
    (enough : (u :: rest).length ≤ fuel) :
    highestWaiter k m fuel (.entry u) hiPriTask p =
      some (k.best (hiPriTask, p) (u :: rest)).1 := by
  have step : ∀ (hiPriTask : Option TaskId) (p : Nat) (tasks : List TaskId),
      k.best (hiPriTask, p) (u :: tasks) =
        k.best (if (k.tcb u).priority < p then some u else hiPriTask,
          if (k.tcb u).priority < p then (k.tcb u).priority else p) tasks := by
    intro hiPriTask p tasks
    rw [Kernel.best, List.foldl_cons]
    split <;> rfl
  induction rest generalizing front u p fuel hiPriTask with
  | nil =>
      obtain ⟨fuel, rfl⟩ := Nat.exists_eq_add_of_le'
        (show 1 ≤ fuel from enough)
      simp only [highestWaiter, getTaskByTskQueue, Option.bind_eq_bind,
        Option.bind_some, decide_eq_true_eq]
      rw [step]
      exact if_pos (represents.next_entry reached)
  | cons v rest ih =>
      obtain ⟨fuel, rfl⟩ := Nat.exists_eq_add_of_le'
        ((Nat.le_add_left 1 _).trans enough)
      have goOn : k.taskLinks.next (.entry u) = .entry v :=
        represents.next_entry reached
      have split : task (.wait (.mutex m)) = (front ++ [u]) ++ v :: rest := by
        simpa using reached
      simp only [highestWaiter, getTaskByTskQueue, Option.bind_eq_bind,
        Option.bind_some, decide_eq_true_eq, goOn, reduceCtorEq, if_false, step]
      exact ih split (by simpa using enough) fun hiPriTask p tasks => by
        rw [Kernel.best, List.foldl_cons]
        split <;> rfl

theorem Kernel.best_congr {found : Option TaskId × Nat}
    (same : ∀ u ∈ tasks, (k'.tcb u).priority = (k.tcb u).priority) :
    k'.best found tasks = k.best found tasks := by
  unfold Kernel.best
  induction tasks generalizing found with
  | nil => rfl
  | cons u tasks ih =>
      rw [List.foldl_cons, List.foldl_cons, same u List.mem_cons_self]
      exact ih fun v member => same v (List.mem_cons_of_mem _ member)

theorem Kernel.best_mem {found : Option TaskId × Nat} {w : TaskId}
    (result : (k.best found tasks).1 = some w) :
    found.1 = some w ∨ w ∈ tasks := by
  unfold Kernel.best at result
  induction tasks generalizing found with
  | nil => exact .inl result
  | cons u tasks ih =>
      rw [List.foldl_cons] at result
      rcases ih result with same | member
      · split at same
        · cases same
          exact .inr List.mem_cons_self
        · exact .inl same
      · exact .inr (List.mem_cons_of_mem _ member)

/-! ## Locked mutexes -/

/-- The loop of `enable_lock_mutex` from a locked mutex on. -/
theorem enableLockFrom_eq {locked : List MutexId}
    (represents : Represents k.lockLinks (fun _ => True) fun _ => locked)
    {front rest : List MutexId} {result : Bool} {priority : Int}
    {resT : Option TaskId} (reached : locked = front ++ m :: rest)
    (enough : (m :: rest).length ≤ fuel) :
    ∃ blkTask, enableLockFrom k t fuel (.entry m) result priority resT =
        some (result && (m :: rest).all fun n => !k.bars t n, blkTask) ∧
      (blkTask = resT ∨ ∃ n ∈ m :: rest, blkTask = (k.mutex n).holder) := by
  induction rest generalizing front m fuel result priority resT with
  | nil =>
      obtain ⟨fuel, rfl⟩ := Nat.exists_eq_add_of_le'
        (show 1 ≤ fuel from enough)
      have last : k.lockLinks.next (.entry m) = .head () :=
        represents.next_entry_single reached
      simp only [enableLockFrom, getMutexByLockMutexQueque,
        Option.bind_eq_bind, Option.bind_some, last, if_true]
      refine ⟨_, by simp only [Kernel.bars, List.all_cons, List.all_nil,
        Bool.and_true]; rfl, ?_⟩
      split
      · exact .inr ⟨m, List.mem_cons_self, rfl⟩
      · exact .inl rfl
  | cons n rest ih =>
      obtain ⟨fuel, rfl⟩ := Nat.exists_eq_add_of_le'
        ((Nat.le_add_left 1 _).trans enough)
      have goOn : k.lockLinks.next (.entry m) = .entry n :=
        represents.next_entry_single reached
      have split : locked = (front ++ [m]) ++ n :: rest := by
        simpa using reached
      simp only [enableLockFrom, getMutexByLockMutexQueque,
        Option.bind_eq_bind, Option.bind_some, goOn, reduceCtorEq, if_false]
      obtain ⟨blkTask, run, from_⟩ := ih split (by simpa using enough)
      refine ⟨blkTask, run.trans ?_, ?_⟩
      · simp [Kernel.bars, Bool.and_assoc]
      · rcases from_ with same | ⟨o, member, held⟩
        · rw [same]
          split
          · exact .inr ⟨m, List.mem_cons_self, rfl⟩
          · exact .inl rfl
        · exact .inr ⟨o, List.mem_cons_of_mem _ member, held⟩

/-- What `enable_lock_mutex` answers. -/
theorem enableLockMutex_eq {locked : List MutexId}
    (represents : Represents k.lockLinks (fun _ => True) fun _ => locked)
    (t : TaskId) (enough : locked.length ≤ fuel) :
    ∃ blkTask, enableLockMutex fuel k t =
        some (locked.all fun n => !k.bars t n, blkTask) ∧
      ∀ u, blkTask = some u → ∃ n ∈ locked, (k.mutex n).holder = some u := by
  have empty := represents.isQueueEmpty_single
  have first := represents.next_head_single
  cases shape : locked with
  | nil =>
      exact ⟨none, if_pos (empty.mpr shape), fun u stored => by cases stored⟩
  | cons m rest =>
      rw [shape] at first enough
      obtain ⟨blkTask, run, from_⟩ := @enableLockFrom_eq k m t fuel locked
        represents [] rest true 0 none shape enough
      refine ⟨blkTask, (if_neg fun nobody => ?_).trans ?_, fun u stored => ?_⟩
      · rw [shape] at empty
        cases empty.mp nobody
      · rw [show k.lockLinks.next (.head ()) = .entry m from first]
        simpa using run
      · rcases from_ with none | ⟨n, member, held⟩
        · cases none.symm.trans stored
        · exact ⟨n, member, held ▸ stored⟩

/-! ## Blocked tasks -/

theorem removeBlockedFrom_eq {blocked : List TaskId}
    (represents : Represents k.blockLinks (fun _ => True) fun _ => blocked)
    {front rest : List TaskId} (reached : blocked = front ++ u :: rest)
    (enough : (u :: rest).length ≤ fuel) :
    removeBlockedFrom k t fuel (.entry u) = some { k with
      blockLinks := if t ∈ u :: rest then queueRemoveEntry k.blockLinks (.entry t)
        else k.blockLinks } := by
  induction rest generalizing front u fuel with
  | nil =>
      obtain ⟨fuel, rfl⟩ := Nat.exists_eq_add_of_le'
        (show 1 ≤ fuel from enough)
      have last : k.blockLinks.next (.entry u) = .head () :=
        represents.next_entry_single reached
      by_cases here : u = t
      · simp [removeBlockedFrom, here]
      · simp [removeBlockedFrom, here, Ne.symm here, last]
  | cons v rest ih =>
      obtain ⟨fuel, rfl⟩ := Nat.exists_eq_add_of_le'
        ((Nat.le_add_left 1 _).trans enough)
      have goOn : k.blockLinks.next (.entry u) = .entry v :=
        represents.next_entry_single reached
      have split : blocked = (front ++ [u]) ++ v :: rest := by
        simpa using reached
      have later := ih split (by simpa using enough)
      by_cases here : u = t
      · simp [removeBlockedFrom, here]
      · simp [removeBlockedFrom, here, Ne.symm here, goOn, later]

theorem removeTaskFromBlockedList_eq {blocked : List TaskId}
    (represents : Represents k.blockLinks (fun _ => True) fun _ => blocked)
    (t : TaskId) (enough : blocked.length < fuel) :
    removeTaskFromBlockedList fuel k t = some { k with
      blockLinks := if t ∈ blocked then queueRemoveEntry k.blockLinks (.entry t)
        else k.blockLinks } := by
  have first := represents.next_head_single
  cases shape : blocked with
  | nil =>
      obtain ⟨fuel, rfl⟩ := Nat.exists_eq_add_of_lt enough
      rw [shape] at first
      have head : k.blockLinks.next (.head ()) = .head () := first
      simp [removeTaskFromBlockedList, removeBlockedFrom, head]
  | cons u rest =>
      rw [shape] at first enough
      have head : k.blockLinks.next (.head ()) = .entry u := first
      rw [removeTaskFromBlockedList, head]
      exact @removeBlockedFrom_eq k t u fuel blocked represents [] rest shape
        enough.le

/-! ## More rounds -/

/-- A search that has come to its end comes to the same end with more rounds. -/
theorem enableLockFrom_more {que : Node Unit MutexId} {result : Bool}
    {priority : Int} {resT : Option TaskId} {after : Bool × Option TaskId}
    (run : enableLockFrom k t fuel que result priority resT = some after)
    (more : Nat) :
    enableLockFrom k t (fuel + more) que result priority resT = some after := by
  induction fuel generalizing que result priority resT with
  | zero => cases run
  | succ fuel ih =>
      rw [Nat.add_right_comm]
      obtain ⟨m, mutex, run⟩ := Option.bind_eq_some_iff.mp run
      refine Option.bind_eq_some_iff.mpr ⟨m, mutex, ?_⟩
      dsimp only at run ⊢
      split at run
      · next last => rwa [if_pos last]
      · next goOn =>
          rw [if_neg goOn]
          exact ih run

theorem enableLockMutex_more {after : Bool × Option TaskId}
    (run : enableLockMutex fuel k t = some after) (more : Nat) :
    enableLockMutex (fuel + more) k t = some after := by
  unfold enableLockMutex at run ⊢
  split at run
  · next empty => rwa [if_pos empty]
  · next some =>
      rw [if_neg some]
      exact enableLockFrom_more run more

theorem highestWaiter_more {que : Node QueueHead TaskId}
    {hiPriTask : Option TaskId} {after : Option TaskId}
    (run : highestWaiter k m fuel que hiPriTask p = some after) (more : Nat) :
    highestWaiter k m (fuel + more) que hiPriTask p = some after := by
  induction fuel generalizing que hiPriTask p with
  | zero => cases run
  | succ fuel ih =>
      rw [Nat.add_right_comm]
      obtain ⟨u, task, run⟩ := Option.bind_eq_some_iff.mp run
      refine Option.bind_eq_some_iff.mpr ⟨u, task, ?_⟩
      dsimp only at run ⊢
      split at run
      · next last => rwa [if_pos last]
      · next goOn =>
          rw [if_neg goOn]
          exact ih run

theorem maxWaiterPriority_more {que : Node QueueHead TaskId}
    (run : maxWaiterPriority k m fuel que p = some q) (more : Nat) :
    maxWaiterPriority k m (fuel + more) que p = some q := by
  induction fuel generalizing que p with
  | zero => cases run
  | succ fuel ih =>
      rw [Nat.add_right_comm]
      obtain ⟨u, task, run⟩ := Option.bind_eq_some_iff.mp run
      refine Option.bind_eq_some_iff.mpr ⟨u, task, ?_⟩
      dsimp only at run ⊢
      split at run
      · next last => rwa [if_pos last]
      · next goOn =>
          rw [if_neg goOn]
          exact ih run

theorem findMaxBlockedPriority_more
    (run : findMaxBlockedPriority fuel k m p = some q) (more : Nat) :
    findMaxBlockedPriority (fuel + more) k m p = some q := by
  unfold findMaxBlockedPriority at run ⊢
  split at run
  · next kind =>
      rw [if_pos kind]
      split at run
      · next empty => rwa [if_pos empty]
      · next some =>
          rw [if_neg some]
          exact maxWaiterPriority_more run more
  · next other => rwa [if_neg other]

theorem maxHeldPriority_more {que : Node TaskId MutexId} {rounds : Nat}
    (run : maxHeldPriority fuel k rounds que p = some q) (more : Nat) :
    maxHeldPriority (fuel + more) k (rounds + more) que p = some q := by
  induction rounds generalizing que p with
  | zero => cases run
  | succ rounds ih =>
      rw [Nat.add_right_comm]
      obtain ⟨n, mutex, run⟩ := Option.bind_eq_some_iff.mp run
      obtain ⟨r, blocked, run⟩ := Option.bind_eq_some_iff.mp run
      refine Option.bind_eq_some_iff.mpr ⟨n, mutex,
        Option.bind_eq_some_iff.mpr
          ⟨r, findMaxBlockedPriority_more blocked more, ?_⟩⟩
      split at run
      · next last => rwa [if_pos last]
      · next goOn =>
          rw [if_neg goOn]
          exact ih run

theorem removeBlockedFrom_more {que : Node Unit TaskId}
    (run : removeBlockedFrom k t fuel que = some k') (more : Nat) :
    removeBlockedFrom k t (fuel + more) que = some k' := by
  induction fuel generalizing que with
  | zero => cases run
  | succ fuel ih =>
      rw [Nat.add_right_comm]
      unfold removeBlockedFrom at run ⊢
      split at run
      · next here => rwa [if_pos here]
      · next elsewhere =>
          rw [if_neg elsewhere]
          split at run
          · next last => rwa [if_pos last]
          · next goOn =>
              rw [if_neg goOn]
              exact ih run

theorem queueContainsEntry_more {N : Type} [DecidableEq N] {links : Links N}
    {que entry current : N} {found : Bool}
    (run : queueContainsEntry links que entry fuel current = some found)
    (more : Nat) :
    queueContainsEntry links que entry (fuel + more) current = some found := by
  induction fuel generalizing current with
  | zero => cases run
  | succ fuel ih =>
      rw [Nat.add_right_comm]
      unfold queueContainsEntry at run ⊢
      split at run
      · next here => rwa [if_pos here]
      · next elsewhere =>
          rw [if_neg elsewhere]
          split at run
          · next last => rwa [if_pos last]
          · next goOn =>
              rw [if_neg goOn]
              exact ih run

end Searches

end UsbBulk
