import UsbBulk.Kernel.LockPair

/-!
# The scan of the blocked tasks

Which pointers the last loop of `do_unlock_mutex` passes to `try_lock_mutex`.
-/

namespace UsbBulk

/-- The calls of `try_lock_mutex` that the last loop of `do_unlock_mutex` makes:
the state before each call, and the node whose owner is passed. -/
def tryLockCalls (fuel : Nat) (hiPriTask : Option TaskId) :
    Nat → Kernel → Node Unit TaskId → List (Kernel × Node Unit TaskId)
  | 0, _, _ => []
  | rounds + 1, k, currQue =>
      let tmpTask := getTaskByBlockQueque currQue
      let goOn := fun k : Kernel =>
        if k.blockLinks.next currQue = .head () then []
        else tryLockCalls fuel hiPriTask rounds k (k.blockLinks.next currQue)
      if tmpTask ≠ hiPriTask then
        (k, currQue) :: match tmpTask.bind (tryLockMutex fuel k) with
          | none => []
          | some (k, _) => goOn k
      else goOn k

/-- The state in which the loop starts, with `need_switch_context` and
`hi_pri_task`, if `do_unlock_mutex` comes to the loop. -/
def scanStart (fuel : Nat) (k : Kernel) (mutex : MutexId) :
    Option (Kernel × Bool × Option TaskId) := do
  let k := { k with
    mutexLinks := queueRemoveEntry k.mutexLinks (.entry mutex)
    lockLinks := queueRemoveEntry k.lockLinks (.entry mutex) }
  let (k, lowered) ← unlockPriority fuel k mutex
  let (k, woken, hiPriTask) ← handOver fuel k mutex
  if (k.mutex mutex).holder = none ∧
      (k.mutex mutex).attr = tnMutexAttrCeiling then
    some (k, lowered || woken, hiPriTask)
  else none

/-- A node belongs to a created task that is in the list of blocked tasks and waits
for a mutex that exists. -/
def Kernel.IsBlockedTask (k : Kernel) (node : Node Unit TaskId) : Prop :=
  ∃ t m, node = .entry t ∧ k.isTask t = true ∧
    (∃ blocked : List TaskId,
      k.blockLinks.Ring (.head ()) (blocked.map .entry) ∧ t ∈ blocked) ∧
    (k.tcb t).pwaitQueue = some (.mutex m) ∧ k.isMutex m = true

/-- The loop ends, and passes each of the blocked tasks once and nothing else. -/
structure Scans (fuel : Nat) (hiPriTask : Option TaskId) (rounds : Nat)
    (k : Kernel) (first : Node Unit TaskId) (needSwitch : Bool)
    (blocked : List TaskId) : Prop where
  ends : (retryBlocked fuel hiPriTask rounds k first needSwitch).isSome = true
  once : (tryLockCalls fuel hiPriTask rounds k first).map Prod.snd =
    blocked.map .entry
  real : ∀ call ∈ tryLockCalls fuel hiPriTask rounds k first,
    call.1.IsBlockedTask call.2

/-- Wherever an unlock comes to the loop, the loop goes through the blocked
tasks. -/
def Kernel.ScansBlocked (k : Kernel) (m : MutexId) (blocked : List TaskId) :
    Prop :=
  ∃ enough, ∀ fuel, enough ≤ fuel → ∀ start needSwitch hiPriTask,
    scanStart fuel k m = some (start, needSwitch, hiPriTask) →
      Scans fuel hiPriTask fuel start (start.blockLinks.next (.head ()))
        needSwitch blocked

section Scan

variable {rule : Rule} {dropped : Set MutexId} {k : Kernel} {lists : Lists}
variable {locks : Locks} {m : MutexId} {t : TaskId} {front rest : List TaskId}
variable {hiPriTask : Option TaskId} {fuel rounds : Nat} {needSwitch : Bool}

/-- The loop is what is left of `do_unlock_mutex`. -/
theorem doUnlockMutex_scan {start : Kernel}
    (starts : scanStart fuel k m = some (start, needSwitch, hiPriTask)) :
    doUnlockMutex fuel k m = retryBlocked fuel hiPriTask fuel start
      (start.blockLinks.next (.head ())) needSwitch := by
  obtain ⟨⟨k₁, lowered⟩, first, starts⟩ := Option.bind_eq_some_iff.mp starts
  obtain ⟨⟨k₂, woken, found⟩, gives, starts⟩ :=
    Option.bind_eq_some_iff.mp starts
  obtain ⟨free, same⟩ := Option.ite_none_right_eq_some.mp starts
  cases same
  simp only [doUnlockMutex, first, gives, Option.bind_eq_bind, Option.bind_some]
  exact if_pos free

theorem Guarded.isBlockedTask (guarded : Guarded rule dropped k lists locks)
    (member : t ∈ locks.blocked) : k.IsBlockedTask (.entry t) := by
  obtain ⟨n, waits⟩ := (guarded.blocks.blocked t).mp member
  obtain ⟨task, -, queue, -⟩ := Tcb.mutexWait_eq_some.mp waits
  exact ⟨t, n, rfl, isTask_iff.mpr task,
    ⟨locks.blocked, guarded.blocks.blockLinks.ring () trivial, member⟩, queue,
    guarded.kept.consistent.mutexWait_isMutex waits⟩

theorem Scans.round {k₁ : Kernel} {woken : Bool} {blocked : List TaskId}
    (other : some t ≠ hiPriTask) (real : k.IsBlockedTask (.entry t))
    (tries : tryLockMutex fuel k t = some (k₁, woken))
    (later : if k₁.blockLinks.next (.entry t) = .head () then blocked = []
      else Scans fuel hiPriTask rounds k₁ (k₁.blockLinks.next (.entry t))
        (needSwitch || woken) blocked) :
    Scans fuel hiPriTask (rounds + 1) k (.entry t) needSwitch
      (t :: blocked) := by
  have loop := retryBlocked_entry fuel hiPriTask rounds k t needSwitch
  have calls : tryLockCalls fuel hiPriTask (rounds + 1) k (.entry t) =
      (k, .entry t) ::
        if k₁.blockLinks.next (.entry t) = .head () then []
        else tryLockCalls fuel hiPriTask rounds k₁
          (k₁.blockLinks.next (.entry t)) := by
    rw [tryLockCalls]
    refine (if_pos other).trans ?_
    rw [getTaskByBlockQueque, Option.bind_some, tries]
  rw [if_pos other, tries, Option.bind_some] at loop
  dsimp only at loop
  split at later
  · next last =>
      subst later
      rw [if_pos last] at loop calls
      refine ⟨by rw [loop]; rfl, by rw [calls]; rfl, fun call member => ?_⟩
      rw [calls] at member
      exact List.mem_singleton.mp member ▸ real
  · next goOn =>
      rw [if_neg goOn] at loop calls
      refine ⟨by rw [loop]; exact later.ends, ?_, fun call member => ?_⟩
      · rw [calls, List.map_cons, List.map_cons, later.once]
      · rw [calls] at member
        rcases List.mem_cons.mp member with same | member
        · exact same ▸ real
        · exact later.real call member

theorem Tried.locked_length {k' : Kernel} {locks' : Locks}
    (tried : Tried t k locks k' locks') :
    locks'.locked.length ≤ locks.locked.length + 1 := by
  cases tried with
  | failed => exact Nat.le_succ _
  | taken n => simp [Locks.take]

theorem Guarded.scans (guarded : Guarded rule dropped k lists locks)
    (indifferent : rule.Indifferent)
    (reached : locks.blocked = front ++ t :: rest)
    (others : ∀ u ∈ t :: rest, some u ≠ hiPriTask)
    (searches : locks.locked.length + (t :: rest).length ≤ fuel)
    (enough : (t :: rest).length ≤ rounds) :
    Scans fuel hiPriTask rounds k (.entry t) needSwitch (t :: rest) := by
  induction rest generalizing k lists locks t front rounds needSwitch with
  | nil =>
      obtain ⟨rounds, rfl⟩ := Nat.exists_eq_add_of_le'
        (show 1 ≤ rounds from enough)
      have member : t ∈ locks.blocked := by simp [reached]
      obtain ⟨⟨k₁, woken⟩, tries⟩ := Option.isSome_iff_exists.mp
        (guarded.tryLock_isSome indifferent member
          ((Nat.le_add_right _ _).trans searches))
      obtain ⟨lists₁, locks₁, after, tried⟩ :=
        guarded.tryLock indifferent member fuel _ tries
      have last : k₁.blockLinks.next (.entry t) = .head () :=
        tried.next guarded.blocks reached
      exact .round (others t List.mem_cons_self) (guarded.isBlockedTask member)
        tries (by rw [if_pos last])
  | cons u rest ih =>
      obtain ⟨rounds, rfl⟩ := Nat.exists_eq_add_of_le'
        ((Nat.le_add_left 1 _).trans enough)
      have member : t ∈ locks.blocked := by simp [reached]
      obtain ⟨⟨k₁, woken⟩, tries⟩ := Option.isSome_iff_exists.mp
        (guarded.tryLock_isSome indifferent member
          ((Nat.le_add_right _ _).trans searches))
      obtain ⟨lists₁, locks₁, after, tried⟩ :=
        guarded.tryLock indifferent member fuel _ tries
      have next : k₁.blockLinks.next (.entry t) = .entry u :=
        tried.next guarded.blocks reached
      obtain ⟨front₁, reached₁⟩ := tried.behind guarded.blocks reached
      have grown := tried.locked_length
      refine .round (others t List.mem_cons_self)
        (guarded.isBlockedTask member) tries ?_
      rw [next, if_neg nofun]
      exact ih after reached₁
        (fun v inside => others v (List.mem_cons_of_mem t inside))
        (by simp only [List.length_cons] at searches ⊢; omega)
        (by simpa using enough)

end Scan

section Unlock

variable {image : Image} {rule : Rule} {dropped : Set MutexId} {k : Kernel}
variable {lists : Lists} {locks : Locks} {m : MutexId}

/-- If tasks wait for the mutex, `do_unlock_mutex` does not come to the loop: the
mutex has a holder. -/
theorem Guarded.scanStart_awaited (guarded : Guarded rule dropped k lists locks)
    (indifferent : rule.Indifferent) (isMutex : k.isMutex m = true)
    (ceiling : (k.mutex m).attr = tnMutexAttrCeiling) (listed : m ∉ dropped)
    (held : (k.mutex m).holder = some k.tnCurrRunTask)
    (awaited : k.noWaiters (.mutex m) = false) (fuel : Nat) :
    scanStart fuel k m = none := by
  have has : k.hasList (.mutex m) = true := isMutex
  have unlinked := guarded.drop isMutex listed held
  suffices never : Ends (scanStart fuel k m) fun _ => False from
    Option.eq_none_iff_forall_ne_some.mpr never
  refine Ends.bind (unlockPriority_adjusted unlinked.kept indifferent
    unlinked.known fuel m) fun (k₁, _) ⟨lists₁, adjusted⟩ => ?_
  have mutex₁ : k₁.mutex = k.mutex := congrArg Footing.mutex adjusted.footing
  have isMutex₁ := (Kernel.isMutex_congr mutex₁ m).trans isMutex
  refine Ends.bind ((unlinked.adjust adjusted).handOverCeiling indifferent
    (Set.mem_insert m dropped) isMutex₁ (by rw [mutex₁, ceiling]) fuel)
    fun (k₂, _, hiPriTask) ⟨_, _, _, _, handed⟩ => ends_ite (fun free => ?_)
      fun _ => ends_none
  have holder := free.1
  cases handed with
  | freed nobody =>
      obtain ⟨t, rest, waiting⟩ := guarded.kept.first has awaited
      obtain ⟨reason, waits⟩ := guarded.kept.consistent.mem_mutex.mp
        (show t ∈ lists.task (.wait (.mutex m)) by simp [waiting])
      exact absurd ((adjusted.mutexWait t).trans waits) (nobody t reason)
  | handed w waited mutex =>
      rw [mutex, Function.update_self] at holder
      cases holder
  | denied w ceiling best barred mutex =>
      rw [mutex, mutex₁, held] at holder
      cases holder

/-- If nobody waits for the mutex, `do_unlock_mutex` comes to the loop with the
list of blocked tasks as it was. -/
theorem Guarded.scanStart_nobody (guarded : Guarded rule dropped k lists locks)
    (indifferent : rule.Indifferent)
    (running : (k.tcb k.tnCurrRunTask).taskState = .runnable)
    (isMutex : k.isMutex m = true)
    (ceiling : (k.mutex m).attr = tnMutexAttrCeiling) (listed : m ∉ dropped)
    (held : (k.mutex m).holder = some k.tnCurrRunTask)
    (nobody : k.noWaiters (.mutex m) = true) :
    ∃ enough, ∀ fuel, enough ≤ fuel → ∃ start needSwitch lists' dropped',
      scanStart fuel k m =
        some (start, needSwitch, some k.tnCurrRunTask) ∧
      Guarded rule dropped' start lists' (locks.drop m) := by
  have unlinked := guarded.drop isMutex listed held
  refine ⟨((locks.drop m).owned k.tnCurrRunTask).length +
    (lists.behind (locks.drop m) k.tnCurrRunTask).length + 1,
    fun fuel enough => ?_⟩
  obtain ⟨k₁, lowered, lists₁, first, adjusted, -⟩ :=
    unlinked.unlockPriority_some indifferent running (.inr ceiling)
      (Nat.lt_of_succ_le enough) rfl
  have mutex₁ : k₁.mutex = k.mutex := congrArg Footing.mutex adjusted.footing
  have curr₁ : k₁.tnCurrRunTask = k.tnCurrRunTask :=
    congrArg (·.mode.tnCurrRunTask) adjusted.footing
  have nobody₁ : k₁.noWaiters (.mutex m) = true :=
    (adjusted.noWaiters unlinked.kept isMutex).trans nobody
  have gives : handOver fuel k₁ m = some (k₁.setMutex m
    { k₁.mutex m with holder := none }, false, some k₁.tnCurrRunTask) := by
    rw [handOver, if_pos nobody₁]
  refine ⟨_, lowered, lists₁, _, ?_,
    (unlinked.adjust adjusted).free (Set.mem_insert m dropped)⟩
  simp only [scanStart, first, gives, Option.bind_eq_bind, Option.bind_some,
    Bool.or_false, curr₁]
  exact if_pos (by simp [Kernel.setMutex, mutex₁, ceiling])

/-- With an empty list the loop starts at the head of the list. -/
theorem Guarded.scansBlocked_iff (guarded : Guarded rule dropped k lists locks)
    (indifferent : rule.Indifferent)
    (running : (k.tcb k.tnCurrRunTask).taskState = .runnable)
    (isMutex : k.isMutex m = true)
    (ceiling : (k.mutex m).attr = tnMutexAttrCeiling) (listed : m ∉ dropped)
    (held : (k.mutex m).holder = some k.tnCurrRunTask)
    (nobody : k.noWaiters (.mutex m) = true) :
    k.ScansBlocked m locks.blocked ↔ locks.blocked ≠ [] := by
  obtain ⟨enough, starts⟩ := guarded.scanStart_nobody indifferent running
    isMutex ceiling listed held nobody
  cases shape : locks.blocked with
  | nil =>
      refine iff_of_false (fun ⟨enough', scans⟩ => ?_) (by simp)
      obtain ⟨start, needSwitch, _, _, isStart, after⟩ :=
        starts (max enough enough') (le_max_left ..)
      have first := after.blocks.blockLinks.next_head_single
      rw [show (locks.drop m).blocked = [] from shape] at first
      have first : start.blockLinks.next (.head ()) = .head () := first
      have ends := (scans _ (le_max_right ..) _ _ _ isStart).ends
      rw [first] at ends
      revert ends
      cases max enough enough' <;> exact nofun
  | cons t rest =>
      refine iff_of_true ⟨max enough (locks.locked.length +
        (t :: rest).length), fun fuel more start needSwitch hiPriTask
          isStart => ?_⟩ (List.cons_ne_nil t rest)
      obtain ⟨_, _, _, _, isStart', after⟩ :=
        starts fuel ((le_max_left ..).trans more)
      cases isStart.symm.trans isStart'
      have reached : (locks.drop m).blocked = [] ++ t :: rest := shape
      have first := after.blocks.blockLinks.next_head_single
      rw [reached] at first
      have first : start.blockLinks.next (.head ()) = .entry t := first
      have searches := (le_max_right ..).trans more
      have fewer := List.length_erase_le (a := m) (l := locks.locked)
      -- The running task, which the loop leaves out, is not blocked.
      have awake : k.tnCurrRunTask ∉ locks.blocked :=
        guarded.blocks.not_mem (by
          simp [Tcb.mutexWait_of_awake, running, TaskState.isWait])
      rw [first]
      refine after.scans indifferent reached (fun u member same => awake ?_)
        ((Nat.add_le_add_right fewer _).trans searches)
        ((Nat.le_add_left _ _).trans searches)
      rw [shape, ← Option.some.inj same]
      exact member

/-- When the running task unlocks a mutex with a ceiling, the loop over the blocked
tasks does what it should if and only if a task waits for the mutex, and then there
is no loop, or a task is blocked. -/
theorem unlock_scans_iff (reachable : Reachable image Kernel.Patient k)
    (running : (k.tcb k.tnCurrRunTask).taskState = .runnable)
    (isMutex : k.isMutex m = true)
    (ceiling : (k.mutex m).attr = tnMutexAttrCeiling)
    (held : (k.mutex m).holder = some k.tnCurrRunTask)
    (isListed : k.ListedBy m k.tnCurrRunTask) :
    ∃ blocked : List TaskId, blocked.Nodup ∧
      k.blockLinks.Ring (.head ()) (blocked.map .entry) ∧
      (k.ScansBlocked m blocked ↔
        k.noWaiters (.mutex m) = false ∨ blocked ≠ []) := by
  obtain ⟨lists, dropped, locks, guarded⟩ := reachable.lockGuarded
  have isTask := isTask_iff.mpr guarded.kept.curr
  have listed := ((guarded.owns.owned _ m).mp
    ((guarded.owns.listedBy_iff isTask).mp isListed)).1
  refine ⟨locks.blocked, guarded.blocks.blockLinks.nodup (),
    guarded.blocks.blockLinks.ring () trivial, ?_⟩
  cases nobody : k.noWaiters (.mutex m) with
  | false =>
      refine iff_of_true ⟨0, fun fuel _ start needSwitch hiPriTask starts => ?_⟩
        (.inl rfl)
      have never := guarded.scanStart_awaited Rule.any_indifferent isMutex
        ceiling listed held nobody fuel
      cases never.symm.trans starts
  | true =>
      rw [guarded.scansBlocked_iff Rule.any_indifferent running isMutex ceiling
        listed held nobody]
      simp

end Unlock

/-! ## Two runs -/

section Samples

/-- The running task holds mutex 0, which has a ceiling, and no other. -/
def Kernel.holdsCeiling (k : Kernel) : Bool :=
  (k.tcb k.tnCurrRunTask).taskState = .runnable ∧ k.isMutex 0 = true ∧
    (k.mutex 0).attr = tnMutexAttrCeiling ∧
    (k.mutex 0).holder = some k.tnCurrRunTask ∧
    k.mutexLinks.next (.head k.tnCurrRunTask) = .entry 0 ∧
    k.mutexLinks.prev (.entry 0) = .head k.tnCurrRunTask ∧
    k.mutexLinks.next (.entry 0) = .head k.tnCurrRunTask ∧
    k.mutexLinks.prev (.head k.tnCurrRunTask) = .entry 0

theorem Kernel.listedBy_of_holdsCeiling {k : Kernel}
    (holds : k.holdsCeiling = true) : k.ListedBy 0 k.tnCurrRunTask := by
  obtain ⟨-, -, -, -, first, back, last, around⟩ := of_decide_eq_true holds
  exact ⟨[0], ⟨first, back, last, around⟩, List.mem_singleton_self 0⟩

/-- Task 2 holds mutex 0, whose ceiling denies mutex 1 to task 3. -/
def blockedScript : List Move := [
  .task (.taskCreate (some 2) { TaskParams.sample with priority := 6 }),
  .task (.taskCreate (some 3) .sample),
  .task (.mutexCreate (some 0) tnMutexAttrCeiling 3),
  .task (.mutexCreate (some 1) tnMutexAttrCeiling 3),
  .task (.taskSleep tnWaitInfinite), .switch,
  .task (.taskSleep tnWaitInfinite), .switch,
  .task (.mutexLock (some 0) tnWaitInfinite),
  .task (.taskWakeup (some 3)), .switch,
  .task (.mutexLock (some 1) tnWaitInfinite), .switch]

theorem unlock_scans_blocked : ∃ k, Reachable .sample Kernel.Patient k ∧
    k.tnCurrRunTask = 2 ∧
    ∃ blocked : List TaskId, blocked.Nodup ∧
      k.blockLinks.Ring (.head ()) (blocked.map .entry) ∧
      (k.ScansBlocked 0 blocked ↔
        k.noWaiters (.mutex 0) = false ∨ blocked ≠ []) := by
  have free : ∀ move ∈ blockedScript, move.Free Kernel.Patient := by
    simp [blockedScript, Move.Free, Kernel.Patient]
  obtain ⟨k, reachable, found⟩ := Reachable.of_script free
    (show (Kernel.started.follow .sample 4 ⟨[0, 1, 2, 3],
      [.ready 0, .ready 5, .ready 6, .ready 31, .wait (.mutex 0),
        .wait (.mutex 1)], [0, 1]⟩ blockedScript).any
      (fun k => k.holdsCeiling && decide (k.tnCurrRunTask = 2)) = true
      by decide +kernel)
  obtain ⟨holds, curr⟩ := (Bool.and_eq_true ..).mp found
  obtain ⟨running, isMutex, ceiling, held, -⟩ := of_decide_eq_true holds
  exact ⟨k, reachable, of_decide_eq_true curr, unlock_scans_iff reachable
    running isMutex ceiling held (Kernel.listedBy_of_holdsCeiling holds)⟩

/-- Task 2 holds mutex 0, and no task is blocked. -/
def ceilingScript : List Move := [
  .task (.taskCreate (some 2) .sample),
  .task (.mutexCreate (some 0) tnMutexAttrCeiling 3),
  .task (.taskSleep tnWaitInfinite), .switch,
  .task (.mutexLock (some 0) tnWaitInfinite)]

/-- The loop passes the head of the empty list to `try_lock_mutex`. -/
theorem unlock_passes_head : ∃ k start needSwitch hiPriTask,
    Reachable .sample Kernel.Patient k ∧ k.holdsCeiling = true ∧
      scanStart 4 k 0 = some (start, needSwitch, hiPriTask) ∧
      ∃ call ∈ tryLockCalls 4 hiPriTask 4 start
          (start.blockLinks.next (.head ())),
        call.2 = .head () ∧ ¬call.1.IsBlockedTask call.2 := by
  have free : ∀ move ∈ ceilingScript, move.Free Kernel.Patient := by
    simp [ceilingScript, Move.Free, Kernel.Patient]
  obtain ⟨k, reachable, found⟩ := Reachable.of_script free
    (show (Kernel.started.follow .sample 4 ⟨[0, 1, 2],
      [.ready 0, .ready 5, .ready 31, .wait (.mutex 0)], [0]⟩
      ceilingScript).any (fun k => k.holdsCeiling &&
        (scanStart 4 k 0).any fun (start, _, hiPriTask) =>
          (tryLockCalls 4 hiPriTask 4 start
            (start.blockLinks.next (.head ()))).any
            fun call => call.2 = .head ()) = true by decide +kernel)
  obtain ⟨holds, found⟩ := (Bool.and_eq_true ..).mp found
  obtain ⟨⟨start, needSwitch, hiPriTask⟩, isStart, found⟩ :=
    (Option.any_eq_true ..).mp found
  obtain ⟨call, member, isHead⟩ := List.any_eq_true.mp found
  have isHead : call.2 = .head () := of_decide_eq_true isHead
  refine ⟨k, start, needSwitch, hiPriTask, reachable, holds, isStart, call,
    member, isHead, ?_⟩
  rintro ⟨t, m, isTask, _⟩
  cases isHead.symm.trans isTask

end Samples

end UsbBulk
