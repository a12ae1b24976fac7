import UsbBulk.BlockPool
import UsbBulk.Kernel.Schedule

/-!
# The exact effects of the queue and pool services

What a service does to the one wait list it works on, to the control block of
the one task it lets wait or wakes, and to its object.  Everything else is the
same before and after.
-/

namespace UsbBulk

/-- The objects, the memory and the context are the same. -/
structure SameObjects (k k' : Kernel) : Prop where
  sem : k'.sem = k.sem
  event : k'.event = k.event
  dque : k'.dque = k.dque
  fmp : k'.fmp = k.fmp
  mutex : k'.mutex = k.mutex
  mem : k'.mem = k.mem
  tnCurrRunTask : k'.tnCurrRunTask = k.tnCurrRunTask
  tnSystemRunning : k'.tnSystemRunning = k.tnSystemRunning
  tnIntCounter : k'.tnIntCounter = k.tnIntCounter
  irqDisabled : k'.irqDisabled = k.irqDisabled

theorem SameObjects.refl (k : Kernel) : SameObjects k k :=
  ⟨rfl, rfl, rfl, rfl, rfl, rfl, rfl, rfl, rfl, rfl⟩

theorem SameObjects.trans {a b c : Kernel} (first : SameObjects a b)
    (second : SameObjects b c) : SameObjects a c where
  sem := second.sem.trans first.sem
  event := second.event.trans first.event
  dque := second.dque.trans first.dque
  fmp := second.fmp.trans first.fmp
  mutex := second.mutex.trans first.mutex
  mem := second.mem.trans first.mem
  tnCurrRunTask := second.tnCurrRunTask.trans first.tnCurrRunTask
  tnSystemRunning := second.tnSystemRunning.trans first.tnSystemRunning
  tnIntCounter := second.tnIntCounter.trans first.tnIntCounter
  irqDisabled := second.irqDisabled.trans first.irqDisabled

/-- One wait list now has the given members, and one task has a new control
block. -/
structure Changed (rule : Rule) (list : WaitList) (members : List TaskId)
    (t : TaskId) (new : Tcb) (k k' : Kernel) (lists lists' : Lists) :
    Prop where
  kept : Kept rule none k' lists'
  members : lists'.task (.wait list) = members
  others : ∀ other, other ≠ list →
    lists'.task (.wait other) = lists.task (.wait other)
  tcb : k'.tcb = Function.update k.tcb t new
  same : SameObjects k k'

/-- The first task of a wait list, as `queue_remove_head` finds it. -/
def Kernel.firstWaiter (k : Kernel) (list : WaitList) : Option TaskId :=
  getTaskByTskQueue (k.taskLinks.next (.head (.wait list)))

section Effects

variable {rule : Rule} {k k' : Kernel} {lists lists' : Lists}
variable {list : WaitList} {t : TaskId} {rest : List TaskId}

theorem Kept.firstWaiter (kept : Kept rule none k lists)
    (list : WaitList) (has : k.hasList list = true) :
    k.firstWaiter list = (lists.task (.wait list)).head? := by
  have alive : liveHead lists.live (.wait list) :=
    kept.consistent.live list has
  have first := kept.consistent.scheduled.represents.next_head alive
  unfold Kernel.firstWaiter
  rw [first]
  cases lists.task (.wait list) <;> rfl

/-- The lists after the first task of a wait list has been woken. -/
theorem wake_members (kept : Kept rule none k lists)
    (waiting : lists.task (.wait list) = t :: rest) (tcb : Tcb) :
    ((lists.detach t).wake t tcb).task (.wait list) = rest ∧
      ∀ other, other ≠ list →
        ((lists.detach t).wake t tcb).task (.wait other) =
          lists.task (.wait other) := by
  have member : t ∈ lists.task (.wait list) := by simp [waiting]
  refine ⟨?_, fun other different => ?_⟩ <;> rw [Lists.wake_wait]
  · simp [Lists.detach, drop, waiting]
  · refine drop_of_absent fun inside => different ?_
    simpa using kept.consistent.scheduled.represents.disjoint inside member

theorem Changed.of_same {k₁ : Kernel} {members : List TaskId} {new : Tcb}
    (changed : Changed rule list members t new k₁ k' lists lists')
    (tcb : k₁.tcb = k.tcb) (same : SameObjects k k₁) :
    Changed rule list members t new k k' lists lists' where
  kept := changed.kept
  members := changed.members
  others := changed.others
  tcb := tcb ▸ changed.tcb
  same := same.trans changed.same

/-- The wait of a task that has been taken out of its list is completed. -/
theorem Kept.complete (kept : Kept rule none k lists)
    (plain : list.ofMutex = false)
    (waiting : lists.task (.wait list) = t :: rest) {k₁ : Kernel}
    (detached : Kept rule (some t) k₁ (lists.detach t))
    (sameTcb : k₁.tcb = k.tcb) {new : Tcb}
    (same : Tcb.SamePlace (k.tcb t) new)
    (sameBlk : new.blkTask = (k.tcb t).blkTask) (fuel : Nat) :
    ∃ k' lists', UsbBulk.taskWaitComplete fuel (k₁.setTcb t new) t =
        some (k', !(k.tcb t).taskState.isSuspend) ∧
      Changed rule list rest t new.awake k₁ k' lists lists' := by
  have member : t ∈ lists.task (.wait list) := by simp [waiting]
  have stored := detached.setTcb (sameTcb ▸ same) (sameTcb ▸ sameBlk)
  have there : (k₁.setTcb t new).tcb t = new := by simp [Kernel.setTcb]
  have waiter := (kept.waiter plain member).samePlace same
  rw [← there] at waiter
  obtain ⟨taskLinks, bmp, next, run, after⟩ := stored.taskWaitComplete
    waiter.idTask waiter.waiting waiter.noMutex fuel
  rw [there] at run after
  rw [same.taskState] at run
  obtain ⟨members, others⟩ := wake_members kept waiting new
  refine ⟨_, _, run, after, members, others, ?_,
    ⟨rfl, rfl, rfl, rfl, rfl, rfl, rfl, rfl, rfl, rfl⟩⟩
  simp [Kernel.withTasks, Kernel.setTcb]

/-- The first task of a wait list is removed from it. -/
theorem Kept.unlinkFirst (kept : Kept rule none k lists)
    (waiting : lists.task (.wait list) = t :: rest) :
    ∃ k₁, UsbBulk.removeWaiter k list = some (k₁, t) ∧
      Kept rule (some t) k₁ (lists.detach t) ∧ k₁.tcb = k.tcb ∧
      SameObjects k k₁ := by
  obtain ⟨removed, detached⟩ := kept.removeWaiter waiting
  exact ⟨_, removed, detached, rfl,
    ⟨rfl, rfl, rfl, rfl, rfl, rfl, rfl, rfl, rfl, rfl⟩⟩

/-- The first task of a wait list is removed from it, its control block is
perhaps written to, and its wait is completed. -/
theorem Kept.wake (kept : Kept rule none k lists)
    (plain : list.ofMutex = false)
    (waiting : lists.task (.wait list) = t :: rest) {new : Tcb}
    (same : Tcb.SamePlace (k.tcb t) new)
    (sameBlk : new.blkTask = (k.tcb t).blkTask) (fuel : Nat) :
    ∃ k₁ k' lists', UsbBulk.removeWaiter k list = some (k₁, t) ∧
      k₁.tcb = k.tcb ∧
      UsbBulk.taskWaitComplete fuel (k₁.setTcb t new) t =
        some (k', !(k.tcb t).taskState.isSuspend) ∧
      Changed rule list rest t new.awake k k' lists lists' := by
  obtain ⟨k₁, removed, detached, tcb, objects⟩ := kept.unlinkFirst waiting
  obtain ⟨k', lists', run, changed⟩ :=
    kept.complete plain waiting detached tcb same sameBlk fuel
  exact ⟨k₁, k', lists', removed, tcb, run, changed.of_same tcb objects⟩

theorem Kept.sleep (kept : Kept rule none k lists)
    (running : (k.tcb k.tnCurrRunTask).taskState = .runnable)
    (stop : rule.stop k.tnCurrRunTask) {reason : WaitReason}
    {timeout : Word} (waits : rule.waits (some list) timeout)
    (fits : reason.fits (some list) = true) (has : k.hasList list = true) :
    ∃ k' lists', UsbBulk.taskCurrToWaitAction k (some list) reason timeout =
        some k' ∧
      Changed rule list (lists.task (.wait list) ++ [k.tnCurrRunTask])
        k.tnCurrRunTask
        ((k.tcb k.tnCurrRunTask).asleep (some list) reason timeout) k k' lists
        lists' := by
  obtain ⟨_, _, _, _, run, after⟩ := kept.taskCurrToWaitAction running stop
    waits fits (by simpa using has)
  have absent : ∀ other, k.tnCurrRunTask ∉ lists.task (.wait other) := by
    intro other member
    have waiting := (Tcb.home_eq_wait.mp
      ((kept.consistent.tasks.home _ _).mp member).2).2.1
    rw [running] at waiting
    cases waiting
  refine ⟨_, _, run, after, ?_, fun other different => ?_, rfl,
    ⟨rfl, rfl, rfl, rfl, rfl, rfl, rfl, rfl, rfl, rfl⟩⟩
  · simp [Lists.block, Lists.detach, drop_of_absent (absent list)]
  · simp only [Lists.block]
    rw [pushLast_other (by simpa using different)]
    exact drop_of_absent (absent other)

theorem Kept.sleepWith (kept : Kept rule none k lists) {new : Tcb}
    (same : Tcb.SamePlace (k.tcb k.tnCurrRunTask) new)
    (sameBlk : new.blkTask = (k.tcb k.tnCurrRunTask).blkTask)
    (running : (k.tcb k.tnCurrRunTask).taskState = .runnable)
    (stop : rule.stop k.tnCurrRunTask) {reason : WaitReason}
    {timeout : Word} (waits : rule.waits (some list) timeout)
    (fits : reason.fits (some list) = true) (has : k.hasList list = true) :
    ∃ k' lists', UsbBulk.taskCurrToWaitAction
          (k.setTcb k.tnCurrRunTask new) (some list) reason timeout =
        some k' ∧
      Changed rule list (lists.task (.wait list) ++ [k.tnCurrRunTask])
        k.tnCurrRunTask (new.asleep (some list) reason timeout) k k' lists
        lists' := by
  have stored := kept.setTcb same sameBlk
  have there : (k.setTcb k.tnCurrRunTask new).tcb k.tnCurrRunTask = new := by
    simp [Kernel.setTcb]
  have ready : ((k.setTcb k.tnCurrRunTask new).tcb
      (k.setTcb k.tnCurrRunTask new).tnCurrRunTask).taskState = .runnable := by
    change ((k.setTcb k.tnCurrRunTask new).tcb k.tnCurrRunTask).taskState = _
    rw [there, same.taskState, running]
  obtain ⟨k', lists', run, after, members, others, tcb, objects⟩ :=
    stored.sleep ready stop waits fits has
  refine ⟨k', lists', run, after, members, others, ?_, ?_⟩
  · change k'.tcb = Function.update (k.setTcb k.tnCurrRunTask new).tcb
      k.tnCurrRunTask (((k.setTcb k.tnCurrRunTask new).tcb
        k.tnCurrRunTask).asleep (some list) reason timeout) at tcb
    rw [tcb, there]
    simp [Kernel.setTcb]
  · exact ⟨objects.sem, objects.event, objects.dque, objects.fmp,
      objects.mutex, objects.mem, objects.tnCurrRunTask,
      objects.tnSystemRunning, objects.tnIntCounter, objects.irqDisabled⟩

end Effects

/-! ## Answers -/

section Answers

variable {k : Kernel} {outcome : Outcome} {post : Kernel → Reply → Prop}

/-- Every answer of a service meets a condition. -/
def Outcome.Ensures (outcome : Outcome) (post : Kernel → Reply → Prop) :
    Prop :=
  ∀ k' reply, outcome = some (k', reply) → post k' reply

theorem ensures_some {reply : Reply} (meets : post k reply) :
    Outcome.Ensures (some (k, reply)) post := by
  intro k' reply run
  cases run
  exact meets

theorem Outcome.Ensures.fromInterrupt (ensures : outcome.Ensures post)
    (request : ∀ k' reply, post k' reply →
      post { k' with tnContextSwitchRequest := true }
        { reply with switch := false }) :
    outcome.fromInterrupt.Ensures post := by
  intro k' reply run
  obtain ⟨⟨k₁, reply₁⟩, before, after⟩ := Option.map_eq_some_iff.mp run
  have meets := ensures k₁ reply₁ before
  dsimp only at after
  by_cases switch : reply₁.switch
  · rw [if_pos switch] at after
    cases after
    exact request k₁ reply₁ meets
  · rw [if_neg switch] at after
    cases after
    exact meets

/-- The answer of the checks: neither a success nor a wait nor a value. -/
structure Reply.Refuses (reply : Reply) : Prop where
  noErr : reply.rc ≠ some .noErr
  answered : reply.rc ≠ none
  value : reply.value = none

theorem checked_eq {k' : Kernel} {reply : Reply} {object : Option Nat}
    {badParam valid : Nat → Bool} {wrongContext : Bool}
    {body : Nat → Outcome}
    (run : checked k object badParam valid wrongContext body =
      some (k', reply)) :
    (k' = k ∧ reply.Refuses) ∨
      ∃ id, object = some id ∧ badParam id = false ∧ valid id = true ∧
        wrongContext = false ∧ body id = some (k', reply) := by
  cases object with
  | none =>
      cases run
      exact .inl ⟨rfl, by simp [Reply.ret], by simp [Reply.ret], rfl⟩
  | some id =>
      simp only [checked] at run
      cases bad : badParam id <;> cases there : valid id <;>
        cases context : wrongContext <;>
        simp only [bad, there, context, Bool.not_true, Bool.not_false,
          Bool.false_eq_true, if_true, if_false] at run
      all_goals first
        | exact .inr ⟨id, rfl, bad, there, rfl, run⟩
        | cases run
          exact .inl ⟨rfl, by simp [Reply.ret], by simp [Reply.ret], rfl⟩

theorem ensures_checked {object : Option Nat} {id : Nat}
    (this : object = some id) {badParam valid : Nat → Bool}
    {wrongContext : Bool} {body : Nat → Outcome}
    (refused : ∀ reply : Reply, reply.Refuses → post k reply)
    (ensures : (body id).Ensures post) :
    (checked k object badParam valid wrongContext body).Ensures post := by
  intro k' reply run
  rcases checked_eq run with ⟨rfl, refuses⟩ | ⟨other, equal, _, _, _, run⟩
  · exact refused reply refuses
  · rw [this] at equal
    cases equal
    exact ensures k' reply run

end Answers

/-! ## Data queues -/

section DataQueues

variable {rule : Rule} {k : Kernel} {lists : Lists} {d : DqueId}
variable {t : TaskId} {rest : List TaskId} (fuel : Nat) (dataPtr : Word)
variable (full empty : Kernel → DqueId → Outcome)

/-- The control block of a task that has been given an element. -/
def Tcb.given (tcb : Tcb) (elem : Word) : Tcb :=
  { tcb with dataElem := elem }

theorem Tcb.samePlace_given (tcb : Tcb) (elem : Word) :
    Tcb.SamePlace tcb (tcb.given elem) :=
  ⟨rfl, rfl, rfl, rfl, rfl, rfl, rfl⟩

theorem Kernel.setTcb_self (k : Kernel) (t : TaskId) :
    k.setTcb t (k.tcb t) = k := by
  simp [Kernel.setTcb]

theorem Kernel.setDque_self (k : Kernel) (d : DqueId) :
    k.setDque d (k.dque d) = k := by
  simp [Kernel.setDque]

theorem Kept.noReceiver (kept : Kept rule none k lists)
    (valid : k.isDque d = true) :
    k.noWaiters (.dqueReceive d) = true ↔
      lists.task (.wait (.dqueReceive d)) = [] :=
  kept.noWaiters_iff valid

theorem Kept.noSender (kept : Kept rule none k lists)
    (valid : k.isDque d = true) :
    k.noWaiters (.dqueSend d) = true ↔
      lists.task (.wait (.dqueSend d)) = [] :=
  kept.noWaiters_iff valid

theorem queueSendBody_hand (kept : Kept rule none k lists)
    (valid : k.isDque d = true)
    (waiting : lists.task (.wait (.dqueReceive d)) = t :: rest) :
    ∃ k' lists', queueSendBody fuel k dataPtr full d =
        some (k', .retSwitch .noErr !(k.tcb t).taskState.isSuspend) ∧
      Changed rule (.dqueReceive d) rest t
        ((k.tcb t).given dataPtr).awake k k' lists lists' := by
  obtain ⟨k₁, k', lists', removed, tcb, run, changed⟩ := kept.wake rfl
    waiting (Tcb.samePlace_given _ dataPtr) rfl fuel
  have some : ¬ k.noWaiters (.dqueReceive d) = true := by
    rw [kept.noReceiver valid, waiting]
    simp
  refine ⟨k', lists', ?_, changed⟩
  rw [← tcb] at run ⊢
  rw [queueSendBody, if_pos (by simpa using some), removed]
  change (taskWaitComplete fuel
    (k₁.setTcb t ((k₁.tcb t).given dataPtr)) t).bind _ = _
  rw [run]
  rfl

theorem queueSendBody_store (kept : Kept rule none k lists)
    (valid : k.isDque d = true)
    (noReceiver : lists.task (.wait (.dqueReceive d)) = [])
    (shape : (k.dque d).Valid)
    (room : (k.dque d).items.length ≠ (k.dque d).capacity) :
    queueSendBody fuel k dataPtr full d =
      some (k.setDque d (dqueFifoWrite (k.dque d) dataPtr).1,
        .ret .noErr) := by
  have none := (kept.noReceiver valid).mpr noReceiver
  have written := (Dque.write_room shape dataPtr room).1
  rw [queueSendBody, if_neg (by simp [none])]
  dsimp only
  rw [if_neg (by simp [written])]

theorem queueSendBody_full (kept : Kept rule none k lists)
    (valid : k.isDque d = true)
    (noReceiver : lists.task (.wait (.dqueReceive d)) = [])
    (shape : (k.dque d).Valid)
    (noRoom : (k.dque d).items.length = (k.dque d).capacity) :
    queueSendBody fuel k dataPtr full d = full k d := by
  have none := (kept.noReceiver valid).mpr noReceiver
  obtain ⟨same, refused⟩ := Dque.write_full shape dataPtr noRoom
  rw [queueSendBody, if_neg (by simp [none])]
  dsimp only
  rw [if_pos refused, same, k.setDque_self]

theorem queueReceiveBody_take (kept : Kept rule none k lists)
    (valid : k.isDque d = true)
    (noSender : lists.task (.wait (.dqueSend d)) = [])
    (shape : (k.dque d).Valid) {first : Word} {left : List Word}
    (stored : (k.dque d).items = first :: left) :
    queueReceiveBody fuel k empty d =
      some (k.setDque d (dqueFifoRead (k.dque d)).1,
        ⟨some .noErr, some first, false⟩) := by
  have none : (k.setDque d (dqueFifoRead (k.dque d)).1).noWaiters
      (.dqueSend d) = true := (kept.noSender valid).mpr noSender
  obtain ⟨code, value⟩ := Prod.ext_iff.mp (Dque.read_cons shape stored).1
  unfold queueReceiveBody
  dsimp only
  rw [if_pos code, if_neg (by simp [none]), value]

/-- A stored element is taken, and the first waiting sender's element takes its
place. -/
theorem queueReceiveBody_refill (kept : Kept rule none k lists)
    (valid : k.isDque d = true)
    (waiting : lists.task (.wait (.dqueSend d)) = t :: rest)
    (shape : (k.dque d).Valid) {first : Word} {left : List Word}
    (stored : (k.dque d).items = first :: left) :
    ∃ k' lists', queueReceiveBody fuel k empty d =
        some (k', ⟨some .noErr, some first,
          !(k.tcb t).taskState.isSuspend⟩) ∧
      Changed rule (.dqueSend d) rest t (k.tcb t).awake
        (k.setDque d (dqueFifoWrite (dqueFifoRead (k.dque d)).1
          (k.tcb t).dataElem).1) k' lists lists' := by
  obtain ⟨code, value⟩ := Prod.ext_iff.mp (Dque.read_cons shape stored).1
  have read := kept.setDque (dqueFifoRead_idDque (k.dque d))
  have some : ¬ (k.setDque d (dqueFifoRead (k.dque d)).1).noWaiters
      (.dqueSend d) = true := by
    refine mt (kept.noSender valid).mp ?_
    simp [waiting]
  obtain ⟨k₁, removed, detached, tcb, objects⟩ := read.unlinkFirst waiting
  have sameTcb : k₁.tcb = k.tcb := tcb
  have there : k₁.dque d = (dqueFifoRead (k.dque d)).1 := by
    rw [objects.dque]
    simp [Kernel.setDque]
  have refilled := detached.setDque
    (dqueFifoWrite_idDque (k₁.dque d) (k₁.tcb t).dataElem)
  obtain ⟨k', lists', run, changed⟩ := kept.complete rfl waiting refilled
    sameTcb (Tcb.SamePlace.refl _) rfl fuel
  rw [← sameTcb] at run
  have run := (congrArg (taskWaitComplete fuel · t)
    (Kernel.setTcb_self (k₁.setDque d _) t)).symm.trans run
  refine ⟨k', lists', ?_, changed.of_same sameTcb ?_⟩
  · unfold queueReceiveBody
    dsimp only
    rw [if_pos code, if_pos (by simpa using some), removed, value]
    change (taskWaitComplete fuel (k₁.setDque d
      (dqueFifoWrite (k₁.dque d) (k₁.tcb t).dataElem).1) t).bind _ = _
    rw [run, sameTcb]
    rfl
  · refine ⟨objects.sem, objects.event, ?_, objects.fmp, objects.mutex,
      objects.mem, objects.tnCurrRunTask, objects.tnSystemRunning,
      objects.tnIntCounter, objects.irqDisabled⟩
    rw [there, sameTcb]
    simp [Kernel.setDque, objects.dque]

/-- Nothing is stored, and the first waiting sender's element is taken. -/
theorem queueReceiveBody_direct (kept : Kept rule none k lists)
    (valid : k.isDque d = true)
    (waiting : lists.task (.wait (.dqueSend d)) = t :: rest)
    (shape : (k.dque d).Valid) (nothing : (k.dque d).items = []) :
    ∃ k' lists', queueReceiveBody fuel k empty d =
        some (k', .retValue (k.tcb t).dataElem
          !(k.tcb t).taskState.isSuspend) ∧
      Changed rule (.dqueSend d) rest t (k.tcb t).awake k k' lists lists' := by
  obtain ⟨k₁, k', lists', removed, tcb, run, changed⟩ := kept.wake rfl
    waiting (Tcb.SamePlace.refl _) rfl fuel
  obtain ⟨same, refused, _⟩ := Dque.read_empty shape nothing
  have some : ¬ k.noWaiters (.dqueSend d) = true := by
    rw [kept.noSender valid, waiting]
    simp
  refine ⟨k', lists', ?_, changed⟩
  rw [← tcb, k₁.setTcb_self] at run
  unfold queueReceiveBody
  dsimp only
  rw [same, k.setDque_self, if_neg refused, if_pos (by simpa using some),
    removed, ← tcb]
  change (taskWaitComplete fuel k₁ t).bind _ = _
  rw [run]
  rfl

theorem queueReceiveBody_empty (kept : Kept rule none k lists)
    (valid : k.isDque d = true)
    (noSender : lists.task (.wait (.dqueSend d)) = [])
    (shape : (k.dque d).Valid) (nothing : (k.dque d).items = []) :
    queueReceiveBody fuel k empty d = empty k d := by
  have none := (kept.noSender valid).mpr noSender
  obtain ⟨same, refused, _⟩ := Dque.read_empty shape nothing
  unfold queueReceiveBody
  dsimp only
  rw [same, k.setDque_self, if_neg refused, if_neg (by simp [none])]

end DataQueues

/-! ## Memory pools -/

/-- The free list of a pool runs through the given blocks. -/
structure Kernel.PoolHolds (k : Kernel) (f : FmpId) (free : List Word) :
    Prop where
  chain : Chain k.mem 0 (k.fmp f).freeList free
  count : (k.fmp f).fblkcnt = free.length

/-- The blocks of the pool do not change. -/
structure Fmp.SameShape (before after : Fmp) : Prop where
  blockSize : after.blockSize = before.blockSize
  numBlocks : after.numBlocks = before.numBlocks
  startAddr : after.startAddr = before.startAddr
  idFmp : after.idFmp = before.idFmp

section MemoryPools

variable {rule : Rule} {k : Kernel} {lists : Lists} {f : FmpId}
variable {t : TaskId} {rest : List TaskId} {free : List Word}
variable (fuel : Nat) (block : Word) (taken : Kernel → FmpId → Outcome)

theorem fmemGetBody_take (holds : k.PoolHolds f (block :: free)) :
    ∃ pool, fmemGetBody k taken f =
        some (k.setFmp f pool, .retValue block false) ∧
      Fmp.SameShape (k.fmp f) pool ∧
      (k.setFmp f pool).PoolHolds f free := by
  obtain ⟨⟨first, some, chain⟩, count⟩ := holds
  have positive : (k.fmp f).fblkcnt > 0 := by
    rw [count, List.length_cons]
    omega
  refine ⟨{ k.fmp f with
    freeList := k.mem (k.fmp f).freeList
    fblkcnt := (k.fmp f).fblkcnt - 1 }, ?_, ⟨rfl, rfl, rfl, rfl⟩, ?_, ?_⟩
  · have notNull : (k.fmp f).freeList ≠ 0 := first ▸ some
    simp only [fmemGetBody, fmGet, if_pos positive, if_pos notNull]
    rw [first]
  · simpa [Kernel.setFmp, first] using chain
  · simp [Kernel.setFmp, count]

theorem fmemGetBody_none (holds : k.PoolHolds f []) :
    fmemGetBody k taken f = taken k f := by
  have none : ¬ (k.fmp f).fblkcnt > 0 := by
    rw [holds.count]
    simp
  simp [fmemGetBody, fmGet, none]

theorem Kept.noTaker (kept : Kept rule none k lists)
    (valid : k.isFmp f = true) :
    k.noWaiters (.fmp f) = true ↔ lists.task (.wait (.fmp f)) = [] :=
  kept.noWaiters_iff valid

theorem fmemReleaseBody_pass (kept : Kept rule none k lists)
    (valid : k.isFmp f = true)
    (waiting : lists.task (.wait (.fmp f)) = t :: rest) :
    ∃ k' lists', fmemReleaseBody fuel k block f =
        some (k', .retSwitch .noErr !(k.tcb t).taskState.isSuspend) ∧
      Changed rule (.fmp f) rest t ((k.tcb t).given block).awake k k' lists
        lists' := by
  obtain ⟨k₁, k', lists', removed, tcb, run, changed⟩ := kept.wake rfl
    waiting (Tcb.samePlace_given _ block) rfl fuel
  have some : ¬ k.noWaiters (.fmp f) = true := by
    rw [kept.noTaker valid, waiting]
    simp
  refine ⟨k', lists', ?_, changed⟩
  rw [← tcb] at run ⊢
  rw [fmemReleaseBody, if_pos (by simpa using some), removed]
  change (taskWaitComplete fuel
    (k₁.setTcb t ((k₁.tcb t).given block)) t).bind _ = _
  rw [run]
  rfl

theorem fmemReleaseBody_put (kept : Kept rule none k lists)
    (valid : k.isFmp f = true)
    (nobody : lists.task (.wait (.fmp f)) = [])
    (holds : k.PoolHolds f free) (some : block ≠ 0) (fresh : block ∉ free)
    (room : (free.length : Int) < (k.fmp f).numBlocks) :
    ∃ pool, fmemReleaseBody fuel k block f =
        Option.some ((k.setFmp f pool).setMem
          (Function.update k.mem block (k.fmp f).freeList), .ret .noErr) ∧
      Fmp.SameShape (k.fmp f) pool ∧
      ((k.setFmp f pool).setMem
        (Function.update k.mem block (k.fmp f).freeList)).PoolHolds f
          (block :: free) := by
  have none := (kept.noTaker valid).mpr nobody
  refine ⟨{ k.fmp f with
    freeList := block, fblkcnt := (k.fmp f).fblkcnt + 1 }, ?_,
    ⟨rfl, rfl, rfl, rfl⟩, ?_, ?_⟩
  · rw [fmemReleaseBody, if_neg (by simp [none]), fmPut]
    dsimp only
    rw [if_pos (by rw [holds.count]; exact room)]
  · simpa [Kernel.setFmp, Kernel.setMem] using
      holds.chain.push some fresh
  · simp [Kernel.setFmp, Kernel.setMem, holds.count]

end MemoryPools

/-! ## Services that leave all waits alone -/

/-- All waits go on, and nobody's element is touched. -/
structure Quiet (rule : Rule) (k k' : Kernel) (lists lists' : Lists) :
    Prop where
  kept : Kept rule none k' lists'
  waits : ∀ list, lists'.task (.wait list) = lists.task (.wait list)
  dataElem : ∀ t, (k'.tcb t).dataElem = (k.tcb t).dataElem
  same : SameObjects k k'

section Quiet

variable {rule : Rule} {k k' : Kernel} {lists lists' : Lists} {t : TaskId}
variable {task : Option TaskId} {reply : Reply}

theorem Quiet.refl (kept : Kept rule none k lists) :
    Quiet rule k k lists lists :=
  ⟨kept, fun _ => rfl, fun _ => rfl, .refl k⟩

theorem Quiet.of_update (kept : Kept rule none k' lists')
    (waits : ∀ list, lists'.task (.wait list) = lists.task (.wait list))
    {new : Tcb} (tcb : k'.tcb = Function.update k.tcb t new)
    (sameElem : new.dataElem = (k.tcb t).dataElem)
    (same : SameObjects k k') : Quiet rule k k' lists lists' := by
  refine ⟨kept, waits, fun u => ?_, same⟩
  rw [tcb]
  by_cases equal : u = t
  · subst equal
    simpa using sameElem
  · simp [equal]

theorem tnTaskSuspend_quiet (kept : Kept rule none k lists)
    (stop : ∀ t, task = some t → rule.stop t)
    (run : tnTaskSuspend k task = some (k', reply)) :
    ∃ lists', Quiet rule k k' lists lists' := by
  rcases checked_eq run with ⟨rfl, _⟩ | ⟨t, isObject, _, valid, _, body⟩
  · exact ⟨lists, .refl kept⟩
  have isTask := isTask_iff.mp valid
  dsimp only at body
  split at body
  · cases body
    exact ⟨lists, .refl kept⟩
  split at body
  · cases body
    exact ⟨lists, .refl kept⟩
  split at body
  · cases body
    exact ⟨lists, .refl kept⟩
  split at body
  · next ready =>
      obtain ⟨bmp, next, run, after⟩ :=
        kept.suspend (stop t isObject) isTask ready
      rw [run] at body
      cases body
      refine ⟨_, .of_update after (fun list => drop_of_absent ?_) rfl rfl
        ⟨rfl, rfl, rfl, rfl, rfl, rfl, rfl, rfl, rfl, rfl⟩⟩
      intro member
      have waiting := (Tcb.home_eq_wait.mp
        ((kept.consistent.tasks.home t _).mp member).2).2.1
      rw [ready] at waiting
      cases waiting
  · next awake notDormant _ notReady =>
      cases body
      refine ⟨lists, .of_update (kept.freeze ?_ ?_) (fun _ => rfl) rfl rfl
        ⟨rfl, rfl, rfl, rfl, rfl, rfl, rfl, rfl, rfl, rfl⟩⟩ <;>
      · revert awake notDormant notReady
        cases (k.tcb t).taskState <;>
          simp [TaskState.isWait, TaskState.isSuspend, TaskState.addSuspend]

theorem tnTaskResume_quiet (kept : Kept rule none k lists)
    (run : tnTaskResume k task = some (k', reply)) :
    ∃ lists', Quiet rule k k' lists lists' := by
  rcases checked_eq run with ⟨rfl, _⟩ | ⟨t, isObject, _, valid, _, body⟩
  · exact ⟨lists, .refl kept⟩
  have isTask := isTask_iff.mp valid
  dsimp only at body
  split at body
  · cases body
    exact ⟨lists, .refl kept⟩
  split at body
  · next suspended notWaiting =>
      have homeless : (k.tcb t).home = none := by
        revert suspended notWaiting
        unfold Tcb.home
        cases (k.tcb t).taskState <;>
          simp [TaskState.isWait, TaskState.isSuspend]
      have awake : (k.tcb t).taskState.isWait = false := by
        simpa using notWaiting
      obtain ⟨bmp, next, made, _⟩ :=
        kept.consistent.taskToRunnable isTask homeless awake
      have after := kept.taskToRunnable isTask homeless awake
      rw [made] at after
      cases body
      rw [made]
      exact ⟨_, .of_update after (lists.ready_wait t _) rfl rfl
        ⟨rfl, rfl, rfl, rfl, rfl, rfl, rfl, rfl, rfl, rfl⟩⟩
  · next suspended waiting =>
      cases body
      refine ⟨lists, .of_update (kept.freeze ?_ ?_) (fun _ => rfl) rfl rfl
        ⟨rfl, rfl, rfl, rfl, rfl, rfl, rfl, rfl, rfl, rfl⟩⟩ <;>
      · revert suspended waiting
        cases (k.tcb t).taskState <;>
          simp [TaskState.isWait, TaskState.isSuspend,
            TaskState.removeSuspend]

end Quiet

end UsbBulk
