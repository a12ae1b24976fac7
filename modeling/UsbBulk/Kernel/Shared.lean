import UsbBulk.Kernel.Effects

/-!
# Queues and pools as their users see them

The abstract state of the objects that a program shares: what the queues store,
which blocks of the pools are free, who waits where, and the words of memory.
The services become functions on this state, and the kernel refines them.
-/

namespace UsbBulk

/-! ## The abstract state -/

structure Shared where
  /-- What the arrays of the queues store. -/
  items : DqueId → List Word
  capacity : DqueId → Nat
  /-- The free blocks of the pools. -/
  free : FmpId → List Word
  total : FmpId → Nat
  waiting : WaitList → List TaskId
  /-- What the tasks find in their control block after a wait. -/
  elem : TaskId → Word
  waitRc : TaskId → Terr
  mem : Word → Word

namespace Shared

variable (s : Shared)

def setItems (d : DqueId) (items : List Word) : Shared :=
  { s with items := Function.update s.items d items }

def setFree (f : FmpId) (free : List Word) : Shared :=
  { s with free := Function.update s.free f free }

def setMem (mem : Word → Word) : Shared := { s with mem := mem }

/-- A task gets a value. -/
def give (t : TaskId) (value : Word) : Shared :=
  { s with elem := Function.update s.elem t value }

/-- The first task of a wait list need not wait any more. -/
def wake (list : WaitList) (t : TaskId) (rest : List TaskId) : Shared :=
  { s with
    waiting := Function.update s.waiting list rest
    waitRc := Function.update s.waitRc t .noErr }

/-- A task starts to wait. -/
def sleep (list : WaitList) (t : TaskId) : Shared :=
  { s with
    waiting := Function.update s.waiting list (s.waiting list ++ [t]) }

/-- Sending a value; `none` when there is no place for it. -/
def send (d : DqueId) (value : Word) : Option Shared :=
  match s.waiting (.dqueReceive d) with
  | t :: rest => some ((s.give t value).wake (.dqueReceive d) t rest)
  | [] =>
      if (s.items d).length = s.capacity d then none
      else some (s.setItems d (s.items d ++ [value]))

/-- Receiving a value; `none` when there is none. -/
def receive (d : DqueId) : Option (Word × Shared) :=
  match s.items d, s.waiting (.dqueSend d) with
  | first :: left, t :: rest =>
      some (first,
        (s.setItems d (left ++ [s.elem t])).wake (.dqueSend d) t rest)
  | first :: left, [] => some (first, s.setItems d left)
  | [], t :: rest => some (s.elem t, s.wake (.dqueSend d) t rest)
  | [], [] => none

/-- Taking a block; `none` when there is none. -/
def get (f : FmpId) : Option (Word × Shared) :=
  match s.free f with
  | block :: free => some (block, s.setFree f free)
  | [] => none

/-- Releasing a block.  A block that becomes free is linked through its first
word. -/
def release (f : FmpId) (block : Word) : Shared :=
  match s.waiting (.fmp f) with
  | t :: rest => (s.give t block).wake (.fmp f) t rest
  | [] => (s.setFree f (block :: s.free f)).setMem
      (Function.update s.mem block ((s.free f).headD 0))

variable {s} {s' : Shared} {d : DqueId} {f : FmpId} {value block : Word}

/-- What an accepted send does. -/
inductive Sent (s : Shared) (d : DqueId) (value : Word) : Shared → Prop where
  | handed {t : TaskId} {rest : List TaskId}
      (waits : s.waiting (.dqueReceive d) = t :: rest) :
      Sent s d value ((s.give t value).wake (.dqueReceive d) t rest)
  | stored (nobody : s.waiting (.dqueReceive d) = [])
      (room : (s.items d).length ≠ s.capacity d) :
      Sent s d value (s.setItems d (s.items d ++ [value]))

/-- What a receive that gets a value does. -/
inductive Received (s : Shared) (d : DqueId) : Word → Shared → Prop where
  | refilled {first : Word} {left : List Word} {t : TaskId} {rest : List TaskId}
      (items : s.items d = first :: left)
      (waits : s.waiting (.dqueSend d) = t :: rest) :
      Received s d first
        ((s.setItems d (left ++ [s.elem t])).wake (.dqueSend d) t rest)
  | taken {first : Word} {left : List Word} (items : s.items d = first :: left)
      (nobody : s.waiting (.dqueSend d) = []) :
      Received s d first (s.setItems d left)
  | handed {t : TaskId} {rest : List TaskId} (empty : s.items d = [])
      (waits : s.waiting (.dqueSend d) = t :: rest) :
      Received s d (s.elem t) (s.wake (.dqueSend d) t rest)

theorem sent (accepted : s.send d value = some s') : s.Sent d value s' := by
  unfold send at accepted
  split at accepted
  · next waits =>
      cases accepted
      exact .handed waits
  · next nobody =>
      split at accepted <;> cases accepted
      next room => exact .stored nobody room

theorem send_eq_none : s.send d value = none ↔
    s.waiting (.dqueReceive d) = [] ∧ (s.items d).length = s.capacity d := by
  unfold send
  split
  · next waits => simp [waits]
  · next nobody => simp [nobody]

theorem received (got : s.receive d = some (value, s')) :
    s.Received d value s' := by
  unfold receive at got
  split at got
  · next items waits =>
      cases got
      exact .refilled items waits
  · next items nobody =>
      cases got
      exact .taken items nobody
  · next empty waits =>
      cases got
      exact .handed empty waits
  · cases got

theorem receive_eq_none : s.receive d = none ↔
    s.items d = [] ∧ s.waiting (.dqueSend d) = [] := by
  unfold receive
  split <;> simp [*]

theorem get_eq_some : s.get f = some (block, s') ↔
    ∃ free, s.free f = block :: free ∧ s.setFree f free = s' := by
  unfold get
  split <;> simp_all

theorem get_eq_none : s.get f = none ↔ s.free f = [] := by
  unfold get
  split <;> simp_all

end Shared

/-! ## The kernel refines it -/

/-- The queue exists and stores the given values. -/
structure Kernel.QueueHolds (k : Kernel) (d : DqueId) (items : List Word)
    (capacity : Nat) : Prop where
  isDque : k.isDque d = true
  shape : (k.dque d).Valid
  items : (k.dque d).items = items
  capacity : (k.dque d).capacity = capacity

/-- The pool exists and has the given free blocks. -/
structure Kernel.PoolReady (k : Kernel) (f : FmpId) (free : List Word)
    (total : Nat) : Prop where
  isFmp : k.isFmp f = true
  holds : k.PoolHolds f free
  total : (k.fmp f).numBlocks = total

/-- The kernel is in the abstract state, as far as the given queues and pools
go. -/
structure Shares (rule : Rule) (queues : DqueId → Prop)
    (pools : FmpId → Prop) (k : Kernel) (lists : Lists) (s : Shared) :
    Prop where
  kept : Kept rule none k lists
  waiting : ∀ list, lists.task (.wait list) = s.waiting list
  elem : ∀ t, (k.tcb t).dataElem = s.elem t
  waitRc : ∀ t, (k.tcb t).taskWaitRc = s.waitRc t
  mem : k.mem = s.mem
  queue : ∀ d, queues d → k.QueueHolds d (s.items d) (s.capacity d)
  pool : ∀ f, pools f → k.PoolReady f (s.free f) (s.total f)

/-- The running task and the context are the same. -/
structure SameContext (k k' : Kernel) : Prop where
  tnCurrRunTask : k'.tnCurrRunTask = k.tnCurrRunTask
  tnSystemRunning : k'.tnSystemRunning = k.tnSystemRunning
  tnIntCounter : k'.tnIntCounter = k.tnIntCounter
  irqDisabled : k'.irqDisabled = k.irqDisabled

/-- A service answers, and the kernel is then in the given abstract state. -/
def Refines (rule : Rule) (queues : DqueId → Prop) (pools : FmpId → Prop)
    (k : Kernel) (outcome : Outcome) (rc : Option Terr)
    (value : Option Word) (s : Shared) : Prop :=
  ∃ k' reply lists, outcome = some (k', reply) ∧ reply.rc = rc ∧
    reply.value = value ∧ SameContext k k' ∧
    Shares rule queues pools k' lists s

section Refinement

variable {rule : Rule} {queues : DqueId → Prop} {pools : FmpId → Prop}
variable {k k' : Kernel} {lists lists' : Lists} {s s' : Shared}
variable {d : DqueId} {f : FmpId} {t : TaskId} {rc : Option Terr}
variable {value : Option Word}

theorem SameContext.refl (k : Kernel) : SameContext k k :=
  ⟨rfl, rfl, rfl, rfl⟩

theorem SameObjects.context (same : SameObjects k k') : SameContext k k' :=
  ⟨same.tnCurrRunTask, same.tnSystemRunning, same.tnIntCounter,
    same.irqDisabled⟩

theorem Kernel.QueueHolds.congr {items : List Word} {capacity : Nat}
    (holds : k.QueueHolds d items capacity) (same : k'.dque d = k.dque d) :
    k'.QueueHolds d items capacity := by
  obtain ⟨isDque, shape, stored, bound⟩ := holds
  constructor
  · rwa [Kernel.isDque, same]
  · rwa [same]
  · rwa [same]
  · rwa [same]

theorem Kernel.PoolReady.congr {free : List Word} {total : Nat}
    (ready : k.PoolReady f free total) (same : k'.fmp f = k.fmp f)
    (mem : ∀ block ∈ free, k'.mem block = k.mem block) :
    k'.PoolReady f free total := by
  obtain ⟨isFmp, ⟨chain, count⟩, all⟩ := ready
  refine ⟨?_, ⟨?_, ?_⟩, ?_⟩
  · rwa [Kernel.isFmp, same]
  · rw [same]
    exact chain.congr mem
  · rwa [same]
  · rwa [same]

/-- The abstract state only depends on these parts of the kernel. -/
theorem Shares.of_same (shares : Shares rule queues pools k lists s)
    (kept : Kept rule none k' lists) (tcb : k'.tcb = k.tcb)
    (dque : k'.dque = k.dque) (fmp : k'.fmp = k.fmp) (mem : k'.mem = k.mem) :
    Shares rule queues pools k' lists s where
  kept := kept
  waiting := shares.waiting
  elem t := by rw [tcb, shares.elem]
  waitRc t := by rw [tcb, shares.waitRc]
  mem := mem.trans shares.mem
  queue d member := (shares.queue d member).congr (congrFun dque d)
  pool f member := (shares.pool f member).congr (congrFun fmp f)
    fun block _ => congrFun mem block

theorem Shares.request (shares : Shares rule queues pools k lists s) :
    Shares rule queues pools { k with tnContextSwitchRequest := true } lists
      s :=
  shares.of_same shares.kept.request rfl rfl rfl rfl

theorem Shares.enterIrq (shares : Shares rule queues pools k lists s) :
    Shares rule queues pools k.enterIrq lists s :=
  shares.of_same (shares.kept.of_objects rfl rfl rfl rfl rfl rfl rfl
    fun _ => rfl) rfl rfl rfl rfl

theorem Shares.leaveIrq (shares : Shares rule queues pools k lists s) :
    Shares rule queues pools k.leaveIrq lists s :=
  shares.of_same (shares.kept.of_objects rfl rfl rfl rfl rfl rfl rfl
    fun _ => rfl) rfl rfl rfl rfl

theorem Shares.of_changed (shares : Shares rule queues pools k lists s)
    {list : WaitList} {members : List TaskId} {new : Tcb}
    (changed : Changed rule list members t new k k' lists lists')
    (waiting : s'.waiting = Function.update s.waiting list members)
    (elem : s'.elem = Function.update s.elem t new.dataElem)
    (waitRc : s'.waitRc = Function.update s.waitRc t new.taskWaitRc)
    (others : s'.items = s.items ∧ s'.capacity = s.capacity ∧
      s'.free = s.free ∧ s'.total = s.total ∧ s'.mem = s.mem) :
    Shares rule queues pools k' lists' s' where
  kept := changed.kept
  waiting other := by
    rw [waiting]
    by_cases equal : other = list
    · subst equal
      rw [changed.members, Function.update_self]
    · rw [changed.others other equal, shares.waiting,
        Function.update_of_ne equal]
  elem u := by
    rw [changed.tcb, elem]
    by_cases equal : u = t
    · subst equal
      simp
    · simp [equal, shares.elem]
  waitRc u := by
    rw [changed.tcb, waitRc]
    by_cases equal : u = t
    · subst equal
      simp
    · simp [equal, shares.waitRc]
  mem := by rw [changed.same.mem, shares.mem, others.2.2.2.2]
  queue d member := by
    rw [others.1, others.2.1]
    exact (shares.queue d member).congr (congrFun changed.same.dque d)
  pool f member := by
    rw [others.2.2.1, others.2.2.2.1]
    exact (shares.pool f member).congr (congrFun changed.same.fmp f)
      fun block _ => congrFun changed.same.mem block

theorem Shares.hand (shares : Shares rule queues pools k lists s)
    {list : WaitList} {rest : List TaskId} {given : Word}
    (changed : Changed rule list rest t ((k.tcb t).given given).awake k k'
      lists lists') :
    Shares rule queues pools k' lists' ((s.give t given).wake list t rest) :=
  shares.of_changed changed rfl rfl rfl ⟨rfl, rfl, rfl, rfl, rfl⟩

theorem Shares.wake (shares : Shares rule queues pools k lists s)
    {list : WaitList} {rest : List TaskId}
    (changed : Changed rule list rest t (k.tcb t).awake k k' lists lists') :
    Shares rule queues pools k' lists' (s.wake list t rest) := by
  refine shares.of_changed changed rfl ?_ rfl ⟨rfl, rfl, rfl, rfl, rfl⟩
  change s.elem = Function.update s.elem t (k.tcb t).dataElem
  rw [shares.elem, Function.update_eq_self]

theorem Shares.sleep (shares : Shares rule queues pools k lists s)
    {list : WaitList} {reason : WaitReason} {timeout : Word}
    (changed : Changed rule list (lists.task (.wait list) ++ [t]) t
      ((k.tcb t).asleep (some list) reason timeout) k k' lists lists') :
    Shares rule queues pools k' lists' (s.sleep list t) := by
  refine shares.of_changed changed ?_ ?_ ?_ ⟨rfl, rfl, rfl, rfl, rfl⟩
  · rw [shares.waiting]
    rfl
  · change s.elem = Function.update s.elem t (k.tcb t).dataElem
    rw [shares.elem, Function.update_eq_self]
  · change s.waitRc = Function.update s.waitRc t (k.tcb t).taskWaitRc
    rw [shares.waitRc, Function.update_eq_self]

theorem Shares.sleepWith (shares : Shares rule queues pools k lists s)
    {list : WaitList} {reason : WaitReason} {timeout given : Word}
    (changed : Changed rule list (lists.task (.wait list) ++ [t]) t
      (((k.tcb t).given given).asleep (some list) reason timeout) k k' lists
      lists') :
    Shares rule queues pools k' lists' ((s.give t given).sleep list t) := by
  refine shares.of_changed changed ?_ rfl ?_ ⟨rfl, rfl, rfl, rfl, rfl⟩
  · rw [shares.waiting]
    rfl
  · change s.waitRc = Function.update s.waitRc t (k.tcb t).taskWaitRc
    rw [shares.waitRc, Function.update_eq_self]

theorem Shares.setDque (shares : Shares rule queues pools k lists s)
    {dque : Dque} {items : List Word} (stored : dque.items = items)
    (shape : dque.Valid) (same : Dque.SameShape (k.dque d) dque) :
    Shares rule queues pools (k.setDque d dque) lists
      (s.setItems d items) where
  kept := shares.kept.setDque same.idDque
  waiting := shares.waiting
  elem := shares.elem
  waitRc := shares.waitRc
  mem := shares.mem
  queue other member := by
    obtain ⟨isDque, shape', stored', bound⟩ := shares.queue other member
    by_cases equal : other = d
    · subst equal
      have there : (k.setDque other dque).dque other = dque := by
        simp [Kernel.setDque]
      refine ⟨?_, by rwa [there], by simpa [Shared.setItems, there], ?_⟩
      · rw [Kernel.isDque, there, same.idDque]
        exact isDque
      · rw [there, Dque.capacity, same.numEntries]
        exact bound
    · have there : (k.setDque d dque).dque other = k.dque other := by
        simp [Kernel.setDque, equal]
      simpa [Shared.setItems, equal] using
        (shares.queue other member).congr there
  pool := fun f member =>
    (shares.pool f member).congr rfl fun _ _ => rfl

/-- The free blocks of one pool, and perhaps the memory, have changed. -/
theorem Shares.setFmp (shares : Shares rule queues pools k lists s)
    {pool : Fmp} {free : List Word} (mem : Word → Word)
    (same : Fmp.SameShape (k.fmp f) pool)
    (holds : ((k.setFmp f pool).setMem mem).PoolHolds f free)
    (outside : ∀ other, pools other → other ≠ f →
      ∀ block ∈ s.free other, mem block = s.mem block) :
    Shares rule queues pools ((k.setFmp f pool).setMem mem) lists
      ((s.setFree f free).setMem mem) where
  kept := (shares.kept.setFmp (by rw [same.idFmp]; rfl)).setMem mem
  waiting := shares.waiting
  elem := shares.elem
  waitRc := shares.waitRc
  mem := rfl
  queue := fun d member => (shares.queue d member).congr rfl
  pool other member := by
    obtain ⟨isFmp, holds', all⟩ := shares.pool other member
    by_cases equal : other = f
    · subst equal
      have there : ((k.setFmp other pool).setMem mem).fmp other = pool := by
        simp [Kernel.setFmp, Kernel.setMem]
      refine ⟨?_, by simpa [Shared.setFree, Shared.setMem] using holds, ?_⟩
      · rw [Kernel.isFmp, there, same.idFmp]
        exact isFmp
      · rw [there, same.numBlocks]
        exact all
    · have there : ((k.setFmp f pool).setMem mem).fmp other = k.fmp other := by
        simp [Kernel.setFmp, Kernel.setMem, equal]
      simpa [Shared.setFree, Shared.setMem, equal] using
        (shares.pool other member).congr there fun block inside =>
          (outside other member equal block inside).trans
            (congrFun shares.mem block).symm

theorem Shares.write (shares : Shares rule queues pools k lists s)
    (mem : Word → Word)
    (outside : ∀ f, pools f → ∀ block ∈ s.free f, mem block = s.mem block) :
    Shares rule queues pools (k.setMem mem) lists (s.setMem mem) where
  kept := shares.kept.setMem mem
  waiting := shares.waiting
  elem := shares.elem
  waitRc := shares.waitRc
  mem := rfl
  queue := fun d member => (shares.queue d member).congr rfl
  pool f member := (shares.pool f member).congr rfl fun block inside =>
    (outside f member block inside).trans (congrFun shares.mem block).symm

/-! ### The bodies of the services -/

theorem Refines.fromInterrupt {outcome : Outcome}
    (refines : Refines rule queues pools k outcome rc value s) :
    Refines rule queues pools k outcome.fromInterrupt rc value s := by
  obtain ⟨k', reply, lists, run, isRc, isValue, same, shares⟩ := refines
  subst run
  by_cases switch : reply.switch
  · refine ⟨_, _, lists, congrArg some (if_pos switch), isRc, isValue, ?_,
      shares.request⟩
    exact ⟨same.tnCurrRunTask, same.tnSystemRunning, same.tnIntCounter,
      same.irqDisabled⟩
  · exact ⟨_, _, lists, congrArg some (if_neg switch), isRc, isValue, same,
      shares⟩

theorem checked_pass {id : Nat} {badParam valid : Nat → Bool}
    {wrongContext : Bool} (param : badParam id = false)
    (there : valid id = true) (context : wrongContext = false)
    (body : Nat → Outcome) :
    checked k (some id) badParam valid wrongContext body = body id := by
  simp [checked, param, there, context]

theorem Shares.sendBody (shares : Shares rule queues pools k lists s)
    (member : queues d) (fuel : Nat) (given : Word)
    (full : Kernel → DqueId → Outcome) :
    (∀ s', s.send d given = some s' → Refines rule queues pools k
      (queueSendBody fuel k given full d) (some .noErr) none s') ∧
    (s.send d given = none →
      queueSendBody fuel k given full d = full k d) := by
  obtain ⟨isDque, shape, items, capacity⟩ := shares.queue d member
  have receivers := shares.waiting (.dqueReceive d)
  unfold Shared.send
  cases waiting : s.waiting (.dqueReceive d) with
  | cons t rest =>
      rw [waiting] at receivers
      obtain ⟨k', lists', run, changed⟩ := queueSendBody_hand fuel given full
        shares.kept isDque receivers
      refine ⟨fun s' result => ?_, by simp⟩
      cases result
      exact ⟨k', _, lists', run, rfl, rfl, changed.same.context,
        shares.hand changed⟩
  | nil =>
      rw [waiting] at receivers
      dsimp only
      split
      · next noRoom =>
          refine ⟨by simp, fun _ => ?_⟩
          exact queueSendBody_full fuel given full shares.kept isDque
            receivers shape (by rw [items, capacity, noRoom])
      · next room =>
          have room : (k.dque d).items.length ≠ (k.dque d).capacity := by
            rwa [items, capacity]
          have run := queueSendBody_store fuel given full shares.kept isDque
            receivers shape room
          obtain ⟨_, stored, shape', same⟩ :=
            Dque.write_room shape given room
          refine ⟨fun s' result => ?_, by simp⟩
          cases result
          rw [items] at stored
          exact ⟨_, _, lists, run, rfl, rfl, ⟨rfl, rfl, rfl, rfl⟩,
            shares.setDque stored shape' same⟩

theorem Shares.receiveBody (shares : Shares rule queues pools k lists s)
    (member : queues d) (fuel : Nat) (empty : Kernel → DqueId → Outcome) :
    (∀ taken s', s.receive d = some (taken, s') →
      Refines rule queues pools k (queueReceiveBody fuel k empty d)
        (some .noErr) (some taken) s') ∧
    (s.receive d = none →
      queueReceiveBody fuel k empty d = empty k d) := by
  obtain ⟨isDque, shape, items, capacity⟩ := shares.queue d member
  have senders := shares.waiting (.dqueSend d)
  unfold Shared.receive
  cases waiting : s.waiting (.dqueSend d) with
  | cons t rest =>
      rw [waiting] at senders
      cases stored : s.items d with
      | cons first left =>
          rw [stored] at items
          obtain ⟨k', lists', run, changed⟩ := queueReceiveBody_refill fuel
            empty shares.kept isDque senders shape items
          refine ⟨fun taken s' result => ?_, by simp⟩
          cases result
          obtain ⟨_, items', shape', same⟩ := Dque.read_cons shape items
          have bound := shape.length_items_le
          rw [items, List.length_cons] at bound
          obtain ⟨_, items'', shape'', same'⟩ := Dque.write_room shape'
            (k.tcb t).dataElem (by rw [items', same.capacity]; omega)
          have between := shares.setDque
            (items''.trans (by rw [items', shares.elem])) shape''
            (same.trans same')
          exact ⟨k', _, lists', run, rfl, rfl, ⟨changed.same.tnCurrRunTask,
            changed.same.tnSystemRunning, changed.same.tnIntCounter,
            changed.same.irqDisabled⟩, between.wake changed⟩
      | nil =>
          rw [stored] at items
          obtain ⟨k', lists', run, changed⟩ := queueReceiveBody_direct fuel
            empty shares.kept isDque senders shape items
          refine ⟨fun taken s' result => ?_, by simp⟩
          cases result
          rw [shares.elem] at run
          exact ⟨k', _, lists', run, rfl, rfl, changed.same.context,
            shares.wake changed⟩
  | nil =>
      rw [waiting] at senders
      cases stored : s.items d with
      | cons first left =>
          rw [stored] at items
          have run := queueReceiveBody_take fuel empty shares.kept isDque
            senders shape items
          obtain ⟨_, items', shape', same⟩ := Dque.read_cons shape items
          refine ⟨fun taken s' result => ?_, by simp⟩
          cases result
          exact ⟨_, _, lists, run, rfl, rfl, ⟨rfl, rfl, rfl, rfl⟩,
            shares.setDque items' shape' same⟩
      | nil =>
          rw [stored] at items
          refine ⟨by simp, fun _ => ?_⟩
          exact queueReceiveBody_empty fuel empty shares.kept isDque senders
            shape items

theorem Shares.getBody (shares : Shares rule queues pools k lists s)
    (member : pools f) (taken : Kernel → FmpId → Outcome) :
    (∀ block s', s.get f = some (block, s') →
      Refines rule queues pools k (fmemGetBody k taken f) (some .noErr)
        (some block) s') ∧
    (s.get f = none → fmemGetBody k taken f = taken k f) := by
  obtain ⟨isFmp, holds, total⟩ := shares.pool f member
  unfold Shared.get
  cases free : s.free f with
  | cons block rest =>
      rw [free] at holds
      obtain ⟨pool, run, same, holds'⟩ := fmemGetBody_take block taken holds
      refine ⟨fun block' s' result => ?_, by simp⟩
      cases result
      have after := shares.setFmp k.mem same
        ⟨holds'.chain, holds'.count⟩
        fun _ _ _ block _ => congrFun shares.mem block
      rw [shares.mem] at after
      exact ⟨_, _, lists, run, rfl, rfl, ⟨rfl, rfl, rfl, rfl⟩,
        after.of_same (shares.kept.setFmp (by rw [same.idFmp]; rfl)) rfl rfl
          rfl shares.mem⟩
  | nil =>
      rw [free] at holds
      exact ⟨by simp, fun _ => fmemGetBody_none taken holds⟩

theorem Shares.releaseBody (shares : Shares rule queues pools k lists s)
    (member : pools f) (fuel : Nat) {block : Word} (notNull : block ≠ 0)
    (fresh : ∀ other, pools other → block ∉ s.free other)
    (room : (s.free f).length < s.total f) :
    Refines rule queues pools k (fmemReleaseBody fuel k block f)
      (some .noErr) none (s.release f block) := by
  obtain ⟨isFmp, holds, total⟩ := shares.pool f member
  have takers := shares.waiting (.fmp f)
  unfold Shared.release
  cases waiting : s.waiting (.fmp f) with
  | cons t rest =>
      rw [waiting] at takers
      obtain ⟨k', lists', run, changed⟩ :=
        fmemReleaseBody_pass fuel block shares.kept isFmp takers
      exact ⟨k', _, lists', run, rfl, rfl, changed.same.context,
        shares.hand changed⟩
  | nil =>
      rw [waiting] at takers
      obtain ⟨pool, run, same, holds'⟩ := fmemReleaseBody_put fuel block
        shares.kept isFmp takers holds notNull (fresh f member)
        (by rw [total]; exact_mod_cast room)
      have first : (k.fmp f).freeList = (s.free f).headD 0 := by
        have chain := holds.chain
        cases free : s.free f with
        | nil => rw [free] at chain; exact chain
        | cons head rest => rw [free] at chain; exact chain.1
      rw [first, shares.mem] at run holds'
      refine ⟨_, _, lists, run, rfl, rfl, ⟨rfl, rfl, rfl, rfl⟩,
        shares.setFmp _ same holds' fun other member different b inside => ?_⟩
      refine Function.update_of_ne (fun equal => ?_) _ _
      exact fresh other member (equal ▸ inside)

end Refinement

end UsbBulk
