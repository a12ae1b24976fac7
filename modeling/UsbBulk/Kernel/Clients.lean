import UsbBulk.Kernel.Context
import UsbBulk.Kernel.PoolRun

/-!
# Tasks and interrupt routines that share queues and pools

What the services do for a program that calls them correctly, as functions on
the abstract state: the services that wait, called by the running task, and the
services for interrupts.  Around them other tasks are suspended and resumed, and
the processor switches between tasks.
-/

namespace UsbBulk

section Services

variable {rule : Rule} {queues : DqueId → Prop} {pools : FmpId → Prop}
variable {k k' : Kernel} {lists : Lists} {s : Shared} {d : DqueId}
variable {f : FmpId} {t : TaskId}

/-- A task that may wait forever on a list runs. -/
structure MayWait (rule : Rule) (k : Kernel) : Prop where
  running : (k.tcb k.tnCurrRunTask).taskState = .runnable
  stop : rule.stop k.tnCurrRunTask
  waits : ∀ list, rule.waits (some list) tnWaitInfinite

/-! ## Services for tasks -/

theorem Shares.wait (shares : Shares rule queues pools k lists s)
    (may : MayWait rule k) {list : WaitList} {reason : WaitReason}
    (fits : reason.fits (some list) = true) (has : k.hasList list = true) :
    Refines rule queues pools k
      ((taskCurrToWaitAction k (some list) reason tnWaitInfinite).bind
        fun k => some (k, .block)) none none
      (s.sleep list k.tnCurrRunTask) := by
  obtain ⟨k', lists', run, changed⟩ := shares.kept.sleep may.running may.stop
    (may.waits list) fits has
  rw [run]
  exact ⟨k', _, lists', rfl, rfl, rfl, changed.same.context,
    shares.sleep changed⟩

theorem Shares.tnQueueReceive (shares : Shares rule queues pools k lists s)
    (member : queues d) (context : k.wrongNonIntContext = false)
    (may : MayWait rule k) (fuel : Nat) :
    (∀ taken s', s.receive d = some (taken, s') →
      Refines rule queues pools k
        (UsbBulk.tnQueueReceive fuel k (some d) true tnWaitInfinite)
        (some .noErr) (some taken) s') ∧
    (s.receive d = none → Refines rule queues pools k
      (UsbBulk.tnQueueReceive fuel k (some d) true tnWaitInfinite) none none
      (s.sleep (.dqueReceive d) k.tnCurrRunTask)) := by
  have isDque := (shares.queue d member).isDque
  rw [UsbBulk.tnQueueReceive,
    checked_pass (by simp [tnWaitInfinite]) isDque context]
  obtain ⟨answers, sleeps⟩ := shares.receiveBody member fuel _
  refine ⟨answers, fun empty => ?_⟩
  rw [sleeps empty]
  exact shares.wait may rfl isDque

theorem Shares.tnQueueSend (shares : Shares rule queues pools k lists s)
    (member : queues d) (context : k.wrongNonIntContext = false)
    (may : MayWait rule k) (fuel : Nat) (given : Word) :
    (∀ s', s.send d given = some s' → Refines rule queues pools k
      (UsbBulk.tnQueueSend fuel k (some d) given tnWaitInfinite)
      (some .noErr) none s') ∧
    (s.send d given = none → Refines rule queues pools k
      (UsbBulk.tnQueueSend fuel k (some d) given tnWaitInfinite) none none
      ((s.give k.tnCurrRunTask given).sleep (.dqueSend d)
        k.tnCurrRunTask)) := by
  have isDque := (shares.queue d member).isDque
  rw [UsbBulk.tnQueueSend,
    checked_pass (by simp [tnWaitInfinite]) isDque context]
  obtain ⟨answers, sleeps⟩ := shares.sendBody member fuel given _
  refine ⟨answers, fun full => ?_⟩
  rw [sleeps full]
  have fits : WaitReason.dqueWsend.fits (some (.dqueSend d)) = true := rfl
  obtain ⟨k', lists', run, changed⟩ := shares.kept.sleepWith
    (Tcb.samePlace_given _ given) rfl may.running may.stop
    (may.waits (.dqueSend d)) fits isDque
  change Refines _ _ _ _ ((taskCurrToWaitAction (k.setTcb k.tnCurrRunTask
    ((k.tcb k.tnCurrRunTask).given given)) _ _ _).bind _) _ _ _
  rw [run]
  exact ⟨k', _, lists', rfl, rfl, rfl, changed.same.context,
    shares.sleepWith changed⟩

theorem Shares.tnFmemGet (shares : Shares rule queues pools k lists s)
    (member : pools f) (context : k.wrongNonIntContext = false)
    (may : MayWait rule k) :
    (∀ block s', s.get f = some (block, s') → Refines rule queues pools k
      (UsbBulk.tnFmemGet k (some f) true tnWaitInfinite) (some .noErr)
      (some block) s') ∧
    (s.get f = none → Refines rule queues pools k
      (UsbBulk.tnFmemGet k (some f) true tnWaitInfinite) none none
      (s.sleep (.fmp f) k.tnCurrRunTask)) := by
  have isFmp := (shares.pool f member).isFmp
  rw [UsbBulk.tnFmemGet,
    checked_pass (by simp [tnWaitInfinite]) isFmp context]
  obtain ⟨answers, sleeps⟩ := shares.getBody member _
  refine ⟨answers, fun empty => ?_⟩
  rw [sleeps empty]
  exact shares.wait may rfl isFmp

theorem Shares.tnFmemRelease (shares : Shares rule queues pools k lists s)
    (member : pools f) (context : k.wrongNonIntContext = false) (fuel : Nat)
    {block : Word} (notNull : block ≠ 0)
    (fresh : ∀ other, pools other → block ∉ s.free other)
    (room : (s.free f).length < s.total f) :
    Refines rule queues pools k
      (UsbBulk.tnFmemRelease fuel k (some f) block) (some .noErr) none
      (s.release f block) := by
  have isFmp := (shares.pool f member).isFmp
  rw [UsbBulk.tnFmemRelease, checked_pass (by simpa using notNull) isFmp
    context]
  exact shares.releaseBody member fuel notNull fresh room

/-! ## Services for interrupts -/

theorem Shares.tnFmemGetIpolling
    (shares : Shares rule queues pools k lists s) (member : pools f)
    (context : k.wrongIntContext = false) :
    (∀ block s', s.get f = some (block, s') → Refines rule queues pools k
      (UsbBulk.tnFmemGetIpolling k (some f) true) (some .noErr)
      (some block) s') ∧
    (s.get f = none → UsbBulk.tnFmemGetIpolling k (some f) true =
      some (k, .ret .timeout)) := by
  have isFmp := (shares.pool f member).isFmp
  rw [UsbBulk.tnFmemGetIpolling, checked_pass (by simp) isFmp context]
  exact shares.getBody member _

theorem Shares.tnQueueIsendPolling
    (shares : Shares rule queues pools k lists s) (member : queues d)
    (context : k.wrongIntContext = false) (fuel : Nat) (given : Word) :
    (∀ s', s.send d given = some s' → Refines rule queues pools k
      (UsbBulk.tnQueueIsendPolling fuel k (some d) given) (some .noErr) none
      s') ∧
    (s.send d given = none → Refines rule queues pools k
      (UsbBulk.tnQueueIsendPolling fuel k (some d) given) (some .timeout)
      none s) := by
  have isDque := (shares.queue d member).isDque
  rw [UsbBulk.tnQueueIsendPolling, checked_pass (by simp) isDque context]
  obtain ⟨answers, refused⟩ := shares.sendBody member fuel given _
  refine ⟨fun s' result => (answers s' result).fromInterrupt,
    fun full => ?_⟩
  rw [refused full]
  exact ⟨k, _, lists, rfl, rfl, rfl, .refl k, shares⟩

theorem Shares.tnQueueIreceive
    (shares : Shares rule queues pools k lists s) (member : queues d)
    (context : k.wrongIntContext = false) (fuel : Nat) :
    (∀ taken s', s.receive d = some (taken, s') →
      Refines rule queues pools k
        (UsbBulk.tnQueueIreceive fuel k (some d) true) (some .noErr)
        (some taken) s') ∧
    (s.receive d = none → Refines rule queues pools k
      (UsbBulk.tnQueueIreceive fuel k (some d) true) (some .timeout) none
      s) := by
  have isDque := (shares.queue d member).isDque
  rw [UsbBulk.tnQueueIreceive, checked_pass (by simp) isDque context]
  obtain ⟨answers, refused⟩ := shares.receiveBody member fuel _
  refine ⟨fun taken s' result => (answers taken s' result).fromInterrupt,
    fun empty => ?_⟩
  rw [refused empty]
  exact ⟨k, _, lists, rfl, rfl, rfl, .refl k, shares⟩

theorem Shares.tnFmemIrelease (shares : Shares rule queues pools k lists s)
    (member : pools f) (context : k.wrongIntContext = false) (fuel : Nat)
    {block : Word} (notNull : block ≠ 0)
    (fresh : ∀ other, pools other → block ∉ s.free other)
    (room : (s.free f).length < s.total f) :
    Refines rule queues pools k
      (UsbBulk.tnFmemIrelease fuel k (some f) block) (some .noErr) none
      (s.release f block) := by
  have isFmp := (shares.pool f member).isFmp
  rw [UsbBulk.tnFmemIrelease, checked_pass (by simpa using notNull) isFmp
    context]
  exact (shares.releaseBody member fuel notNull fresh room).fromInterrupt

end Services

/-! ## Steps around the services -/

/-- The calls of the tasks that do not use the objects. -/
def Image.Aside (image : Image) (_ : Kernel) : Call → Prop
  | .taskSuspend task => task ≠ some image.idleTask
  | .taskResume _ => True
  | _ => False

section Around

variable {image : Image} {queues : DqueId → Prop} {pools : FmpId → Prop}
variable {k k' : Kernel} {lists lists' : Lists} {s : Shared} {t : TaskId}
variable {rule : Rule}

theorem Shares.asleep (shares : Shares rule queues pools k lists s)
    {list : WaitList} (member : t ∈ s.waiting list) :
    (k.tcb t).taskState ≠ .runnable := by
  rw [← shares.waiting] at member
  intro running
  have waiting := (Tcb.home_eq_wait.mp
    ((shares.kept.consistent.tasks.home t _).mp member).2).2.1
  rw [running] at waiting
  cases waiting

theorem MayWait.untimed
    (running : (k.tcb k.tnCurrRunTask).taskState = .runnable)
    (notIdle : k.tnCurrRunTask ≠ image.idleTask) :
    MayWait image.untimedRule k :=
  ⟨running, notIdle, fun _ => .inr rfl⟩

theorem Quiet.shares (quiet : Quiet rule k k' lists lists')
    (waitRc : k'.aspect Tcb.taskWaitRc = k.aspect Tcb.taskWaitRc)
    (shares : Shares rule queues pools k lists s) :
    Shares rule queues pools k' lists' s where
  kept := quiet.kept
  waiting list := (quiet.waits list).trans (shares.waiting list)
  elem t := (quiet.dataElem t).trans (shares.elem t)
  waitRc t := (congrFun waitRc t).trans (shares.waitRc t)
  mem := quiet.same.mem.trans shares.mem
  queue d member :=
    (shares.queue d member).congr (congrFun quiet.same.dque d)
  pool f member := (shares.pool f member).congr (congrFun quiet.same.fmp f)
    fun block _ => congrFun quiet.same.mem block

theorem Shares.aside
    (shares : Shares image.untimedRule queues pools k lists s)
    (atTask : k.AtTask) {action : Action}
    (step : Step image image.Aside k action k') :
    k'.AtTask ∧
      ∃ lists', Shares image.untimedRule queues pools k' lists' s := by
  have inSystem := atTask.inSystem.step step
  cases step with
  | @call _ call _ fuel task running notIdle may run =>
      cases call with
      | taskSuspend task =>
          obtain ⟨lists', quiet⟩ := tnTaskSuspend_quiet shares.kept
            (fun t isTask idle => may (by rw [isTask, idle])) run
          have waitRc := tnTaskSuspend_aspect (g := Tcb.taskWaitRc)
            (fun _ _ _ => rfl) _ _ run
          exact ⟨⟨inSystem, quiet.same.irqDisabled.trans atTask.irqDisabled⟩,
            lists', quiet.shares waitRc shares⟩
      | taskResume task =>
          obtain ⟨lists', quiet⟩ := tnTaskResume_quiet shares.kept run
          have waitRc := tnTaskResume_aspect (g := Tcb.taskWaitRc)
            (fun _ _ _ => rfl) _ _ run
          exact ⟨⟨inSystem, quiet.same.irqDisabled.trans atTask.irqDisabled⟩,
            lists', quiet.shares waitRc shares⟩
      | _ => cases may
  | @interrupt _ call _ fuel irq may run =>
      cases call with
      | taskSuspend | taskResume => cases irq
      | _ => cases may
  | dispatch run =>
      have kept := shares.kept.dispatch run
      obtain ⟨next, _, result⟩ := Option.bind_eq_some_iff.mp run
      cases result
      exact ⟨⟨inSystem, atTask.irqDisabled⟩, lists,
        shares.of_same kept rfl rfl rfl rfl⟩

theorem Kernel.AtTask.call (atTask : k.AtTask) (call : Call)
    {reply : Reply} {fuel : Nat} (run : call.exec 0 fuel k = some (k', reply))
    (same : SameContext k k') : k'.AtTask :=
  ⟨atTask.inSystem.of_mode (Call.exec_mode fuel rfl 0 call _ run),
    same.irqDisabled.trans atTask.irqDisabled⟩

/-- An interrupt routine that keeps its context returns to a task. -/
theorem Kernel.AtTask.interrupt (atTask : k.AtTask)
    (same : k'.mode = k.enterIrq.mode) : k'.leaveIrq.AtTask := by
  obtain ⟨⟨running, counter, enabled⟩, _⟩ := atTask
  refine ⟨⟨(congrArg Mode.tnSystemRunning same).trans running, ?_,
    (congrArg Mode.tnEnableSwitchContext same).trans enabled⟩, rfl⟩
  have entered : k'.tnIntCounter = k.tnIntCounter + 1 :=
    congrArg Mode.tnIntCounter same
  change k'.tnIntCounter - 1 = 0
  omega

theorem SameContext.wrongIntContext (same : SameContext k k')
    (context : k.wrongIntContext = false) : k'.wrongIntContext = false := by
  rw [Kernel.wrongIntContext, same.tnIntCounter, same.irqDisabled,
    same.tnSystemRunning]
  exact context

end Around

/-! ## Creation of the objects -/

namespace Shared

variable (s : Shared)

/-- The objects are as they have been created: nothing is stored, and nobody
waits. -/
structure Unused (queues : DqueId → Prop) (pools : FmpId → Prop) : Prop where
  items : ∀ d, queues d → s.items d = []
  senders : ∀ d, queues d → s.waiting (.dqueSend d) = []
  receivers : ∀ d, queues d → s.waiting (.dqueReceive d) = []
  takers : ∀ f, pools f → s.waiting (.fmp f) = []

end Shared

section Creation

variable {rule : Rule} {queues : DqueId → Prop} {pools : FmpId → Prop}
variable {k k' : Kernel} {lists lists' : Lists} {s : Shared} {d : DqueId}
variable {f : FmpId} {startAddr blockSize : Word} {numBlocks : Int}

theorem Shares.of_kept (kept : Kept rule none k lists) :
    ∃ s, Shares rule (fun _ => False) (fun _ => False) k lists s ∧
      s.Unused (fun _ => False) fun _ => False :=
  ⟨{  items := fun _ => [], capacity := fun _ => 0
      free := fun _ => [], total := fun _ => 0
      waiting := fun list => lists.task (.wait list)
      elem := fun t => (k.tcb t).dataElem
      waitRc := fun t => (k.tcb t).taskWaitRc
      mem := k.mem },
    ⟨kept, fun _ => rfl, fun _ => rfl, fun _ => rfl, rfl,
      fun _ absurd => absurd.elim, fun _ absurd => absurd.elim⟩,
    ⟨fun _ absurd => absurd.elim, fun _ absurd => absurd.elim,
      fun _ absurd => absurd.elim, fun _ absurd => absurd.elim⟩⟩

theorem Shares.mono (shares : Shares rule queues pools k lists s)
    {queues' : DqueId → Prop} {pools' : FmpId → Prop}
    (fewer : ∀ d, queues' d → queues d) (fewer' : ∀ f, pools' f → pools f) :
    Shares rule queues' pools' k lists s :=
  ⟨shares.kept, shares.waiting, shares.elem, shares.waitRc, shares.mem,
    fun d member => shares.queue d (fewer d member),
    fun f member => shares.pool f (fewer' f member)⟩

theorem Kept.stillNobody (before : Kept rule none k lists)
    (after : Kept rule none k' lists') (tcb : k'.tcb = k.tcb)
    {list : WaitList} (nobody : lists.task (.wait list) = []) :
    lists'.task (.wait list) = [] := by
  refine List.eq_nil_iff_forall_not_mem.mpr fun t member => ?_
  have home := (after.consistent.tasks.home t _).mp member
  rw [tcb, ← before.consistent.tasks.home, nobody] at home
  simp at home

theorem tnQueueCreate_frame {dataFifo : Option (Int → Word)}
    {numEntries : Int} (run : tnQueueCreate k (some d) dataFifo numEntries =
      some (k', .ret .noErr)) :
    k'.tcb = k.tcb ∧ k'.fmp = k.fmp ∧ k'.mem = k.mem ∧ SameContext k k' ∧
      (∀ other, other ≠ d → k'.dque other = k.dque other) ∧
      (k'.dque d).numEntries =
        if dataFifo.isNone then 0 else numEntries := by
  unfold tnQueueCreate at run
  dsimp only at run
  split at run
  · cases run
  cases run
  refine ⟨rfl, rfl, rfl, ⟨rfl, rfl, rfl, rfl⟩, fun other different => ?_, ?_⟩
  · exact Function.update_of_ne different _ _
  · simp [Kernel.setDque]

theorem Shares.queueCreate (shares : Shares rule queues pools k lists s)
    (unused : s.Unused queues pools) {cells : Int → Word} {numEntries : Int}
    (run : tnQueueCreate k (some d) (some cells) numEntries =
      some (k', .ret .noErr)) :
    ∃ lists' s', Shares rule (fun q => queues q ∨ q = d) pools k' lists' s' ∧
      s'.Unused (fun q => queues q ∨ q = d) pools ∧
      s'.capacity = Function.update s.capacity d (numEntries - 1).toNat ∧
      s'.free = s.free ∧ s'.total = s.total ∧ s'.mem = s.mem ∧
      SameContext k k' := by
  obtain ⟨lists', after⟩ := tnQueueCreate_keeps shares.kept _ _ _ _ run
  obtain ⟨absent, tcb, isDque, shape, items⟩ := tnQueueCreate_spec run
  obtain ⟨_, fmp, mem, context, others, entries⟩ := tnQueueCreate_frame run
  have fresh : ∀ q, queues q → q ≠ d := by
    rintro q member rfl
    exact absurd (absent.symm.trans (shares.queue q member).isDque)
      (by decide)
  have nobody : ∀ list, s.waiting list = [] →
      lists'.task (.wait list) = [] := fun list empty =>
    shares.kept.stillNobody after tcb ((shares.waiting list).trans empty)
  refine ⟨lists', { s with
    items := Function.update s.items d []
    capacity := Function.update s.capacity d (numEntries - 1).toNat
    waiting := fun list => lists'.task (.wait list) }, ?_, ?_, rfl, rfl, rfl,
    rfl, context⟩
  · refine ⟨after, fun _ => rfl, fun t => ?_, fun t => ?_, ?_, ?_, ?_⟩
    · rw [tcb]
      exact shares.elem t
    · rw [tcb]
      exact shares.waitRc t
    · exact mem.trans shares.mem
    · rintro q (member | rfl)
      · have different := fresh q member
        simpa [different] using
          (shares.queue q member).congr (others q different)
      · refine ⟨isDque, shape, ?_, ?_⟩ <;> simp only [Function.update_self]
        · exact items
        · rw [Dque.capacity, entries]
          rfl
    · exact fun f member => (shares.pool f member).congr (congrFun fmp f)
        fun block _ => congrFun mem block
  · refine ⟨?_, ?_, ?_, fun f member => nobody _ (unused.takers f member)⟩
    · rintro q (member | rfl)
      · exact (Function.update_of_ne (fresh q member) _ _).trans
          (unused.items q member)
      · exact Function.update_self _ _ _
    · rintro q (member | rfl)
      · exact nobody _ (unused.senders q member)
      · exact shares.kept.nobody _ after tcb absent
    · rintro q (member | rfl)
      · exact nobody _ (unused.receivers q member)
      · exact shares.kept.nobody _ after tcb absent

/-- A creation of a pool writes into its blocks and nowhere else. -/
theorem tnFmemCreate_frame {fuel : Nat}
    (run : tnFmemCreate fuel k (some f) startAddr blockSize numBlocks =
      some (k', .ret .noErr)) (placed : (k'.fmp f).Placed) :
    k'.dque = k.dque ∧ SameContext k k' ∧
      (∀ other, other ≠ f → k'.fmp other = k.fmp other) ∧
      (k'.fmp f).startAddr = alignUp startAddr ∧
      (k'.fmp f).blockSize = alignUp blockSize ∧
      2 ≤ (k'.fmp f).numBlocks ∧ ∀ address, address ∉ k'.poolBlocks f →
          k'.mem address = k.mem address := by
  obtain ⟨-, -, -, -, count, -, rfl⟩ := tnFmemCreate_made run
  refine ⟨rfl, ⟨rfl, rfl, rfl, rfl⟩, fun other different => ?_, ?_, ?_, ?_,
    ?_⟩
  · exact Function.update_of_ne different _ _
  · simp [Kernel.setFmp, Kernel.setMem]
  · simp [Kernel.setFmp, Kernel.setMem]
  · simp only [Kernel.setFmp, Kernel.setMem, Function.update_self]
    omega
  · obtain ⟨bounded, positive, notNull, _⟩ := placed
    simp only [Kernel.setFmp, Kernel.setMem, Function.update_self,
      Int.toNat_natCast] at bounded positive notNull
    intro address outside
    simp only [Kernel.poolBlocks, Kernel.setFmp, Kernel.setMem,
      Function.update_self, Int.toNat_natCast] at outside
    exact (chainBlocks_spec (count + 1) k.mem (nodup_blocks bounded positive)
      fun member => ne_zero_of_mem_blocks bounded positive notNull member
        rfl).2 address outside

theorem Shares.fmemCreate (shares : Shares rule queues pools k lists s)
    (unused : s.Unused queues pools) {fuel : Nat}
    (fits : Fits startAddr blockSize numBlocks)
    (run : tnFmemCreate fuel k (some f) startAddr blockSize numBlocks =
      some (k', .ret .noErr))
    (apart : ∀ other, pools other → ∀ block ∈ s.free other,
      block ∉ k'.poolBlocks f) :
    ∃ lists' s', Shares rule queues (fun p => pools p ∨ p = f) k' lists' s' ∧
      s'.Unused queues (fun p => pools p ∨ p = f) ∧
      s'.free = Function.update s.free f (k'.poolBlocks f) ∧
      s'.total = Function.update s.total f (k'.fmp f).numBlocks.toNat ∧
      s'.capacity = s.capacity ∧ (k'.fmp f).Placed ∧ SameContext k k' := by
  obtain ⟨lists', after⟩ :=
    tnFmemCreate_keeps shares.kept fuel startAddr blockSize numBlocks _ _ run
  obtain ⟨absent, tcb, isFmp, placed, holds⟩ := tnFmemCreate_spec fits run
  obtain ⟨dque, context, others, _, _, _, frame⟩ :=
    tnFmemCreate_frame run placed
  have fresh : ∀ p, pools p → p ≠ f := by
    rintro p member rfl
    exact absurd (absent.symm.trans (shares.pool p member).isFmp) (by decide)
  have nobody : ∀ list, s.waiting list = [] →
      lists'.task (.wait list) = [] := fun list empty =>
    shares.kept.stillNobody after tcb ((shares.waiting list).trans empty)
  refine ⟨lists', { s with
    free := Function.update s.free f (k'.poolBlocks f)
    total := Function.update s.total f (k'.fmp f).numBlocks.toNat
    waiting := fun list => lists'.task (.wait list)
    mem := k'.mem }, ?_, ?_, rfl, rfl, rfl, placed, context⟩
  · refine ⟨after, fun _ => rfl, fun t => ?_, fun t => ?_, rfl, ?_, ?_⟩
    · rw [tcb]
      exact shares.elem t
    · rw [tcb]
      exact shares.waitRc t
    · exact fun d member => (shares.queue d member).congr (congrFun dque d)
    · rintro p (member | rfl)
      · have different := fresh p member
        have same := (shares.pool p member).congr (others p different)
          fun block inside => (frame block (apart p member block inside))
        simpa [different] using same
      · refine ⟨isFmp, ?_, ?_⟩ <;> simp only [Function.update_self]
        · exact holds
        · exact (Int.toNat_of_nonneg placed.nonneg).symm
  · refine ⟨unused.items, ?_, ?_, ?_⟩
    · exact fun d member => nobody _ (unused.senders d member)
    · exact fun d member => nobody _ (unused.receivers d member)
    · rintro p (member | rfl)
      · exact nobody _ (unused.takers p member)
      · exact shares.kept.nobody _ after tcb absent

end Creation

end UsbBulk
