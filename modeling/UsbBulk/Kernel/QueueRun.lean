import UsbBulk.Kernel.QueueOrder

/-!
# A data queue delivers every element once and in order

What the services do to the channel of a data queue, put together over whole
runs in which tasks and interrupts use the queue without timeouts.
-/

namespace UsbBulk

/-- The calls of a run on one queue: sending and receiving in every way, without
timeouts, and suspending and resuming the tasks other than the idle task. -/
def Image.OnQueue (image : Image) (d : DqueId) (_ : Kernel) : Call → Prop
  | .queueSend dque _ timeout => dque = some d ∧ timeout = tnWaitInfinite
  | .queueReceive dque _ timeout => dque = some d ∧ timeout = tnWaitInfinite
  | .queueSendPolling dque _ | .queueIsendPolling dque _ => dque = some d
  | .queueReceivePolling dque _ | .queueIreceive dque _ => dque = some d
  | .taskSuspend task => task ≠ some image.idleTask
  | .taskResume _ => True
  | _ => False

section Calls

variable {image : Image} {d : DqueId} {k k' : Kernel} {lists : Lists}

theorem Call.exec_transfers (sound : QueueSound image.untimedRule d k lists)
    {call : Call} (may : image.OnQueue d k call)
    (running : call.fromInterrupt = false →
      (k.tcb k.tnCurrRunTask).taskState = .runnable ∧
        k.tnCurrRunTask ≠ image.idleTask) (fuel : Nat) :
    Transfers image.untimedRule d call.traffic k lists
      (call.exec image.tnTaskExit fuel k) := by
  cases call with
  | queueSend dque dataPtr timeout =>
      obtain ⟨this, rfl⟩ := may
      refine sound.checked this (sound.sendBody fuel dataPtr ?_)
      exact sound.sendSleep (running rfl).1 (running rfl).2 (.inr rfl)
  | queueSendPolling dque dataPtr =>
      exact sound.checked may (sound.sendBody fuel dataPtr
        fun _ _ => sound.refuse)
  | queueIsendPolling dque dataPtr =>
      exact sound.checked may (sound.sendBody fuel dataPtr
        fun _ _ => sound.refuse).fromInterrupt
  | queueReceive dque dataPtr timeout =>
      obtain ⟨this, rfl⟩ := may
      refine sound.checked this (sound.receiveBody fuel ?_)
      exact sound.receiveSleep (running rfl).1 (running rfl).2 (.inr rfl)
  | queueReceivePolling dque dataPtr =>
      exact sound.checked may (sound.receiveBody fuel
        fun _ _ => sound.refuse)
  | queueIreceive dque dataPtr =>
      exact sound.checked may (sound.receiveBody fuel
        fun _ _ => sound.refuse).fromInterrupt
  | taskSuspend task =>
      intro k' reply run
      obtain ⟨lists', quiet⟩ := tnTaskSuspend_quiet sound.kept
        (fun t isTask idle => may (by rw [isTask, idle])) run
      exact ⟨lists', quiet.transferred sound⟩
  | taskResume task =>
      intro k' reply run
      obtain ⟨lists', quiet⟩ := tnTaskResume_quiet sound.kept run
      exact ⟨lists', quiet.transferred sound⟩
  | _ => cases may

end Calls

/-! ## Steps -/

/-- The return code of a step; a switch has none. -/
def Action.rc : Action → Option Terr
  | .call _ reply | .interrupt _ reply => reply.rc
  | .dispatch => none

def Action.accepted : Action → List Word
  | .call service reply | .interrupt service reply =>
      UsbBulk.accepted reply service.traffic
  | .dispatch => []

def Action.delivered (d : DqueId) (k k' : Kernel) : Action → List Word
  | .call service reply | .interrupt service reply =>
      UsbBulk.delivered d k k' reply service.traffic
  | .dispatch => []

/-- What one step does to the queue. -/
structure Stepped (rule : Rule) (d : DqueId) (action : Action)
    (k k' : Kernel) (lists lists' : Lists) : Prop where
  sound : QueueSound rule d k' lists'
  capacity : (k'.dque d).capacity = (k.dque d).capacity
  transfer : Channel.Transfer (k.dque d).capacity (k.channel lists d)
    action.accepted (action.delivered d k k') (k'.channel lists' d)
  refused : action.rc = some .timeout →
    k'.dque d = k.dque d ∧ k'.channel lists' d = k.channel lists d

section Steps

variable {image : Image} {d : DqueId} {k k' : Kernel} {lists : Lists}

theorem QueueSound.of_same {rule : Rule}
    (sound : QueueSound rule d k lists) (kept : Kept rule none k' lists)
    (tcb : k'.tcb = k.tcb) (dque : k'.dque = k.dque) :
    QueueSound rule d k' lists where
  kept := kept
  isDque := by
    rw [Kernel.isDque, dque]
    exact sound.isDque
  shape := dque ▸ sound.shape
  balanced := by
    simpa [Kernel.channel, tcb, dque] using sound.balanced

theorem QueueSound.step (sound : QueueSound image.untimedRule d k lists)
    {action : Action} (step : Step image (image.OnQueue d) k action k') :
    ∃ lists', Stepped image.untimedRule d action k k' lists lists' := by
  cases step with
  | call fuel task running notIdle may run =>
      obtain ⟨lists', moved⟩ := Call.exec_transfers sound may
        (fun _ => ⟨running, notIdle⟩) fuel _ _ run
      exact ⟨lists', moved.sound sound, moved.same.capacity, moved.transfer,
        moved.refused⟩
  | interrupt fuel irq may run =>
      have entered := sound.of_same sound.kept.enterIrq rfl rfl
      obtain ⟨lists', moved⟩ := Call.exec_transfers entered may
        (fun task => absurd (irq.symm.trans task) (by decide)) fuel _ _ run
      have after := moved.sound entered
      exact ⟨lists', after.of_same after.kept.leaveIrq rfl rfl,
        moved.same.capacity, moved.transfer, moved.refused⟩
  | dispatch run =>
      have kept := sound.kept.dispatch run
      obtain ⟨next, _, result⟩ := Option.bind_eq_some_iff.mp run
      cases result
      exact ⟨lists, sound.of_same kept rfl rfl, rfl, .idle, fun _ => ⟨rfl, rfl⟩⟩

/-- A list of an object that has just been created has no waiters. -/
theorem Kept.nobody {rule : Rule} {lists' : Lists} (list : WaitList)
    (before : Kept rule none k lists) (after : Kept rule none k' lists')
    (tcb : k'.tcb = k.tcb) (absent : k.hasList list = false) :
    lists'.task (.wait list) = [] := by
  refine List.eq_nil_iff_forall_not_mem.mpr fun t member => ?_
  have home := (after.consistent.tasks.home t _).mp member
  rw [tcb, ← before.consistent.tasks.home] at home
  have has := before.consistent.waiters list (List.ne_nil_of_mem home)
  exact absurd (absent.symm.trans has) (by decide)

/-- A successful creation is about a queue that did not exist. -/
theorem tnQueueCreate_spec {dataFifo : Option (Int → Word)}
    {numEntries : Int} (run : tnQueueCreate k (some d) dataFifo numEntries =
      some (k', .ret .noErr)) :
    k.isDque d = false ∧ k'.tcb = k.tcb ∧ k'.isDque d = true ∧
      (k'.dque d).Valid ∧ (k'.dque d).items = [] := by
  unfold tnQueueCreate at run
  dsimp only at run
  split at run
  · cases run
  next params =>
  cases run
  have fresh : k.isDque d = false ∧ ¬ numEntries < 0 := by
    simpa [and_comm] using params
  refine ⟨fresh.1, rfl, decide_eq_true (by simp [Kernel.setDque]), ?_, ?_⟩
  · simp only [Kernel.setDque, Function.update_self]
    cases dataFifo with
    | none => exact ⟨Int.le_refl 0, fun positive => absurd positive (by simp),
        fun positive => absurd positive (by simp)⟩
    | some cells => exact ⟨by simpa using fresh.2,
        fun positive => .initial positive, fun _ => rfl⟩
  · simp only [Kernel.setDque, Function.update_self]
    unfold Dque.items
    dsimp only
    by_cases empty : (if dataFifo.isNone then 0 else numEntries) ≤ 0
    · rw [if_pos empty]
    · rw [if_neg empty]
      exact ((RingBuffer.Bounded.initial (Int.not_le.mp empty)).empty_iff
        _).mp rfl

theorem QueueSound.of_create {rule : Rule} (kept : Kept rule none k lists)
    {dataFifo : Option (Int → Word)} {numEntries : Int}
    (run : tnQueueCreate k (some d) dataFifo numEntries =
      some (k', .ret .noErr)) :
    ∃ lists', QueueSound rule d k' lists' ∧
      (k'.channel lists' d).pending = [] := by
  obtain ⟨lists', after⟩ := tnQueueCreate_keeps kept dataFifo numEntries _ _
    run
  obtain ⟨absent, tcb, isDque, shape, items⟩ := tnQueueCreate_spec run
  have noSender := kept.nobody (.dqueSend d) after tcb absent
  have noReceiver := kept.nobody (.dqueReceive d) after tcb absent
  have start : k'.channel lists' d = ⟨[], [], []⟩ := by
    simp [Kernel.channel, items, noSender, noReceiver]
  refine ⟨lists', ⟨after, isDque, shape, ?_⟩, by simp [start, Channel.pending]⟩
  rw [start]
  exact ⟨Nat.zero_le _, by simp, by simp⟩

end Steps

/-! ## Runs -/

/-- A run that starts with the creation of the queue, in any state that an
untimed run reaches, with all elements accepted and delivered so far. -/
inductive QueueRun (image : Image) (d : DqueId) :
    Kernel → List Word → List Word → Prop where
  | create {k k' : Kernel} {dataFifo : Option (Int → Word)}
      {numEntries : Int} (reachable : Reachable image image.Untimed k)
      (step : Step image image.Untimed k
        (.call (.queueCreate (some d) dataFifo numEntries) (.ret .noErr)) k') :
      QueueRun image d k' [] []
  | next {k k' : Kernel} {action : Action} {accepted delivered : List Word}
      (before : QueueRun image d k accepted delivered)
      (step : Step image (image.OnQueue d) k action k') :
      QueueRun image d k' (accepted ++ action.accepted)
        (delivered ++ action.delivered d k k')

/-- The tasks linked in a wait list, in order. -/
def Kernel.Waiting (k : Kernel) (list : WaitList) (tasks : List TaskId) :
    Prop :=
  Links.Ring k.taskLinks (.head (.wait list)) (tasks.map .entry)

section Runs

variable {image : Image} {d : DqueId} {k : Kernel}
variable {accepted delivered : List Word}

theorem Kept.waiting {rule : Rule} {lists : Lists}
    (kept : Kept rule none k lists) (list : WaitList)
    (has : k.hasList list = true) :
    k.Waiting list (lists.task (.wait list)) :=
  kept.consistent.scheduled.represents.ring (.wait list)
    (kept.consistent.live list has)

/-- A run of the queue is a run of the channel. -/
theorem QueueRun.channel (run : QueueRun image d k accepted delivered) :
    ∃ lists start, QueueSound image.untimedRule d k lists ∧
      Channel.Balanced (k.dque d).capacity start ∧ start.pending = [] ∧
      Channel.Run (k.dque d).capacity start accepted delivered
        (k.channel lists d) := by
  induction run with
  | create reachable step =>
      obtain ⟨lists, kept⟩ := reachable.kept
      cases step with
      | call fuel task running notIdle may run =>
          obtain ⟨lists', sound, empty⟩ := QueueSound.of_create kept run
          exact ⟨lists', _, sound, sound.balanced, empty, .start⟩
  | next _ step ih =>
      obtain ⟨lists, start, sound, balanced, empty, run⟩ := ih
      obtain ⟨lists', stepped⟩ := sound.step step
      rw [← stepped.capacity] at balanced run
      refine ⟨lists', start, stepped.sound, balanced, empty, ?_⟩
      exact run.next (stepped.capacity ▸ stepped.transfer)

/-- Every element is delivered once and in order, nobody waits without a reason,
and a refused call leaves the queue unchanged. -/
theorem queue_inOrder (run : QueueRun image d k accepted delivered) :
    ∃ senders receivers,
      k.Waiting (.dqueSend d) senders ∧
      k.Waiting (.dqueReceive d) receivers ∧
      accepted = delivered ++ ((k.dque d).items ++
        senders.map fun t => (k.tcb t).dataElem) ∧
      (receivers ≠ [] → (k.dque d).items = [] ∧ senders = []) ∧
      (senders ≠ [] → (k.dque d).items.length = (k.dque d).capacity) ∧
      ∀ action k', Step image (image.OnQueue d) k action k' →
        action.rc = some .timeout →
          k'.dque d = k.dque d ∧ k'.Waiting (.dqueSend d) senders ∧
          k'.Waiting (.dqueReceive d) receivers ∧
          ∀ t ∈ senders, (k'.tcb t).dataElem = (k.tcb t).dataElem := by
  obtain ⟨lists, start, sound, balanced, empty, run⟩ := run.channel
  obtain ⟨after, order⟩ := run.order balanced empty
  refine ⟨_, _, sound.kept.waiting (.dqueSend d) sound.isDque,
    sound.kept.waiting (.dqueReceive d) sound.isDque, ?_, ?_, ?_, ?_⟩
  · simpa [Channel.pending, Kernel.channel, Function.comp_def] using order
  · simpa [Kernel.channel] using after.hungry
  · simpa [Kernel.channel] using after.full
  · intro action k' step refused
    obtain ⟨lists', stepped⟩ := sound.step step
    obtain ⟨dque, channel⟩ := stepped.refused refused
    have there := stepped.sound.kept.waiting (.dqueSend d)
      stepped.sound.isDque
    have there' := stepped.sound.kept.waiting (.dqueReceive d)
      stepped.sound.isDque
    have senders := congrArg Channel.senders channel
    have tasks := congrArg (List.map Prod.fst) senders
    simp only [Kernel.channel, List.map_map, Function.comp_def,
      List.map_id'] at senders tasks
    rw [tasks] at there senders
    rw [show lists'.task _ = _ from congrArg Channel.receivers channel]
      at there'
    refine ⟨dque, there, there', fun t member => ?_⟩
    simpa using List.map_inj_left.mp senders t member

/-- A queue with room for two elements is created, two elements are sent and
one is received. -/
theorem queue_inOrder_sample : ∃ k senders receivers,
    QueueRun .sample 0 k [5, 6] [5] ∧ k.Waiting (.dqueSend 0) senders ∧
      k.Waiting (.dqueReceive 0) receivers ∧
      [5, 6] = [5] ++ ((k.dque 0).items ++
        senders.map fun t => (k.tcb t).dataElem) := by
  have created : QueueRun .sample 0 _ [] [] :=
    .create (.start Kernel.fresh_zeroed tnStartSystem_started)
      (.answer (.queueCreate (some 0) (some fun _ => 0) 3) _ 9 rfl rfl rfl
        (by decide) ⟨rfl, by decide, by simp [Call.waits]⟩)
  have sent := created.next (.answer (.queueSend (some 0) 5 _) (.ret .noErr)
    9 rfl rfl rfl (by decide) ⟨rfl, rfl⟩)
  have sentMore := sent.next (.answer (.queueSend (some 0) 6 _)
    (.ret .noErr) 9 rfl rfl rfl (by decide) ⟨rfl, rfl⟩)
  have received := sentMore.next (.answer (.queueReceive (some 0) true _)
    ⟨some .noErr, some 5, false⟩ 9 rfl rfl rfl (by decide) ⟨rfl, rfl⟩)
  obtain ⟨senders, receivers, sending, receiving, order, _⟩ :=
    queue_inOrder received
  exact ⟨_, senders, receivers, received, sending, receiving, order⟩

end Runs

end UsbBulk
