import UsbBulk.BoundedChannel
import UsbBulk.Kernel.Effects

/-!
# What a data queue delivers

A data queue with its two wait lists is a bounded channel: the array holds the
stored values, and a waiting sender keeps its value in its control block.  Every
service on the queue is one transition of the channel.
-/

namespace UsbBulk

/-! ## The channel of a data queue -/

/-- The array, the waiting senders with their `data_elem`, and the waiting
receivers. -/
def Kernel.channel (k : Kernel) (lists : Lists) (d : DqueId) :
    Channel TaskId Word where
  stored := (k.dque d).items
  senders := (lists.task (.wait (.dqueSend d))).map fun t =>
    (t, (k.tcb t).dataElem)
  receivers := lists.task (.wait (.dqueReceive d))

/-- What a call means for a data queue. -/
inductive Traffic where
  | send (value : Word)
  | receive
  | other

def Call.traffic : Call → Traffic
  | queueSend _ dataPtr _ => .send dataPtr
  | queueSendPolling _ dataPtr => .send dataPtr
  | queueIsendPolling _ dataPtr => .send dataPtr
  | queueReceive .. | queueReceivePolling .. | queueIreceive .. => .receive
  | _ => .other

/-- A value is accepted when the call succeeds, and when it blocks. -/
def accepted (reply : Reply) : Traffic → List Word
  | .send value =>
      if reply.rc = some .noErr ∨ reply.rc = none then [value] else []
  | .receive | .other => []

/-- What a successful call hands to a receiver: a sending call gives the first
waiting receiver its `data_elem`, a receiving call answers with the value. -/
def delivered (d : DqueId) (k k' : Kernel) (reply : Reply) :
    Traffic → List Word
  | .send _ =>
      if reply.rc = some .noErr then
        (k.firstWaiter (.dqueReceive d)).toList.map fun t =>
          (k'.tcb t).dataElem
      else []
  | .receive => if reply.rc = some .noErr then reply.value.toList else []
  | .other => []

/-- The queue exists and is in order. -/
structure QueueSound (rule : Rule) (d : DqueId) (k : Kernel) (lists : Lists) :
    Prop where
  kept : Kept rule none k lists
  isDque : k.isDque d = true
  shape : (k.dque d).Valid
  balanced : Channel.Balanced (k.dque d).capacity (k.channel lists d)

/-- A call has done one transition of the channel, and none if it has been
refused. -/
structure Transferred (rule : Rule) (d : DqueId) (traffic : Traffic)
    (reply : Reply) (k k' : Kernel) (lists lists' : Lists) : Prop where
  kept : Kept rule none k' lists'
  shape : (k'.dque d).Valid
  same : Dque.SameShape (k.dque d) (k'.dque d)
  transfer : Channel.Transfer (k.dque d).capacity (k.channel lists d)
    (accepted reply traffic) (delivered d k k' reply traffic)
    (k'.channel lists' d)
  refused : reply.rc = some .timeout →
    k'.dque d = k.dque d ∧ k'.channel lists' d = k.channel lists d

section Queue

variable {rule : Rule} {d : DqueId} {k k' : Kernel} {lists lists' : Lists}
variable {traffic : Traffic} {reply : Reply} {t : TaskId}
variable {rest : List TaskId}

theorem Transferred.sound (sound : QueueSound rule d k lists)
    (transferred : Transferred rule d traffic reply k k' lists lists') :
    QueueSound rule d k' lists' where
  kept := transferred.kept
  isDque := by
    have valid := sound.isDque
    simp only [Kernel.isDque, decide_eq_true_eq] at valid ⊢
    rw [transferred.same.idDque, valid]
  shape := transferred.shape
  balanced := by
    rw [transferred.same.capacity]
    exact transferred.transfer.balanced sound.balanced

theorem QueueSound.idle (sound : QueueSound rule d k lists)
    (kept : Kept rule none k' lists') (dque : k'.dque d = k.dque d)
    (channel : k'.channel lists' d = k.channel lists d)
    (none : accepted reply traffic = [])
    (none' : delivered d k k' reply traffic = []) :
    Transferred rule d traffic reply k k' lists lists' where
  kept := kept
  shape := dque ▸ sound.shape
  same := by
    rw [dque]
    exact ⟨rfl, rfl⟩
  transfer := by
    rw [none, none', channel]
    exact .idle
  refused _ := ⟨dque, channel⟩

theorem Changed.other_elem {list : WaitList} {members : List TaskId}
    {new : Tcb} (changed : Changed rule list members t new k k' lists lists')
    {u : TaskId} (other : u ≠ t) :
    (k'.tcb u).dataElem = (k.tcb u).dataElem := by
  rw [changed.tcb, Function.update_of_ne other]

theorem Changed.own_elem {list : WaitList} {members : List TaskId}
    {new : Tcb} (changed : Changed rule list members t new k k' lists lists') :
    (k'.tcb t).dataElem = new.dataElem := by
  rw [changed.tcb, Function.update_self]

/-- The senders of a queue do not notice what happens to a task that is not one
of them. -/
theorem senders_congr {members : List TaskId} (absent : t ∉ members)
    (same : ∀ u, u ≠ t → (k'.tcb u).dataElem = (k.tcb u).dataElem) :
    (members.map fun u => (u, (k'.tcb u).dataElem)) =
      members.map fun u => (u, (k.tcb u).dataElem) := by
  refine List.map_congr_left fun u member => ?_
  rw [same u fun equal => absent (equal ▸ member)]

theorem Kept.apart (kept : Kept rule none k lists) {list other : WaitList}
    (member : t ∈ lists.task (.wait list)) (different : other ≠ list) :
    t ∉ lists.task (.wait other) := fun inside => different <| by
  simpa using kept.consistent.scheduled.represents.disjoint inside member

theorem Kept.running_absent (kept : Kept rule none k lists)
    (running : (k.tcb t).taskState = .runnable) (list : WaitList) :
    t ∉ lists.task (.wait list) := by
  intro member
  have waiting := (Tcb.home_eq_wait.mp
    ((kept.consistent.tasks.home _ _).mp member).2).2.1
  rw [running] at waiting
  cases waiting

theorem QueueSound.hand (sound : QueueSound rule d k lists) {dataPtr : Word}
    (waiting : lists.task (.wait (.dqueReceive d)) = t :: rest)
    (changed : Changed rule (.dqueReceive d) rest t
      ((k.tcb t).given dataPtr).awake k k' lists lists') (switch : Bool) :
    Transferred rule d (.send dataPtr) (.retSwitch .noErr switch) k k' lists
      lists' := by
  have member : t ∈ lists.task (.wait (.dqueReceive d)) := by simp [waiting]
  have before : k.channel lists d = ⟨(k.dque d).items,
      (lists.task (.wait (.dqueSend d))).map fun u =>
        (u, (k.tcb u).dataElem), t :: rest⟩ := by
    simp [Kernel.channel, waiting]
  have after : k'.channel lists' d = ⟨(k.dque d).items,
      (lists.task (.wait (.dqueSend d))).map fun u =>
        (u, (k.tcb u).dataElem), rest⟩ := by
    simp only [Kernel.channel, changed.same.dque, changed.members,
      changed.others (.dqueSend d) (by simp)]
    rw [senders_congr (sound.kept.apart member (by simp))
      fun _ => changed.other_elem]
  have receiver := sound.kept.firstWaiter (.dqueReceive d) sound.isDque
  have given : delivered d k k' (.retSwitch .noErr switch) (.send dataPtr) =
      [dataPtr] := by
    simp [delivered, Reply.retSwitch, receiver, waiting,
      changed.own_elem, Tcb.awake, Tcb.given]
  refine ⟨changed.kept, changed.same.dque ▸ sound.shape,
    changed.same.dque ▸ ⟨rfl, rfl⟩, ?_, by simp [Reply.retSwitch]⟩
  rw [given, before, after]
  exact .hand

theorem QueueSound.store (sound : QueueSound rule d k lists) {dataPtr : Word}
    (nobody : lists.task (.wait (.dqueReceive d)) = [])
    (room : (k.dque d).items.length ≠ (k.dque d).capacity) :
    Transferred rule d (.send dataPtr) (.ret .noErr) k
      (k.setDque d (dqueFifoWrite (k.dque d) dataPtr).1) lists lists := by
  obtain ⟨_, items, shape, same⟩ := Dque.write_room sound.shape dataPtr room
  have there : (k.setDque d (dqueFifoWrite (k.dque d) dataPtr).1).dque d =
      (dqueFifoWrite (k.dque d) dataPtr).1 := by
    simp [Kernel.setDque]
  have before : k.channel lists d = ⟨(k.dque d).items,
      (lists.task (.wait (.dqueSend d))).map fun u =>
        (u, (k.tcb u).dataElem), []⟩ := by
    simp [Kernel.channel, nobody]
  have receiver := sound.kept.firstWaiter (.dqueReceive d) sound.isDque
  have given : delivered d k
      (k.setDque d (dqueFifoWrite (k.dque d) dataPtr).1) (.ret .noErr)
      (.send dataPtr) = [] := by
    simp [delivered, Reply.ret, receiver, nobody]
  refine ⟨sound.kept.setDque (dqueFifoWrite_idDque _ _),
    by rw [there]; exact shape, by rw [there]; exact same, ?_,
    by simp [Reply.ret]⟩
  rw [given, before]
  simp only [Kernel.channel, there, items, nobody]
  exact .store (by have := sound.shape.length_items_le; omega)

theorem QueueSound.waitToSend (sound : QueueSound rule d k lists)
    {dataPtr : Word} {timeout : Word}
    (running : (k.tcb t).taskState = .runnable)
    (nobody : lists.task (.wait (.dqueReceive d)) = [])
    (full : (k.dque d).items.length = (k.dque d).capacity)
    (changed : Changed rule (.dqueSend d)
      (lists.task (.wait (.dqueSend d)) ++ [t]) t
      (((k.tcb t).given dataPtr).asleep (some (.dqueSend d)) .dqueWsend
        timeout) k k' lists lists') :
    Transferred rule d (.send dataPtr) .block k k' lists lists' := by
  have absent := sound.kept.running_absent running (.dqueSend d)
  have before : k.channel lists d = ⟨(k.dque d).items,
      (lists.task (.wait (.dqueSend d))).map fun u =>
        (u, (k.tcb u).dataElem), []⟩ := by
    simp [Kernel.channel, nobody]
  have after : k'.channel lists' d = ⟨(k.dque d).items,
      ((lists.task (.wait (.dqueSend d))).map fun u =>
        (u, (k.tcb u).dataElem)) ++ [(t, dataPtr)], []⟩ := by
    simp only [Kernel.channel, changed.same.dque, changed.members,
      changed.others (.dqueReceive d) (by simp), nobody, List.map_append]
    rw [senders_congr absent fun _ => changed.other_elem]
    simp [changed.own_elem, Tcb.asleep, Tcb.given]
  refine ⟨changed.kept, changed.same.dque ▸ sound.shape,
    changed.same.dque ▸ ⟨rfl, rfl⟩, ?_, by simp [Reply.block]⟩
  rw [before, after]
  simp only [accepted, delivered, Reply.block, reduceCtorEq, or_true, if_true,
    if_false]
  exact .waitToSend full

theorem QueueSound.take (sound : QueueSound rule d k lists)
    (nobody : lists.task (.wait (.dqueSend d)) = []) {first : Word}
    {left : List Word} (stored : (k.dque d).items = first :: left) :
    Transferred rule d .receive ⟨some .noErr, some first, false⟩ k
      (k.setDque d (dqueFifoRead (k.dque d)).1) lists lists := by
  obtain ⟨_, items, shape, same⟩ := Dque.read_cons sound.shape stored
  have there : (k.setDque d (dqueFifoRead (k.dque d)).1).dque d =
      (dqueFifoRead (k.dque d)).1 := by
    simp [Kernel.setDque]
  refine ⟨sound.kept.setDque (dqueFifoRead_idDque _),
    by rw [there]; exact shape, by rw [there]; exact same, ?_, by simp⟩
  simp only [Kernel.channel, there, items, stored, nobody, accepted,
    delivered, List.map_nil, Option.toList_some, if_true]
  exact .take

/-- The value of the first waiting sender, whose wait has ended, leaves the
senders. -/
theorem QueueSound.senders_rest (sound : QueueSound rule d k lists)
    (waiting : lists.task (.wait (.dqueSend d)) = t :: rest)
    {k₁ : Kernel} (sameTcb : k₁.tcb = k.tcb)
    (changed : Changed rule (.dqueSend d) rest t (k.tcb t).awake k₁ k' lists
      lists') :
    (rest.map fun u => (u, (k'.tcb u).dataElem)) =
      rest.map fun u => (u, (k.tcb u).dataElem) := by
  have nodup := sound.kept.consistent.scheduled.represents.nodup
    (.wait (.dqueSend d))
  rw [waiting] at nodup
  refine senders_congr (List.nodup_cons.mp nodup).1 fun u other => ?_
  rw [changed.other_elem other, sameTcb]

/-- A stored value is taken, and the first waiting sender's value takes its
place. -/
theorem QueueSound.refill (sound : QueueSound rule d k lists)
    (waiting : lists.task (.wait (.dqueSend d)) = t :: rest) {first : Word}
    {left : List Word} (stored : (k.dque d).items = first :: left)
    (changed : Changed rule (.dqueSend d) rest t (k.tcb t).awake
      (k.setDque d (dqueFifoWrite (dqueFifoRead (k.dque d)).1
        (k.tcb t).dataElem).1) k' lists lists') (switch : Bool) :
    Transferred rule d .receive ⟨some .noErr, some first, switch⟩ k k' lists
      lists' := by
  obtain ⟨_, items, shape, same⟩ := Dque.read_cons sound.shape stored
  have bound := sound.shape.length_items_le
  rw [stored, List.length_cons] at bound
  have room : (dqueFifoRead (k.dque d)).1.items.length ≠
      (dqueFifoRead (k.dque d)).1.capacity := by
    rw [items, same.capacity]
    omega
  obtain ⟨_, items', shape', same'⟩ :=
    Dque.write_room shape (k.tcb t).dataElem room
  have there : k'.dque d = (dqueFifoWrite (dqueFifoRead (k.dque d)).1
      (k.tcb t).dataElem).1 := by
    rw [changed.same.dque]
    simp [Kernel.setDque]
  have others := sound.senders_rest waiting
    (show (k.setDque d _).tcb = k.tcb from rfl) changed
  refine ⟨changed.kept, there ▸ shape', there ▸ ⟨?_, ?_⟩, ?_, by simp⟩
  · exact same'.numEntries.trans same.numEntries
  · exact same'.idDque.trans same.idDque
  · simp only [Kernel.channel, there, items', items, stored, waiting,
      changed.members, changed.others (.dqueReceive d) (by simp), others,
      accepted, delivered, List.map_cons, Option.toList_some, if_true]
    exact .refill

/-- The value goes from the first waiting sender to the receiver. -/
theorem QueueSound.direct (sound : QueueSound rule d k lists)
    (waiting : lists.task (.wait (.dqueSend d)) = t :: rest)
    (nothing : (k.dque d).items = [])
    (changed : Changed rule (.dqueSend d) rest t (k.tcb t).awake k k' lists
      lists') (switch : Bool) :
    Transferred rule d .receive (.retValue (k.tcb t).dataElem switch) k k' lists
      lists' := by
  refine ⟨changed.kept, changed.same.dque ▸ sound.shape,
    changed.same.dque ▸ ⟨rfl, rfl⟩, ?_, by simp [Reply.retValue]⟩
  simp only [Kernel.channel, changed.same.dque, nothing, waiting,
    changed.members, changed.others (.dqueReceive d) (by simp),
    sound.senders_rest waiting rfl changed, accepted, delivered,
    Reply.retValue, List.map_cons, Option.toList_some, if_true]
  exact .direct

theorem QueueSound.waitToReceive (sound : QueueSound rule d k lists)
    {timeout : Word} (nobody : lists.task (.wait (.dqueSend d)) = [])
    (nothing : (k.dque d).items = [])
    (changed : Changed rule (.dqueReceive d)
      (lists.task (.wait (.dqueReceive d)) ++ [t]) t
      ((k.tcb t).asleep (some (.dqueReceive d)) .dqueWreceive timeout) k k'
      lists lists') :
    Transferred rule d .receive .block k k' lists lists' := by
  refine ⟨changed.kept, changed.same.dque ▸ sound.shape,
    changed.same.dque ▸ ⟨rfl, rfl⟩, ?_, by simp [Reply.block]⟩
  simp only [Kernel.channel, changed.same.dque, nothing, nobody,
    changed.members, changed.others (.dqueSend d) (by simp), accepted,
    delivered, Reply.block, List.map_nil, Option.toList_none, reduceCtorEq,
    if_false]
  exact .waitToReceive

/-- Every answer of a service is one transition. -/
def Transfers (rule : Rule) (d : DqueId) (traffic : Traffic) (k : Kernel)
    (lists : Lists) (outcome : Outcome) : Prop :=
  outcome.Ensures fun k' reply =>
    ∃ lists', Transferred rule d traffic reply k k' lists lists'

theorem Transfers.fromInterrupt {outcome : Outcome}
    (transfers : Transfers rule d traffic k lists outcome) :
    Transfers rule d traffic k lists outcome.fromInterrupt :=
  Outcome.Ensures.fromInterrupt transfers
    fun _ _ ⟨lists', kept, shape, same, transfer, refused⟩ =>
      ⟨lists', kept.request, shape, same, transfer, refused⟩

theorem QueueSound.refused (sound : QueueSound rule d k lists)
    {reply : Reply} (refuses : reply.Refuses) :
    ∃ lists', Transferred rule d traffic reply k k lists lists' := by
  obtain ⟨noErr, answered, value⟩ := refuses
  refine ⟨lists, sound.idle sound.kept rfl rfl ?_ ?_⟩ <;>
    cases traffic <;> simp [accepted, delivered, noErr, answered]

theorem QueueSound.checked (sound : QueueSound rule d k lists)
    {dque : Option DqueId} (this : dque = some d) {badParam : Nat → Bool}
    {wrongContext : Bool} {body : Nat → Outcome}
    (transfers : Transfers rule d traffic k lists (body d)) :
    Transfers rule d traffic k lists
      (checked k dque badParam k.isDque wrongContext body) :=
  ensures_checked this (fun _ => sound.refused) transfers

theorem QueueSound.sendBody (sound : QueueSound rule d k lists) (fuel : Nat)
    (dataPtr : Word) {full : Kernel → DqueId → Outcome}
    (transfers : lists.task (.wait (.dqueReceive d)) = [] →
      (k.dque d).items.length = (k.dque d).capacity →
      Transfers rule d (.send dataPtr) k lists (full k d)) :
    Transfers rule d (.send dataPtr) k lists
      (queueSendBody fuel k dataPtr full d) := by
  intro k' reply run
  cases waiting : lists.task (.wait (.dqueReceive d)) with
  | cons t rest =>
      obtain ⟨k₁, lists', result, changed⟩ := queueSendBody_hand fuel dataPtr
        full sound.kept sound.isDque waiting
      rw [result] at run
      cases run
      exact ⟨lists', sound.hand waiting changed _⟩
  | nil =>
      by_cases room : (k.dque d).items.length = (k.dque d).capacity
      · rw [queueSendBody_full _ _ _ sound.kept sound.isDque waiting
          sound.shape room] at run
        exact transfers waiting room k' reply run
      · rw [queueSendBody_store _ _ _ sound.kept sound.isDque waiting
          sound.shape room] at run
        cases run
        exact ⟨lists, sound.store waiting room⟩

theorem QueueSound.receiveBody (sound : QueueSound rule d k lists)
    (fuel : Nat) {empty : Kernel → DqueId → Outcome}
    (transfers : lists.task (.wait (.dqueSend d)) = [] →
      (k.dque d).items = [] →
      Transfers rule d .receive k lists (empty k d)) :
    Transfers rule d .receive k lists (queueReceiveBody fuel k empty d) := by
  intro k' reply run
  cases waiting : lists.task (.wait (.dqueSend d)) with
  | cons t rest =>
      cases stored : (k.dque d).items with
      | cons first left =>
          obtain ⟨k₁, lists', result, changed⟩ := queueReceiveBody_refill
            fuel empty sound.kept sound.isDque waiting sound.shape stored
          rw [result] at run
          cases run
          exact ⟨lists', sound.refill waiting stored changed _⟩
      | nil =>
          obtain ⟨k₁, lists', result, changed⟩ := queueReceiveBody_direct
            fuel empty sound.kept sound.isDque waiting sound.shape stored
          rw [result] at run
          cases run
          exact ⟨lists', sound.direct waiting stored changed _⟩
  | nil =>
      cases stored : (k.dque d).items with
      | cons first left =>
          rw [queueReceiveBody_take _ _ sound.kept sound.isDque waiting
            sound.shape stored] at run
          cases run
          exact ⟨lists, sound.take waiting stored⟩
      | nil =>
          rw [queueReceiveBody_empty _ _ sound.kept sound.isDque waiting
            sound.shape stored] at run
          exact transfers waiting stored k' reply run

/-- A polling service that cannot go on answers `TERR_TIMEOUT`. -/
theorem QueueSound.refuse (sound : QueueSound rule d k lists) :
    Transfers rule d traffic k lists (some (k, .ret .timeout)) :=
  ensures_some (sound.refused ⟨by simp [Reply.ret], by simp [Reply.ret], rfl⟩)

theorem QueueSound.sendSleep (sound : QueueSound rule d k lists)
    (running : (k.tcb k.tnCurrRunTask).taskState = .runnable)
    (stop : rule.stop k.tnCurrRunTask) {timeout : Word}
    (waits : rule.waits (some (.dqueSend d)) timeout) {dataPtr : Word}
    (nobody : lists.task (.wait (.dqueReceive d)) = [])
    (full : (k.dque d).items.length = (k.dque d).capacity) :
    Transfers rule d (.send dataPtr) k lists (do
      let k := k.setTcb k.tnCurrRunTask
        { k.tcb k.tnCurrRunTask with dataElem := dataPtr }
      let k ← taskCurrToWaitAction k (some (.dqueSend d)) .dqueWsend timeout
      some (k, .block)) := by
  obtain ⟨k₁, lists', result, changed⟩ := sound.kept.sleepWith
    (Tcb.samePlace_given (k.tcb k.tnCurrRunTask) dataPtr) rfl running stop
    waits (show WaitReason.fits .dqueWsend (some (.dqueSend d)) = true
      from rfl) sound.isDque
  intro k' reply run
  change (taskCurrToWaitAction (k.setTcb k.tnCurrRunTask
    ((k.tcb k.tnCurrRunTask).given dataPtr)) (some (.dqueSend d)) .dqueWsend
    timeout).bind _ = _ at run
  rw [result] at run
  cases run
  exact ⟨lists', sound.waitToSend running nobody full changed⟩

theorem QueueSound.receiveSleep (sound : QueueSound rule d k lists)
    (running : (k.tcb k.tnCurrRunTask).taskState = .runnable)
    (stop : rule.stop k.tnCurrRunTask) {timeout : Word}
    (waits : rule.waits (some (.dqueReceive d)) timeout)
    (nobody : lists.task (.wait (.dqueSend d)) = [])
    (nothing : (k.dque d).items = []) :
    Transfers rule d .receive k lists (do
      let k ← taskCurrToWaitAction k (some (.dqueReceive d)) .dqueWreceive
        timeout
      some (k, .block)) := by
  obtain ⟨k₁, lists', result, changed⟩ := sound.kept.sleep running stop waits
    (show WaitReason.fits .dqueWreceive (some (.dqueReceive d)) = true
      from rfl) sound.isDque
  intro k' reply run
  rw [result] at run
  cases run
  exact ⟨lists', sound.waitToReceive nobody nothing changed⟩

theorem Quiet.transferred (sound : QueueSound rule d k lists)
    (quiet : Quiet rule k k' lists lists') :
    Transferred rule d .other reply k k' lists lists' := by
  refine sound.idle quiet.kept (congrFun quiet.same.dque d) ?_ rfl rfl
  simp only [Kernel.channel, quiet.waits, quiet.same.dque, quiet.dataElem]

end Queue

end UsbBulk
