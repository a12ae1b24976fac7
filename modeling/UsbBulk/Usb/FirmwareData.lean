import UsbBulk.Usb.FirmwareSteps

/-!
# Where the data of the firmware is

The blocks of a lane can be found in the kernel.  From that follows where the data of
the lane is, and what the tasks wait for.
-/

namespace UsbBulk

/-! ## The places of the blocks in the kernel -/

namespace Firmware

variable {build : Build} (st : Firmware) (b : Board build) (c : Lane)

/-- The blocks that the producer of the lane fills: in its variable, or in its control
block when it has been given one in its wait. -/
def hands : List Word :=
  match (st.view c).producer with
  | .filling ptr => [ptr]
  | .getting =>
      if st.kernel.noWaiters (.fmp (b.memPool c)) then
        [(st.kernel.tcb (b.producerTask c)).dataElem]
      else []
  | .get | .sending => []

/-- The block with which the producer waits for a place in the queue. -/
def blocked : List Word :=
  match (st.view c).producer with
  | .sending =>
      if st.kernel.noWaiters (.dqueSend (b.queue c)) then []
      else [(st.kernel.tcb (b.producerTask c)).dataElem]
  | .get | .getting | .filling _ => []

/-- The blocks that the reader of the lane has received. -/
def owned : List Word :=
  match (st.view c).reader with
  | .processing ptr | .release ptr => [ptr]
  | .receiving =>
      if st.kernel.noWaiters (.dqueReceive (b.queue c)) then
        [(st.kernel.tcb (b.readerTask c)).dataElem]
      else []
  | .receive => []

/-- Those among them that it has not used. -/
def unread : List Word :=
  match (st.view c).reader with
  | .release _ => []
  | .receive | .receiving | .processing _ => st.owned b c

/-- What is stored in the queue of the lane. -/
def queued : List Word := (st.kernel.dque (b.queue c)).items

/-- The task is inside a service and waits there. -/
def Sleeps (r : Relayer) : Prop :=
  match st.relay r with
  | .receiving => st.kernel.noWaiters (.dqueReceive (b.queue r.source)) = false
  | .getting _ => st.kernel.noWaiters (.fmp (b.memPool r.target)) = false
  | .sending _ => st.kernel.noWaiters (.dqueSend (b.queue r.target)) = false
  | .receive | .get _ | .copying _ _ _ | .release _ => False

/-- The data that is in the lane. -/
def pending : List (List Word) :=
  (st.unread b c ++ (st.queued b c ++ st.blocked b c)).map
    (payloadAt st.kernel.mem)

end Firmware

section Places

variable {build : Build} {b : Board build} {st : Firmware} {lists : Lists}
variable {s : Shared} {held : Lane → Held} {c : Lane}

/-- A wait list of the lane is empty in the kernel if it is in the abstract state. -/
theorem Board.Hosts.noWaiters_iff {k : Kernel} (hosts : b.Hosts False k lists s)
    {list : WaitList} (ofLane : list.ofLane b c) :
    k.noWaiters list = true ↔ s.waiting list = [] := by
  rw [← hosts.waiting]
  refine hosts.kept.noWaiters_iff ?_
  rcases ofLane with rfl | rfl | rfl
  · exact (hosts.pool _ ⟨c, rfl⟩).isFmp
  · exact (hosts.queue _ ⟨c, rfl⟩).isDque
  · exact (hosts.queue _ ⟨c, rfl⟩).isDque

theorem Board.Hosts.some_waiter {k : Kernel} (hosts : b.Hosts False k lists s)
    {list : WaitList} (ofLane : list.ofLane b c)
    (waits : k.noWaiters list = false) : s.waiting list ≠ [] := by
  rw [Ne, ← hosts.noWaiters_iff ofLane, waits]
  decide

namespace FirmwareSound

/-- The places of the blocks can be seen in the kernel. -/
theorem places (sound : FirmwareSound b st lists s held) (c : Lane) :
    st.hands b c = (held c).hands ∧ st.blocked b c = (held c).blocked ∧
      st.owned b c = (held c).owned ∧ st.unread b c = (held c).unread ∧
      st.queued b c = s.items (b.queue c) := by
  have hosts := sound.hosts
  have producing := (sound.net.lane c).producing
  have reading := (sound.net.lane c).reading
  have takers := hosts.noWaiters_iff (c := c) (.inl rfl)
  have senders := hosts.noWaiters_iff (c := c) (.inr (.inl rfl))
  have receivers := hosts.noWaiters_iff (c := c) (.inr (.inr rfl))
  have reads : st.owned b c = (held c).owned ∧
      st.unread b c = (held c).unread := by
    unfold Firmware.unread Firmware.owned
    generalize (st.view c).reader = reader, (held c).owned = owned,
      (held c).unread = unread at reading
    cases reading with
    | receive | processing | release => exact ⟨rfl, rfl⟩
    | asleep waiting => simp [receivers, waiting]
    | served nobody => simp [receivers, nobody, hosts.elem]
  unfold Firmware.hands Firmware.blocked
  generalize (st.view c).producer = producer, (held c).hands = hands,
    (held c).blocked = blocked at producing
  refine ⟨?_, ?_, reads.1, reads.2, (hosts.queue _ ⟨c, rfl⟩).items⟩
  · cases producing with
    | get | filling | stored | blocked => rfl
    | asleep waiting => simp [takers, waiting]
    | given nobody => simp [takers, nobody, hosts.elem]
  · cases producing with
    | get | filling | asleep | given => rfl
    | stored _ noSender => simp [senders, noSender]
    | blocked _ waiting => simp [senders, waiting, hosts.elem]

theorem pending_eq (sound : FirmwareSound b st lists s held) (c : Lane) :
    st.pending b c = ((held c).unread ++
      (s.items (b.queue c) ++ (held c).blocked)).map (payloadAt s.mem) := by
  obtain ⟨_, blocked, _, unread, queued⟩ := sound.places c
  rw [Firmware.pending, blocked, unread, queued, sound.hosts.mem]

end FirmwareSound

end Places

/-! ## Nothing is lost, and nothing changes -/

/-- The data of a lane is in order, and each block of its pool is in one place.  For
each packet that is missing there is a block that nobody has. -/
structure Firmware.LaneKept {build : Build} (st : Firmware) (b : Board build)
    (c : Lane) (free lost : List Word) (kept : List (List Word)) : Prop where
  holds : st.kernel.PoolHolds (b.memPool c) free
  distinct : (b.region c).blocks.Nodup
  custody : (free ++ (st.queued b c ++ st.blocked b c ++
    (st.hands b c ++ (st.owned b c ++ lost)))).Perm (b.region c).blocks
  lossless : c.drops build = false → lost = []
  missing : Missing lost (st.view c).sent kept
  stream : List.Forall₂ c.Matches kept ((st.view c).done ++ st.pending b c)

section Data

variable {build : Build} {b : Board build} {st : Firmware} {lists : Lists}
variable {s : Shared} {held : Lane → Held} {c : Lane} {r : Relayer}

namespace FirmwareSound

theorem laneKept (sound : FirmwareSound b st lists s held) (c : Lane) :
    ∃ kept, st.LaneKept b c (s.free (b.memPool c)) (held c).lost kept := by
  obtain ⟨hands, blocked, owned, _, queued⟩ := sound.places c
  obtain ⟨kept, missing, stream⟩ := (sound.net.lane c).stream
  rw [← sound.pending_eq] at stream
  refine ⟨kept, (sound.hosts.pool _ ⟨c, rfl⟩).holds, (b.region c).nodup, ?_,
    (sound.net.lane c).lossless, missing, stream⟩
  rw [hands, blocked, owned, queued]
  exact (sound.net.lane c).stock

theorem inner (sound : FirmwareSound b st lists s held) (c : Lane)
    (notOut : c.isOut = false) :
    (st.view c).sent = (st.view c).done ++ st.pending b c := by
  obtain ⟨kept, _, _, _, lossless, missing, stream⟩ := sound.laneKept c
  rw [lossless (Lane.drops_of_notOut build notOut)] at missing
  have all := missing.eq_of_nothing
  subst all
  have same : c.Matches = Eq := by
    ext words payload
    rw [Lane.Matches, notOut]
    simp
  rwa [same, List.forall₂_eq_eq_eq] at stream

/-- What has come in from EP2 has gone out to EP5, or is on its way there. -/
theorem stream (sound : FirmwareSound b st lists s held) :
    ∃ kept, ((held .ep2Rx).lost.length ≤ 1 ∧
        ((Lane.ep2Rx).drops build = false → (held .ep2Rx).lost = [])) ∧
      Missing (held .ep2Rx).lost (st.sent .ep2Rx) kept ∧
      List.Forall₂ (fun packet payload => packet <+: payload) kept
        (st.left .ep5Tx ++ (st.pending b .ep5Tx ++
          (st.pending b .epExch ++ st.pending b .ep2Rx))) := by
  obtain ⟨kept, laneKept⟩ := sound.laneKept .ep2Rx
  -- What the first task has sent is what the second one has sent or not yet read.
  have exch : st.sent .epExch = st.sent .ep5Tx ++ st.pending b .epExch :=
    sound.inner .epExch rfl
  have last : st.sent .ep5Tx = st.left .ep5Tx ++ st.pending b .ep5Tx :=
    sound.inner .ep5Tx rfl
  have stream := laneKept.stream
  change List.Forall₂ _ _ (st.sent .epExch ++ _) at stream
  rw [exch, last, List.append_assoc, List.append_assoc] at stream
  exact ⟨kept, ⟨laneKept.missing.length_le, laneKept.lossless⟩,
    laneKept.missing, stream⟩

/-! ## What the tasks wait for -/

/-- The queue of a lane does not take all of its blocks. -/
theorem length_items (sound : FirmwareSound b st lists s held) (c : Lane) :
    (s.items (b.queue c)).length ≤ c.size build - 1 := by
  have queue := sound.hosts.queue _ ⟨c, rfl⟩
  rw [← (sound.net.lane c).capacity, ← queue.capacity, ← queue.items]
  exact queue.shape.length_items_le

/-- A task waits for a block only if the queue between the two tasks that copy is full
and the second one has a block in its hands. -/
theorem taker (sound : FirmwareSound b st lists s held)
    (waits : s.waiting (.fmp (b.memPool c)) ≠ []) :
    c = .epExch ∧ (s.items (b.queue c)).length = c.size build - 1 ∧
      ∃ ptr, (held c).owned = [ptr] := by
  have total := (sound.net.lane c).total_count
  have room := sound.length_items c
  have producing := (sound.net.lane c).producing
  have reading := (sound.net.lane c).reading
  have lossless := (sound.net.lane c).lossless
  have notOut : c.isOut = true → ¬(st.view c).producer.inside :=
    st.parted.producer c
  have reader : c = .ep2Tx ∨ c = .ep5Tx → (st.view c).reader = .receive := by
    rintro (rfl | rfl) <;> rfl
  generalize (st.view c).producer = producer, (held c).hands = hands,
    (held c).blocked = blocked at producing notOut total
  cases producing with
  | asleep waiting empty =>
      have inner := Bool.eq_false_iff.mpr fun out => notOut out trivial
      rw [lossless (Lane.drops_of_notOut build inner)] at total
      generalize (st.view c).reader = reader', (held c).owned = owned,
        (held c).unread = unread at reading reader total
      cases reading with
      | receive | asleep =>
          simp only [empty, List.length_nil] at total
          have two := c.two_le_size build
          omega
      | served | processing | release =>
          simp only [empty, List.length_singleton, List.length_nil] at total
          refine ⟨?_, by omega, _, rfl⟩
          cases c with
          | epExch => rfl
          | ep2Tx => cases reader (.inl rfl)
          | ep5Tx => cases reader (.inr rfl)
          | ep2Rx | ep5Rx => cases inner
  | get nobody | given nobody | filling nobody | blocked nobody
  | stored nobody => exact absurd nobody waits

theorem suffice (sound : FirmwareSound b st lists s held) (c : Lane) :
    st.kernel.noWaiters (.fmp (b.memPool c)) = true ∨
      c = .epExch ∧ (st.queued b c).length = c.size build - 1 ∧
        ∃ ptr, st.owned b c = [ptr] := by
  obtain ⟨_, _, owned, _, queued⟩ := sound.places c
  rw [owned, queued]
  cases waits : st.kernel.noWaiters (.fmp (b.memPool c)) with
  | true => exact .inl rfl
  | false =>
      exact .inr (sound.taker (sound.hosts.some_waiter (c := c) (.inl rfl)
        waits))

/-- A task that copies sleeps if there is nothing to copy, or if what it has copied
cannot be sent. -/
theorem sleeps (sound : FirmwareSound b st lists s held)
    (sleeps : st.Sleeps b r) :
    st.pending b r.source = [] ∨
      (∃ ptr1, st.owned b r.source = [ptr1]) ∧
        ((s.items (b.queue r.target)).length = r.target.size build - 1 ∨
          s.waiting (.fmp (b.memPool r.target)) ≠ []) := by
  obtain ⟨hands, blocked, owned, unread, queued⟩ := sound.places r.source
  have source := (sound.net.lane r.source).reading
  have sender := (sound.net.lane r.source).producing.sender
  have target := (sound.net.lane r.target).producing
  have capacity := (sound.net.lane r.target).capacity
  rw [Firmware.view_source] at source
  rw [Firmware.view_target] at target
  rw [owned, sound.pending_eq]
  unfold Firmware.Sleeps at sleeps
  cases here : st.relay r with
  | receiving =>
      simp only [here, Relay.reader] at source sleeps
      refine .inl ?_
      have some := sound.hosts.some_waiter (c := r.source) (.inr (.inr rfl))
        sleeps
      generalize (held r.source).owned = owned', (held r.source).unread =
        unread' at source
      cases source with
      | asleep waiting empty =>
          rcases sender with ⟨_, none⟩ | ⟨_, _, _, _, _, full⟩
          · simp [empty, none]
          · -- An empty queue is not full.
            rw [empty, (sound.net.lane r.source).capacity] at full
            exact absurd full (r.source.room_ne_zero build).symm
      | served nobody => exact absurd nobody some
  | getting ptr1 =>
      simp only [here, Relay.reader] at source sleeps
      have some := sound.hosts.some_waiter (c := r.target) (.inl rfl) sleeps
      refine .inr ⟨?_, .inr some⟩
      generalize (held r.source).owned = owned', (held r.source).unread =
        unread' at source
      cases source with
      | processing => exact ⟨ptr1, rfl⟩
  | sending ptr1 =>
      simp only [here, Relay.reader, Relay.producer] at source target sleeps
      have some := sound.hosts.some_waiter (c := r.target) (.inr (.inl rfl))
        sleeps
      refine .inr ⟨?_, .inl ?_⟩
      · generalize (held r.source).owned = owned', (held r.source).unread =
          unread' at source
        cases source with
        | release => exact ⟨ptr1, rfl⟩
      · generalize (held r.target).hands = hands', (held r.target).blocked =
          blocked' at target
        cases target with
        | blocked _ _ full => exact full.trans capacity
        | stored _ noSender => exact absurd noSender some
  | receive | get | copying | release => simp [here] at sleeps

/-- If both tasks sleep, everything waits for the host to read from EP5. -/
theorem drained (sound : FirmwareSound b st lists s held)
    (sleeps : ∀ r, st.Sleeps b r) :
    (st.pending b .ep2Rx = [] ∧ st.pending b .epExch = []) ∨
      (s.items (b.queue .ep5Tx)).length = Lane.ep5Tx.size build - 1 := by
  rcases sound.sleeps (sleeps .ep5Tx) with nothing | ⟨_, full | waits⟩
  · have empty : s.items (b.queue .epExch) = [] := by
      have pending := sound.pending_eq .epExch
      rw [show st.pending b .epExch = [] from nothing] at pending
      simp only [List.map_append, List.nil_eq_append_iff,
        List.append_eq_nil_iff, List.map_eq_nil_iff] at pending
      exact pending.2.1
    rcases sound.sleeps (sleeps .ep2Rx) with none | ⟨_, full | waits⟩
    · exact .inl ⟨none, nothing⟩
    · rw [show b.queue Relayer.ep2Rx.target = b.queue .epExch from rfl, empty]
        at full
      cases full
    · obtain ⟨_, full, _⟩ := sound.taker waits
      rw [show b.queue Relayer.ep2Rx.target = b.queue .epExch from rfl, empty]
        at full
      cases full
  · exact .inr full
  · cases (sound.taker waits).1

/-- If both tasks sleep and there is data on its way, the data that has been on its
way for the longest time is in the queue of EP5. -/
theorem oldest (sound : FirmwareSound b st lists s held)
    (sleeps : ∀ r, st.Sleeps b r) {words : List Word} {rest : List (List Word)}
    (pending : st.pending b .ep5Tx ++ (st.pending b .epExch ++
      st.pending b .ep2Rx) = words :: rest) :
    ∃ first left, s.items (b.queue .ep5Tx) = first :: left ∧
      payloadAt s.mem first = words := by
  have last := sound.pending_eq .ep5Tx
  obtain ⟨_, _, _, unread, _⟩ := sound.places .ep5Tx
  rw [← unread, show st.unread b .ep5Tx = [] from rfl, List.nil_append] at last
  have sender := (sound.net.lane .ep5Tx).producing.sender
  have room := Lane.ep5Tx.room_ne_zero build
  cases items : s.items (b.queue .ep5Tx) with
  | nil =>
      -- Then nothing is on its way at all.
      rcases sound.drained sleeps with ⟨none, nothing⟩ | full
      · rcases sender with ⟨_, noSender⟩ | ⟨_, _, _, _, _, full⟩
        · rw [none, nothing, last, items, noSender] at pending
          cases pending
        · rw [items, (sound.net.lane .ep5Tx).capacity] at full
          exact absurd full.symm room
      · rw [items] at full
        exact absurd full.symm room
  | cons first left =>
      rw [last, items] at pending
      exact ⟨first, left, rfl, (List.cons.inj pending).1⟩

end FirmwareSound

end Data

/-! ## No service fails -/

/-- The service that the task calls next, if it calls one. -/
def Board.nextCall {build : Build} (b : Board build) (st : Firmware) :
    AppTask → Option Call
  | .ep2Rx => relayCall .ep2Rx
  | .ep5Tx => relayCall .ep5Tx
  | .ep2Tx =>
      match st.ep2Tx with
      | .get => some (.fmemGet (some (b.memPool .ep2Tx)) true tnWaitInfinite)
      | .filling ptr =>
          some (.queueSend (some (b.queue .ep2Tx)) ptr tnWaitInfinite)
      | .getting | .sending => none
  | .ep5Rx =>
      match st.ep5Rx with
      | .receive =>
          some (.queueReceive (some (b.queue .ep5Rx)) true tnWaitInfinite)
      | .release ptr => some (.fmemRelease (some (b.memPool .ep5Rx)) ptr)
      | .receiving | .processing _ => none
  | .processing | .io => some (.taskSleep 10)
where
  relayCall (r : Relayer) : Option Call :=
    match st.relay r with
    | .receive =>
        some (.queueReceive (some (b.queue r.source)) true tnWaitInfinite)
    | .get _ => some (.fmemGet (some (b.memPool r.target)) true tnWaitInfinite)
    | .copying _ ptr count =>
        if count < usbMaxPacket0 / 4 then none
        else some (.queueSend (some (b.queue r.target)) ptr tnWaitInfinite)
    | .release ptr1 => some (.fmemRelease (some (b.memPool r.source)) ptr1)
    | .receiving | .getting _ | .sending _ => none

/-- The service is answered with `TERR_NO_ERR`, or the task waits in it. -/
def Board.Succeeds {build : Build} (b : Board build) (k : Kernel)
    (call : Call) : Prop :=
  ∀ fuel, ∃ k' reply, call.exec b.image.tnTaskExit fuel k = some (k', reply) ∧
    (reply.rc = some .noErr ∨ reply.rc = none)

/-- The task returns from a wait for a block, for an element or for a place in a
queue.  The service returns what the wait has ended with; `tn_task_sleep` does
not. -/
def Firmware.Returns (st : Firmware) : AppTask → Prop
  | .ep2Rx => relayReturns (st.relay .ep2Rx)
  | .ep5Tx => relayReturns (st.relay .ep5Tx)
  | .ep2Tx => st.ep2Tx = .getting ∨ st.ep2Tx = .sending
  | .ep5Rx => st.ep5Rx = .receiving
  | .processing | .io => False
where
  relayReturns : Relay → Prop
    | .receiving | .getting _ | .sending _ => True
    | .receive | .get _ | .copying _ _ _ | .release _ => False

section Success

variable {build : Build} {b : Board build} {st : Firmware} {lists : Lists}
variable {s : Shared} {held : Lane → Held} {r : Relayer} {task : AppTask}
variable {call : Call}

namespace FirmwareSound

theorem relay_succeeds (sound : FirmwareSound b st lists s held)
    (runs : st.Runs (b.task r.task))
    (next : Board.nextCall.relayCall b st r = some call) :
    b.Succeeds st.kernel call := by
  have context := sound.atTask.wrongNonIntContext
  have reader := runs.current.trans (b.readerTask_source r).symm
  have producer := runs.current.trans (b.producerTask_target r).symm
  have source := @Firmware.view_source st r
  have target := @Firmware.view_target st r
  intro fuel
  unfold Board.nextCall.relayCall at next
  cases here : st.relay r with
  | receive =>
      rw [here] at next source
      cases next
      obtain ⟨k, reply, _, _, answers, _, _, ⟨_, rc, _⟩ | ⟨rc, _⟩⟩ :=
        sound.hosts.receive context (b.mayWait runs) reader source fuel
      · exact ⟨k, reply, answers, .inl rc⟩
      · exact ⟨k, reply, answers, .inr rc⟩
  | get ptr1 =>
      rw [here] at next target
      cases next
      obtain ⟨k, reply, _, _, answers, _, _, ⟨_, rc, _⟩ | ⟨rc, _⟩⟩ :=
        sound.hosts.get context (b.mayWait runs) producer target
      · exact ⟨k, reply, answers, .inl rc⟩
      · exact ⟨k, reply, answers, .inr rc⟩
  | copying ptr1 ptr count =>
      rw [here] at next target
      obtain ⟨_, next⟩ := Option.ite_none_left_eq_some.mp next
      cases next
      have fits : r.target.Matches (payloadAt s.mem ptr)
          (payloadAt s.mem ptr) := by
        rw [Lane.Matches, r.target_notOut]
        rfl
      obtain ⟨k, reply, _, _, answers, _, _, ⟨rc, _⟩ | ⟨rc, _⟩⟩ :=
        sound.hosts.send context (b.mayWait runs) producer target fits fuel
      · exact ⟨k, reply, answers, .inl rc⟩
      · exact ⟨k, reply, answers, .inr rc⟩
  | release ptr1 =>
      rw [here] at next source
      cases next
      obtain ⟨k, reply, _, _, answers, _, rc, _⟩ :=
        sound.hosts.release sound.net context source fuel
      exact ⟨k, reply, answers, .inl rc⟩
  | receiving | getting | sending => simp [here] at next

theorem relay_returns (sound : FirmwareSound b st lists s held)
    (runs : st.Runs (b.task r.task))
    (returns : Firmware.Returns.relayReturns (st.relay r)) :
    (st.kernel.tcb (b.task r.task)).taskWaitRc = .noErr := by
  rw [sound.hosts.waitRc]
  have source := @Firmware.view_source st r
  have target := @Firmware.view_target st r
  have awake : ∀ list, b.task r.task ∉ s.waiting list := fun _ member =>
    sound.hosts.asleep member runs.runnable
  cases here : st.relay r with
  | receiving =>
      rw [here] at source
      have served := (sound.net.lane r.source).served source
        ((b.readerTask_source r).symm ▸ awake _)
      exact (b.readerTask_source r) ▸ served.1
  | getting ptr1 =>
      rw [here] at target
      have taken := (sound.net.lane r.target).taken target
        ((b.producerTask_target r).symm ▸ awake _)
      exact (b.producerTask_target r) ▸ taken.1
  | sending ptr1 =>
      rw [here] at target
      have stored := (sound.net.lane r.target).stored target
        ((b.producerTask_target r).symm ▸ awake _)
      exact (b.producerTask_target r) ▸ stored.1
  | receive | get | copying | release =>
      rw [here] at returns
      exact returns.elim

theorem ep2Tx_succeeds (sound : FirmwareSound b st lists s held)
    (runs : st.Runs (b.task .ep2Tx))
    (next : b.nextCall st .ep2Tx = some call) : b.Succeeds st.kernel call := by
  have context := sound.atTask.wrongNonIntContext
  intro fuel
  unfold Board.nextCall at next
  cases here : st.ep2Tx with
  | get =>
      rw [here] at next
      cases next
      obtain ⟨k, reply, _, _, answers, _, _, ⟨_, rc, _⟩ | ⟨rc, _⟩⟩ :=
        sound.hosts.get (c := .ep2Tx) (v := st.view .ep2Tx) context
          (b.mayWait runs) runs.current here
      · exact ⟨k, reply, answers, .inl rc⟩
      · exact ⟨k, reply, answers, .inr rc⟩
  | filling ptr =>
      rw [here] at next
      cases next
      have fits : Lane.ep2Tx.Matches (payloadAt s.mem ptr)
          (payloadAt s.mem ptr) := rfl
      obtain ⟨k, reply, _, _, answers, _, _, ⟨rc, _⟩ | ⟨rc, _⟩⟩ :=
        sound.hosts.send (c := .ep2Tx) (v := st.view .ep2Tx) context
          (b.mayWait runs) runs.current here fits fuel
      · exact ⟨k, reply, answers, .inl rc⟩
      · exact ⟨k, reply, answers, .inr rc⟩
  | getting | sending => simp [here] at next

theorem ep2Tx_returns (sound : FirmwareSound b st lists s held)
    (runs : st.Runs (b.task .ep2Tx)) (returns : st.Returns .ep2Tx) :
    (st.kernel.tcb (b.task .ep2Tx)).taskWaitRc = .noErr := by
  rw [sound.hosts.waitRc]
  have awake : ∀ list, b.task .ep2Tx ∉ s.waiting list := fun _ member =>
    sound.hosts.asleep member runs.runnable
  rcases returns with getting | sending
  · exact ((sound.net.lane .ep2Tx).taken getting (awake _)).1
  · exact ((sound.net.lane .ep2Tx).stored sending (awake _)).1

theorem ep5Rx_succeeds (sound : FirmwareSound b st lists s held)
    (runs : st.Runs (b.task .ep5Rx))
    (next : b.nextCall st .ep5Rx = some call) : b.Succeeds st.kernel call := by
  have context := sound.atTask.wrongNonIntContext
  intro fuel
  unfold Board.nextCall at next
  cases here : st.ep5Rx with
  | receive =>
      rw [here] at next
      cases next
      obtain ⟨k, reply, _, _, answers, _, _, ⟨_, rc, _⟩ | ⟨rc, _⟩⟩ :=
        sound.hosts.receive (c := .ep5Rx) (v := st.view .ep5Rx) context
          (b.mayWait runs) runs.current here fuel
      · exact ⟨k, reply, answers, .inl rc⟩
      · exact ⟨k, reply, answers, .inr rc⟩
  | release ptr =>
      rw [here] at next
      cases next
      obtain ⟨k, reply, _, _, answers, _, rc, _⟩ :=
        sound.hosts.release (c := .ep5Rx) sound.net context here fuel
      exact ⟨k, reply, answers, .inl rc⟩
  | receiving | processing => simp [here] at next

theorem ep5Rx_returns (sound : FirmwareSound b st lists s held)
    (runs : st.Runs (b.task .ep5Rx)) (returns : st.Returns .ep5Rx) :
    (st.kernel.tcb (b.task .ep5Rx)).taskWaitRc = .noErr := by
  rw [sound.hosts.waitRc]
  exact ((sound.net.lane .ep5Rx).served returns fun member =>
    sound.hosts.asleep member runs.runnable).1

/-- A task that sleeps is answered with `TERR_NO_ERR`. -/
theorem sleep_succeeds (sound : FirmwareSound b st lists s held)
    {timeout : Word} (sleeper : b.Sleeper (b.task task) timeout)
    (runs : st.Runs (b.task task)) :
    b.Succeeds st.kernel (.taskSleep timeout) := by
  obtain ⟨current, runnable⟩ := runs
  rw [← current] at sleeper runnable
  obtain ⟨k, reply, _, answers, noErr, _⟩ := sound.hosts.sleep
    sound.atTask.wrongNonIntContext sleeper runnable
  exact fun _ => ⟨k, reply, answers, .inl noErr⟩

/-- No service that a task calls fails, and no wait ends with an error. -/
theorem succeeds (sound : FirmwareSound b st lists s held)
    (runs : st.Runs (b.task task)) :
    (∀ call, b.nextCall st task = some call → b.Succeeds st.kernel call) ∧
      (st.Returns task →
        (st.kernel.tcb (b.task task)).taskWaitRc = .noErr) := by
  cases task with
  | ep2Rx =>
      exact ⟨fun _ => sound.relay_succeeds (r := .ep2Rx) runs,
        sound.relay_returns (r := .ep2Rx) runs⟩
  | ep5Tx =>
      exact ⟨fun _ => sound.relay_succeeds (r := .ep5Tx) runs,
        sound.relay_returns (r := .ep5Tx) runs⟩
  | ep2Tx =>
      exact ⟨fun _ => sound.ep2Tx_succeeds runs, sound.ep2Tx_returns runs⟩
  | ep5Rx =>
      exact ⟨fun _ => sound.ep5Rx_succeeds runs, sound.ep5Rx_returns runs⟩
  | processing =>
      refine ⟨fun _ next => ?_, False.elim⟩
      cases next
      exact sound.sleep_succeeds .processing runs
  | io =>
      refine ⟨fun _ next => ?_, False.elim⟩
      cases next
      exact sound.sleep_succeeds .io runs

end FirmwareSound

end Success

end UsbBulk
