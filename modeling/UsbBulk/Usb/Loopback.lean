import UsbBulk.Usb.DmaFirmwareSteps
import UsbBulk.Usb.FirmwareData
import UsbBulk.Usb.FirmwareScript

/-!
# What the firmware does with its data

The host writes packets to EP2, two tasks pass them on, and the host reads them from
EP5.  Beside that, a task takes packets from EP5, and another one fills packets for
EP2.
-/

namespace UsbBulk

/-- What a run of one of the two builds reaches.  With DMA, the bus may be wild. -/
inductive Reached : {build : Build} → Board build → Firmware → Prop where
  | noDma {b : Board .noDma} {st : Firmware} (run : FirmwareRun b st) : Reached b st
  | dma {bus : Bus} {b : Board (.dma bus)} {st : DmaFirmware}
      (run : DmaFirmwareRun b st) : Reached b st.toFirmware

theorem Reached.sound {build : Build} {b : Board build} {st : Firmware}
    (reached : Reached b st) : ∃ lists s held, FirmwareSound b st lists s held := by
  cases reached with
  | noDma run => exact run.sound
  | dma run =>
      obtain ⟨lists, s, held, sound⟩ := run.sound
      exact ⟨lists, s, held, sound.firmware⟩

/-! ## Nothing is lost, and nothing changes -/

/-- A packet comes in when all tasks but one wait, and two tasks copy it. -/
def passScript : List FirmwareMove :=
  (waitMoves 16).map .task ++ [.usb (.bulk .ep2Rx)] ++ copyMoves.map .task

/-- Both tasks that copy wait for data, and the data of a packet is on its way. -/
theorem packet_passes : ∃ st, FirmwareRun .sample st ∧
    (∀ r, st.Sleeps .sample r) ∧
      (st.pending .sample .ep5Tx).map (List.take 2) = [[1, 2]] := by
  obtain ⟨st, run, found⟩ := FirmwareRun.of_script
    (show ((Board.sample.makeCalls 16 Board.sample.tnAppInit .started).bind
      fun k => k.settle .firmware fun k => (Firmware.booted k).follow
        .sample 16 .firmware passScript).any (fun st => decide (
          (st.relay .ep2Rx = .receiving ∧ st.relay .ep5Tx = .receiving) ∧
          (st.kernel.noWaiters (.dqueReceive 0) = false ∧
            st.kernel.noWaiters (.dqueReceive 4) = false) ∧
          (st.pending .sample .ep5Tx).map (List.take 2) = [[1, 2]])) = true
      by decide +kernel)
  obtain ⟨⟨first, second⟩, ⟨waits, waits'⟩, pending⟩ := of_decide_eq_true found
  refine ⟨st, run, fun r => ?_, pending⟩
  unfold Firmware.Sleeps
  cases r with
  | ep2Rx =>
      rw [first]
      exact waits
  | ep5Tx =>
      rw [second]
      exact waits'

section Runs

variable {build : Build} {b : Board build} {st : Firmware}

/-- In every run, whatever the tasks and the interrupt routines do in whatever order:
the data of each lane is in order, and its blocks are where they belong. -/
theorem lanes_kept (reached : Reached b st) (c : Lane) :
    ∃ free lost kept, st.LaneKept b c free lost kept := by
  obtain ⟨lists, s, held, sound⟩ := reached.sound
  obtain ⟨kept, laneKept⟩ := sound.laneKept c
  exact ⟨_, _, kept, laneKept⟩

theorem lanes_kept_passing : ∃ st free lost kept,
    FirmwareRun .sample st ∧ st.pending .sample .ep5Tx ≠ [] ∧
      st.LaneKept .sample .ep5Tx free lost kept := by
  obtain ⟨st, run, -, pending⟩ := packet_passes
  obtain ⟨free, lost, kept, laneKept⟩ := lanes_kept (.noDma run) .ep5Tx
  refine ⟨st, free, lost, kept, run, fun none => ?_, laneKept⟩
  rw [none] at pending
  cases pending

/-- What the host reads from EP5, and what is still on its way there, is what it has
written to EP2, in the same order, but for one packet at most. -/
theorem loopback_stream (reached : Reached b st) :
    ∃ (lost : List Word) (kept : List (List Word)), lost.length ≤ 1 ∧
      Missing lost (st.sent .ep2Rx) kept ∧
      List.Forall₂ (fun packet payload => packet <+: payload) kept
        (st.left .ep5Tx ++ (st.pending b .ep5Tx ++
          (st.pending b .epExch ++ st.pending b .ep2Rx))) := by
  obtain ⟨lists, s, held, sound⟩ := reached.sound
  obtain ⟨kept, ⟨single, _⟩, stream⟩ := sound.stream
  exact ⟨_, kept, single, stream⟩

theorem loopback_stream_passing : ∃ (st : Firmware) (lost : List Word)
    (kept : List (List Word)), (∀ r, st.Sleeps .sample r) ∧
      lost.length ≤ 1 ∧ Missing lost (st.sent .ep2Rx) kept ∧
      List.Forall₂ (fun packet payload => packet <+: payload) kept
        (st.left .ep5Tx ++ (st.pending .sample .ep5Tx ++
          (st.pending .sample .epExch ++ st.pending .sample .ep2Rx))) := by
  obtain ⟨st, run, sleeps, -⟩ := packet_passes
  obtain ⟨lost, kept, stream⟩ := loopback_stream (.noDma run)
  exact ⟨st, lost, kept, sleeps, stream⟩

/-! ## Nobody waits for ever -/

/-- The pools are large enough: a task waits for a block only if the queue between the
two tasks that copy is full and the second one has a block in its hands. -/
theorem blocks_suffice (reached : Reached b st) (c : Lane) :
    st.kernel.noWaiters (.fmp (b.memPool c)) = true ∨
      c = .epExch ∧ (st.queued b c).length = c.size build - 1 ∧
        ∃ ptr, st.owned b c = [ptr] := by
  obtain ⟨lists, s, held, sound⟩ := reached.sound
  exact sound.suffice c

theorem blocks_suffice_passing : ∃ st, FirmwareRun .sample st ∧
    (st.kernel.noWaiters (.fmp 4) = true ∨
      Lane.epExch = .epExch ∧ (st.queued .sample .epExch).length = 16 - 1 ∧
        ∃ ptr, st.owned .sample .epExch = [ptr]) := by
  obtain ⟨st, run, -⟩ := packet_passes
  exact ⟨st, run, blocks_suffice (.noDma run) .epExch⟩

end Runs

/-! ## The data goes out -/

/-- The interrupt routine writes what has been in the queue for the longest time. -/
theorem FirmwareSound.writes_oldest {build : Build} {b : Board build}
    {st : Firmware} {lists : Lists} {s : Shared} {held : Lane → Held} {c : Lane}
    (sound : FirmwareSound b st lists s held)
    (isIn : c = .ep2Tx ∨ c = .ep5Tx) {first : Word} {left : List Word}
    (items : s.items (b.queue c) = first :: left) (fuel : Nat) :
    ∃ st', b.epTxInt fuel c { st with kernel := st.kernel.enterIrq } =
        some st' ∧
      st'.left c = st.left c ++ [payloadAt s.mem first] := by
  have here : (st.view c).reader = .receive := by
    rcases isIn with rfl | rfl <;> rfl
  have entered : b.Hosts False st.kernel.enterIrq lists s :=
    Shares.enterIrq sound.hosts
  obtain ⟨k, lists', s', answers, _⟩ := entered.txInt sound.net
    sound.atTask.wrongIntContext isIn here fuel
  rw [items] at answers
  refine ⟨{ st with kernel := k }.addLeft c (payloadAt s.mem first), ?_, ?_⟩
  · change (tnUsbEpTxInt fuel (b.ei c) st.kernel.enterIrq).bind _ = _
    rw [answers]
    rfl
  · simp [Firmware.addLeft]

/-- The loop-back does not get stuck: when both tasks sleep and there is data on its
way, the next interrupt of EP5 writes the data that has been on its way for the
longest time. -/
theorem loopback_drains {b : Board .noDma} {st : Firmware} (run : FirmwareRun b st)
    (sleeps : ∀ r, st.Sleeps b r) {words : List Word} {rest : List (List Word)}
    (pending : st.pending b .ep5Tx ++ (st.pending b .epExch ++
      st.pending b .ep2Rx) = words :: rest) (fuel : Nat) :
    ∃ st', b.epTxInt fuel .ep5Tx { st with kernel := st.kernel.enterIrq } =
        some st' ∧
      st'.left .ep5Tx = st.left .ep5Tx ++ [words] := by
  obtain ⟨lists, s, held, sound⟩ := run.sound
  obtain ⟨first, left, items, rfl⟩ := sound.oldest sleeps pending
  exact sound.writes_oldest (.inr rfl) items fuel

theorem loopback_drains_passing : ∃ (st st' : Firmware) (words : List Word),
    FirmwareRun .sample st ∧ words.take 2 = [1, 2] ∧
      Board.sample.epTxInt 16 .ep5Tx
        { st with kernel := st.kernel.enterIrq } = some st' ∧
      st'.left .ep5Tx = st.left .ep5Tx ++ [words] := by
  obtain ⟨st, run, sleeps, data⟩ := packet_passes
  cases pending : st.pending .sample .ep5Tx with
  | nil =>
      rw [pending] at data
      cases data
  | cons words rest =>
      rw [pending] at data
      have first : words.take 2 = [1, 2] := (List.cons.inj data).1
      obtain ⟨st', write, left⟩ := loopback_drains run sleeps
        ((congrArg (· ++ _) pending).trans (List.cons_append ..)) 16
      exact ⟨st, st', words, run, first, write, left⟩

/-! ## Which packets are lost -/

/-- The data of the lane that is in a block of the reader or in the queue. -/
def Shared.dataIn {build : Build} (s : Shared) (b : Board build) (c : Lane)
    (reader : Reader) : List (List Word) :=
  let unread := match reader with
    | .processing ptr => [ptr]
    | .receiving =>
        if s.waiting (.dqueReceive (b.queue c)) = [] then
          [s.elem (b.readerTask c)]
        else []
    | .receive | .release _ => []
  (unread ++ s.items (b.queue c)).map (payloadAt s.mem)

section Packets

variable {build : Build} {b : Board build} {st : Firmware} {lists : Lists}
variable {s : Shared} {held : Lane → Held} {c : Lane}

/-- In a lane from the host nobody waits for a place. -/
theorem Board.Hosts.pending_out (hosts : b.Hosts False st.kernel lists s)
    (out : c.isOut = true) :
    st.pending b c = s.dataIn b c (st.view c).reader := by
  have receivers := hosts.noWaiters_iff (c := c) (.inr (.inr rfl))
  have blocked : st.blocked b c = [] := by
    cases c with
    | ep2Rx | ep5Rx => rfl
    | ep2Tx | ep5Tx | epExch => cases out
  rw [Firmware.pending, blocked, List.append_nil, Firmware.queued,
    (hosts.queue _ ⟨c, rfl⟩).items, hosts.mem]
  unfold Firmware.unread Firmware.owned Shared.dataIn
  cases (st.view c).reader with
  | receive | processing | release => rfl
  | receiving => simp [receivers, hosts.elem]

namespace LaneSound

variable {v : LaneView} {h : Held} {s' : Shared} {packet : UsbPacket}
variable {read : Bool}

theorem dataIn_eq (sound : LaneSound b c v s h) :
    s.dataIn b c v.reader =
      (h.unread ++ s.items (b.queue c)).map (payloadAt s.mem) := by
  have reading := sound.reading
  unfold Shared.dataIn
  generalize v.reader = reader, h.owned = owned, h.unread = unread at reading
  cases reading with
  | receive | processing | release => rfl
  | asleep waiting => simp [waiting]
  | served nobody => simp [nobody]

/-- The data of a packet is written into a block that is free. -/
theorem rx_written (sound : LaneSound b c v s h) (here : v.producer = .get)
    {block : Word} {s₁ : Shared} {mem : Word → Word}
    (got : s.get (b.memPool c) = some (block, s₁))
    (inside : WritesInside (BitVec.ofNat 32 usbMaxPacket0) [block] s₁.mem
      mem) :
    LaneSound b c { v with producer := .filling block } (s₁.setMem mem)
        { h with hands := [block] } ∧
      (s₁.setMem mem).dataIn b c v.reader = s.dataIn b c v.reader := by
  have taken := sound.take here got
  have written := taken.fill rfl inside
  obtain ⟨_, same⟩ := taken.payloads inside (.inl (by simp))
  obtain ⟨_, _, _, none⟩ := taken.filling rfl
  have before := sound.dataIn_eq
  have after := written.dataIn_eq
  have items : s₁.items = s.items ∧ s₁.mem = s.mem := by
    obtain ⟨free, -, rfl⟩ := Shared.get_eq_some.mp got
    exact ⟨rfl, rfl⟩
  dsimp only at none
  rw [none, List.append_nil] at same
  refine ⟨written, after.trans ?_⟩
  rw [before, ← items.1, ← items.2]
  exact same

/-- What becomes of the data of a lane when a packet comes in. -/
theorem rx_data (sound : LaneSound b c v s h) (here : v.producer = .get)
    (outcome : RxOutcome b c packet s read s') :
    if s.free (b.memPool c) = [] then
      read = false ∧ s'.dataIn b c v.reader = s.dataIn b c v.reader
    else
      read = true ∧
        if s.waiting (.dqueReceive (b.queue c)) = [] ∧
          (s.items (b.queue c)).length = c.size build - 1 then
          s'.dataIn b c v.reader = s.dataIn b c v.reader
        else ∃ payload, packet.words <+: payload ∧
          s'.dataIn b c v.reader = s.dataIn b c v.reader ++ [payload] := by
  have isFree : ∀ {block : Word} {s₁ : Shared},
      s.get (b.memPool c) = some (block, s₁) → s.free (b.memPool c) ≠ [] ∧
        s₁.waiting = s.waiting ∧ s₁.items = s.items := by
    intro block s₁ got
    obtain ⟨free, isFree, rfl⟩ := Shared.get_eq_some.mp got
    exact ⟨by simp [isFree], rfl, rfl⟩
  cases outcome with
  | refused empty => simp [empty]
  | @dropped block s₁ mem got inside full =>
      obtain ⟨some, waiting, items⟩ := isFree got
      obtain ⟨written, same⟩ := sound.rx_written here got inside
      obtain ⟨nobody, isFull, _⟩ := written.refused rfl full
      rw [written.capacity] at isFull
      change s₁.waiting _ = [] at nobody
      change (s₁.items _).length = _ at isFull
      rw [waiting] at nobody
      rw [items] at isFull
      rw [if_neg some, if_pos ⟨nobody, isFull⟩]
      exact ⟨rfl, same⟩
  | @stored block s₁ _ mem got inside fits accepted =>
      obtain ⟨some, waiting, items⟩ := isFree got
      obtain ⟨written, same⟩ := sound.rx_written here got inside
      have capacity := written.capacity
      rw [if_neg some, ← same, ← waiting, ← items]
      refine ⟨rfl, ?_⟩
      cases Shared.sent accepted with
      | handed waits =>
          -- The reader waits, and gets the block at once.
          have reading := written.reading
          rw [if_neg (by
            change s₁.waiting _ = _ at waits
            simp [waits])]
          refine ⟨_, fits, ?_⟩
          unfold Shared.dataIn
          dsimp only at reading
          generalize v.reader = reader, h.owned = owned, h.unread = unread
            at reading
          cases reading with
          | asleep isWaiting empty =>
              rw [isWaiting] at waits
              cases waits
              have isWaiting' : s₁.waiting (.dqueReceive (b.queue c)) =
                [b.readerTask c] := isWaiting
              have empty' : s₁.items (b.queue c) = [] := empty
              simp [Shared.wake, Shared.give, Shared.setMem, isWaiting', empty']
          | receive gone | served gone | processing gone | release gone =>
              rw [waits] at gone
              cases gone
      | stored nobody room =>
          rw [if_neg (by
            rw [← capacity]
            exact fun full => room full.2)]
          refine ⟨_, fits, ?_⟩
          unfold Shared.dataIn
          simp only [Shared.setItems, Function.update_self, List.map_append,
            List.map_cons, List.map_nil, List.append_assoc]
          rfl

end LaneSound

end Packets

/-- What becomes of a packet that comes in: it is left to the controller if no block is
free, and nothing changes; it is lost if there is a free block, but no place in the
queue; and otherwise it is put behind the data of the lane. -/
theorem packet_lost_iff {b : Board .noDma} {st : Firmware} {c : Lane}
    (run : FirmwareRun b st) (out : c.isOut = true) (packet : UsbPacket)
    (fuel : Nat) :
    ∃ st', b.epRxInt fuel c (some packet)
        { st with kernel := st.kernel.enterIrq } = some st' ∧
      if (st.kernel.fmp (b.memPool c)).fblkcnt = 0 then
        st' = { st with kernel := st.kernel.enterIrq } ∧
          st'.pending b c = st.pending b c
      else
        st'.sent c = st.sent c ++ [packet.words] ∧
          if st.kernel.noWaiters (.dqueReceive (b.queue c)) = true ∧
            (st.queued b c).length = c.size .noDma - 1 then
            st'.pending b c = st.pending b c
          else ∃ payload, packet.words <+: payload ∧
            st'.pending b c = st.pending b c ++ [payload] := by
  obtain ⟨lists, s, held, sound⟩ := run.sound
  have entered : b.Hosts False st.kernel.enterIrq lists s :=
    Shares.enterIrq sound.hosts
  have here : (st.view c).producer = .get := st.view_idle out
  obtain ⟨k, read, lists', s', answers, still, _, _, hosts, _, outcome⟩ :=
    entered.rxInt sound.net sound.atTask.wrongIntContext out here (.inl out)
      (some packet) fuel
  have data := (sound.net.lane c).rx_data here (outcome packet rfl)
  -- The conditions and the data in the kernel.
  have free : (st.kernel.fmp (b.memPool c)).fblkcnt = 0 ↔
      s.free (b.memPool c) = [] := by
    rw [(sound.hosts.pool _ ⟨c, rfl⟩).holds.count]
    simp
  have nobody := sound.hosts.noWaiters_iff (c := c) (.inr (.inr rfl))
  have queued := (sound.hosts.queue _ ⟨c, rfl⟩).items
  have before := sound.hosts.pending_out out
  have after : ({ st with kernel := k } : Firmware).pending b c =
      s'.dataIn b c (st.view c).reader :=
    @Board.Hosts.pending_out _ _ { st with kernel := k } _ _ _ hosts out
  refine ⟨if read then { st with kernel := k }.addSent c packet.words
    else { st with kernel := k }, ?_, ?_⟩
  · change (tnUsbEpRxInt fuel (b.ei c) (some packet) st.kernel.enterIrq).bind
      _ = _
    rw [answers]
    rfl
  rw [before, Firmware.queued]
  simp only [free, nobody, queued]
  split
  · next empty =>
      rw [if_pos empty] at data
      obtain ⟨rfl, same⟩ := data
      cases still rfl
      exact ⟨rfl, after.trans same⟩
  · next some =>
      rw [if_neg some] at data
      obtain ⟨rfl, same⟩ := data
      have afterSent : ({ st with kernel := k }.addSent c
          packet.words).pending b c = s'.dataIn b c (st.view c).reader := by
        refine Eq.trans ?_ after
        cases c with
        | ep2Rx | ep5Rx => rfl
        | ep2Tx | ep5Tx | epExch => cases out
      rw [if_pos rfl, afterSent]
      exact ⟨by simp [Firmware.addSent], same⟩

/-- The first packet is stored. -/
theorem packet_lost_iff_first : ∃ (st st' : Firmware) (payload : List Word),
    FirmwareRun .sample st ∧
      Board.sample.epRxInt 16 .ep2Rx (some .sample)
        { st with kernel := st.kernel.enterIrq } = some st' ∧
      UsbPacket.sample.words <+: payload ∧
        st'.pending .sample .ep2Rx = st.pending .sample .ep2Rx ++ [payload] := by
  obtain ⟨st, run, found⟩ := FirmwareRun.of_script
    (show ((Board.sample.makeCalls 16 Board.sample.tnAppInit .started).bind
      fun k => k.settle .firmware fun k => (Firmware.booted k).follow
        .sample 16 .firmware []).any (fun st => decide (
          (st.kernel.fmp (Board.sample.memPool .ep2Rx)).fblkcnt ≠ 0 ∧
          (st.queued .sample .ep2Rx).length = 0)) = true by decide +kernel)
  obtain ⟨free, room⟩ := of_decide_eq_true found
  obtain ⟨st', int, outcome⟩ := packet_lost_iff run (c := .ep2Rx) rfl .sample 16
  rw [if_neg free, if_neg fun full => by
    rw [room] at full
    cases full.2] at outcome
  obtain ⟨-, payload, fits, stored⟩ := outcome
  exact ⟨st, st', payload, run, int, fits, stored⟩

/-! ## No service fails -/

/-- The tasks do not look at what `tn_queue_send` and `tn_fmem_release` return, and
they need not: no service that a task calls fails, and no wait ends with an error. -/
theorem services_succeed {build : Build} {b : Board build} {st : Firmware}
    {task : AppTask} (reached : Reached b st) (runs : st.Runs (b.task task)) :
    (∀ call, b.nextCall st task = some call → b.Succeeds st.kernel call) ∧
      (st.Returns task →
        (st.kernel.tcb (b.task task)).taskWaitRc = .noErr) := by
  obtain ⟨lists, s, held, sound⟩ := reached.sound
  exact sound.succeeds runs

/-- A task waits for a place in its queue, and the host reads a packet. -/
def roomScript : List FirmwareMove :=
  (waitMoves 16).map .task ++ [.usb (.bulk .ep2Tx)]

/-- A task receives, and another one has been waiting for a place in its queue. -/
theorem services_succeed_sample :
    (∃ st, FirmwareRun .sample st ∧ Board.sample.Succeeds st.kernel
      (.queueReceive (some 4) true tnWaitInfinite)) ∧
    ∃ st, FirmwareRun .sample st ∧ st.ep2Tx = .sending ∧
      (st.kernel.tcb (Board.sample.task .ep2Tx)).taskWaitRc = .noErr := by
  constructor
  · obtain ⟨st, run, found⟩ := FirmwareRun.of_script
      (show ((Board.sample.makeCalls 16 Board.sample.tnAppInit .started).bind
        fun k => k.settle .firmware fun k => (Firmware.booted k).follow
          .sample 16 .firmware (wakeMoves.map .task)).any (fun st => decide (
            (st.kernel.tnCurrRunTask = 7 ∧
              (st.kernel.tcb 7).taskState = .runnable) ∧
            st.relay .ep5Tx = .receive)) = true by decide +kernel)
    obtain ⟨⟨current, runnable⟩, receive⟩ := of_decide_eq_true found
    have runs : st.Runs (Board.sample.task .ep5Tx) := ⟨current, runnable⟩
    refine ⟨st, run, (services_succeed (.noDma run) runs).1 _ ?_⟩
    unfold Board.nextCall Board.nextCall.relayCall
    rw [receive]
    rfl
  · obtain ⟨st, run, found⟩ := FirmwareRun.of_script
      (show ((Board.sample.makeCalls 16 Board.sample.tnAppInit .started).bind
        fun k => k.settle .firmware fun k => (Firmware.booted k).follow
          .sample 16 .firmware roomScript).any (fun st => decide (
            (st.kernel.tnCurrRunTask = 5 ∧
              (st.kernel.tcb 5).taskState = .runnable) ∧
            st.ep2Tx = .sending)) = true by decide +kernel)
    obtain ⟨⟨current, runnable⟩, here⟩ := of_decide_eq_true found
    have runs : st.Runs (Board.sample.task .ep2Tx) := ⟨current, runnable⟩
    exact ⟨st, run, here, (services_succeed (.noDma run) runs).2 (.inr here)⟩

end UsbBulk
