import UsbBulk.Usb.DmaFirmwareScript
import UsbBulk.Usb.Loopback

/-!
# What the firmware with DMA does with its data

On a calm bus every packet that the engine takes from the bus goes its way.  On the way
out a payload is taken from the queue when the engine asks for a descriptor.
-/

namespace UsbBulk

/-! ## Nothing is lost -/

theorem forall₂_trans {α β γ : Type} {r : α → β → Prop} {r' : β → γ → Prop}
    {r'' : α → γ → Prop} {xs : List α} {ys : List β} {zs : List γ}
    (trans : ∀ x y z, r x y → r' y z → r'' x z) (first : List.Forall₂ r xs ys)
    (second : List.Forall₂ r' ys zs) : List.Forall₂ r'' xs zs := by
  induction first generalizing zs with
  | nil =>
      cases second
      exact .nil
  | cons head _ ih =>
      cases second with
      | cons head' tail' => exact .cons (trans _ _ _ head head') (ih tail')

/-- The payload that waits in the USB RAM. -/
def DmaFirmware.underway {build : Build} (st : DmaFirmware) (b : Board build)
    (e : Endpoint) : List (List Word) :=
  if st.engine.eotIntSt e then [b.found st e] else []

section Calm

variable {b : Board (.dma .calm)} {st : DmaFirmware} {lists : Lists} {s : Shared}
variable {held : Lane → Held} {e : Endpoint}

/-- What has come in from an endpoint has been used, or is in its lane, or waits in the
USB RAM. -/
theorem DmaSound.delivers (sound : DmaSound b st lists s held)
    (out : e.lane.isOut = true) :
    List.Forall₂ Carries (st.acknowledged e) ((st.view e.lane).done ++
      (st.pending b e.lane ++ st.underway b e)) := by
  obtain ⟨c, receives⟩ := sound.receiving rfl e out
  obtain ⟨kept, laneKept⟩ := sound.firmware.laneKept e.lane
  have arrived : st.arrived e c = st.underway b e := by
    have descriptors := receives.descriptors
    have current : (st.ep e).current (b.edi e) = e.epDmaAddr.dd c :=
      descriptors.current
    have buffer : st.engine.ram (wordAt (e.epDmaAddr.dd c) 5) =
        e.epDmaAddr.buffer c := descriptors.buffer c descriptors.bounded
    rw [DmaFirmware.arrived, DmaFirmware.underway, Board.found, current, buffer]
  -- No payload of the lane is missing.
  have missing := laneKept.missing
  rw [laneKept.lossless rfl] at missing
  have all := missing.eq_of_nothing
  rw [Firmware.view_sent] at all
  have stream := laneKept.stream
  rw [all] at stream
  have delivered := receives.delivered
  rw [arrived] at delivered
  rw [← List.append_assoc]
  refine forall₂_trans (fun packet payload payload' carries matching => ?_)
    delivered (List.rel_append (R := (· <+: ·)) (stream.imp fun _ _ matching => ?_)
      (List.forall₂_same.mpr fun _ _ => List.prefix_rfl))
  · exact carries.trans matching
  · rwa [Lane.Matches, if_pos out] at matching

/-- A packet comes in when all tasks but one wait, and two tasks copy it. -/
def dmaPassScript : List DmaMove :=
  (waitMoves 14).map .task ++ [.transfer .ep2Rx .sample, .interrupt] ++
    copyMoves.map .task

/-- Both tasks that copy wait for data, and the data of a packet is on its way. -/
theorem dma_packet_passes : ∃ st, DmaFirmwareRun .sampleDma st ∧
    (∀ r, st.Sleeps .sampleDma r) ∧
      (st.pending .sampleDma .ep5Tx).map (List.take 2) = [[1, 2]] ∧
      (st.acknowledged .ep2Rx).map UsbPacket.words = [[1, 2]] := by
  obtain ⟨st, run, found⟩ := DmaFirmwareRun.of_script
    (show ((Board.sampleDma.makeCalls 16 Board.sampleDma.tnAppInit .started).bind
      fun k => k.settle .firmware fun k => (DmaFirmware.booted k).follow
        .sampleDma 16 .firmware dmaPassScript).any (fun st => decide (
          (st.relay .ep2Rx = .receiving ∧ st.relay .ep5Tx = .receiving) ∧
          (st.kernel.noWaiters (.dqueReceive 0) = false ∧
            st.kernel.noWaiters (.dqueReceive 4) = false) ∧
          (st.pending .sampleDma .ep5Tx).map (List.take 2) = [[1, 2]] ∧
          (st.acknowledged .ep2Rx).map UsbPacket.words = [[1, 2]])) = true
      by decide +kernel)
  obtain ⟨⟨first, second⟩, ⟨waits, waits'⟩, pending⟩ := of_decide_eq_true found
  refine ⟨st, run, fun r => ?_, pending⟩
  unfold Firmware.Sleeps
  cases r with
  | ep2Rx =>
      rw [first]
      exact waits
  | ep5Tx =>
      rw [second]
      exact waits'

/-- On a calm bus no packet is lost: the packets from EP2 have been taken out for EP5,
or are on their way there, in the same order, and the packets from EP5 have been used by
its task, or are on their way to it. -/
theorem dma_loopback_stream (run : DmaFirmwareRun b st) :
    List.Forall₂ Carries (st.acknowledged .ep2Rx)
        (st.left .ep5Tx ++ (st.pending b .ep5Tx ++ (st.pending b .epExch ++
          (st.pending b .ep2Rx ++ st.underway b .ep2Rx)))) ∧
      List.Forall₂ Carries (st.acknowledged .ep5Rx)
        (st.left .ep5Rx ++ (st.pending b .ep5Rx ++ st.underway b .ep5Rx)) := by
  obtain ⟨lists, s, held, sound⟩ := run.sound
  refine ⟨?_, @DmaSound.delivers _ _ _ _ _ .ep5Rx sound rfl⟩
  have delivers := @DmaSound.delivers _ _ _ _ _ .ep2Rx sound rfl
  have exch : st.sent .epExch = st.sent .ep5Tx ++ st.pending b .epExch :=
    sound.firmware.inner .epExch rfl
  have last : st.sent .ep5Tx = st.left .ep5Tx ++ st.pending b .ep5Tx :=
    sound.firmware.inner .ep5Tx rfl
  change List.Forall₂ _ _ (st.sent .epExch ++ _) at delivers
  rwa [exch, last, List.append_assoc, List.append_assoc] at delivers

theorem dma_loopback_stream_passing : ∃ st, DmaFirmwareRun .sampleDma st ∧
    (st.acknowledged .ep2Rx).map UsbPacket.words = [[1, 2]] ∧
      List.Forall₂ Carries (st.acknowledged .ep2Rx)
        (st.left .ep5Tx ++ (st.pending .sampleDma .ep5Tx ++
          (st.pending .sampleDma .epExch ++ (st.pending .sampleDma .ep2Rx ++
            st.underway .sampleDma .ep2Rx)))) := by
  obtain ⟨st, run, -, -, acknowledged⟩ := dma_packet_passes
  exact ⟨st, run, acknowledged, (dma_loopback_stream run).1⟩

end Calm

/-! ## The data goes out -/

/-- The loop-back does not get stuck, also if the bus is wild: when both tasks sleep and
there is data on its way, the next request of EP5 takes the data that has been on its
way for the longest time, and copies it if a descriptor is retired. -/
theorem dma_loopback_drains {bus : Bus} {b : Board (.dma bus)} {st : DmaFirmware}
    (run : DmaFirmwareRun b st) (sleeps : ∀ r, st.Sleeps b r) {words : List Word}
    {rest : List (List Word)} (pending : st.pending b .ep5Tx ++
      (st.pending b .epExch ++ st.pending b .ep2Rx) = words :: rest) (fuel : Nat) :
    ∃ st', b.txDdRequest fuel .ep5Tx (st.setKernel st.kernel.enterIrq) = some st' ∧
      st'.left .ep5Tx = st.left .ep5Tx ++ [words] ∧
      ∀ dd, retiredFrom st.engine.ram 7 Endpoint.ep5Tx.epDmaAddr.pDD = some dd →
        payloadAt st'.engine.ram (wordAt dd 5) = words ∧
          st'.engine.ram Endpoint.ep5Tx.table.pUdcaPos = dd := by
  obtain ⟨lists, s, held, ⟨sound, _⟩⟩ := run.sound
  obtain ⟨first, left, items, rfl⟩ := sound.oldest sleeps pending
  have entered : b.Hosts False st.kernel.enterIrq lists s :=
    Shares.enterIrq sound.hosts
  obtain ⟨k, lists', s', answers, _⟩ := entered.txInt sound.net
    sound.atTask.wrongIntContext (.inr rfl) rfl fuel
  rw [items] at answers
  obtain ⟨ep, request⟩ := @epTxIntDdRequest_answers .ep5Tx _ b _
    ((st.setKernel st.kernel.enterIrq).ep .ep5Tx) _ _ answers
  have request : epTxIntDdRequest fuel (b.edi .ep5Tx)
      ((st.setKernel st.kernel.enterIrq).ep .ep5Tx) =
        some (ep, some (payloadAt s.mem first)) := request
  have served : b.txDdRequest fuel .ep5Tx (st.setKernel st.kernel.enterIrq) = _ :=
    congrArg (Option.bind · _) request
  refine ⟨_, served, ?_, fun dd found => epTxIntDdRequest_copies request found⟩
  simp [DmaFirmware.setFirmware, DmaFirmware.setEp, DmaFirmware.setKernel,
    Firmware.addLeft, Endpoint.lane]

theorem dma_loopback_drains_passing : ∃ (st st' : DmaFirmware) (words : List Word),
    DmaFirmwareRun .sampleDma st ∧ words.take 2 = [1, 2] ∧
      Board.sampleDma.txDdRequest 16 .ep5Tx (st.setKernel st.kernel.enterIrq) =
        some st' ∧
      st'.left .ep5Tx = st.left .ep5Tx ++ [words] := by
  obtain ⟨st, run, sleeps, data, -⟩ := dma_packet_passes
  cases pending : st.pending .sampleDma .ep5Tx with
  | nil =>
      rw [pending] at data
      cases data
  | cons words rest =>
      rw [pending] at data
      have first : words.take 2 = [1, 2] := (List.cons.inj data).1
      obtain ⟨st', request, left, -⟩ := dma_loopback_drains run sleeps
        ((congrArg (· ++ _) pending).trans (List.cons_append ..)) 16
      exact ⟨st, st', words, run, first, request, left⟩

end UsbBulk
