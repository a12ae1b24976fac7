import UsbBulk.Usb.Firmware
import UsbBulk.Usb.TxStream

/-!
# Lanes

A lane is a pool of blocks and a queue for them, with a producer that fills blocks
and a reader that empties them; either of them may be an interrupt routine.  What
the two parties do is a transition system on the abstract state of the queues and
pools.
-/

namespace UsbBulk

/-! ## Lists that lack an element -/

/-- `kept` is `all` without as many elements as there are lost blocks, of which there
is at most one. -/
inductive Missing {α β : Type} : List β → List α → List α → Prop where
  | nothing {all : List α} : Missing [] all all
  | one {block : β} {before after : List α} {value : α} :
      Missing [block] (before ++ value :: after) (before ++ after)

namespace Missing

variable {α β : Type} {lost : List β} {all kept : List α}

theorem append (missing : Missing lost all kept) (value : α) :
    Missing lost (all ++ [value]) (kept ++ [value]) := by
  cases missing with
  | nothing => exact .nothing
  | one =>
      rw [List.append_assoc, List.append_assoc]
      exact .one

theorem lose (missing : Missing ([] : List β) all kept) (block : β) (value : α) :
    Missing [block] (all ++ [value]) kept := by
  cases missing with
  | nothing =>
      have one := @Missing.one _ _ block all [] value
      rwa [List.append_nil] at one

theorem eq_of_nothing (missing : Missing ([] : List β) all kept) :
    kept = all := by
  cases missing with
  | nothing => rfl

theorem length_le (missing : Missing lost all kept) : lost.length ≤ 1 := by
  cases missing with
  | nothing => exact Nat.zero_le 1
  | one => exact Nat.le_refl 1

end Missing

/-! ## The places of the blocks -/

/-- What the two parties of a lane are doing, with the data that has been put into
the lane and the data that the reader is done with. -/
structure LaneView where
  producer : Producer
  reader : Reader
  sent : List (List Word)
  done : List (List Word)

/-- The blocks of a lane that are neither free nor in the queue: those of the
producer, the one it waits with, those of the reader, those among them that it has
not used, and those that nobody has. -/
structure Held where
  hands : List Word
  blocked : List Word
  owned : List Word
  unread : List Word
  lost : List Word

/-- The blocks of the reader, and those among them that it has not used. -/
inductive Reading (task : TaskId) (d : DqueId) (s : Shared) :
    Reader → List Word → List Word → Prop where
  | receive (nobody : s.waiting (.dqueReceive d) = []) :
      Reading task d s .receive [] []
  | asleep (waiting : s.waiting (.dqueReceive d) = [task])
      (empty : s.items d = []) : Reading task d s .receiving [] []
  | served (nobody : s.waiting (.dqueReceive d) = [])
      (noErr : s.waitRc task = .noErr) :
      Reading task d s .receiving [s.elem task] [s.elem task]
  | processing {ptr : Word} (nobody : s.waiting (.dqueReceive d) = []) :
      Reading task d s (.processing ptr) [ptr] [ptr]
  | release {ptr : Word} (nobody : s.waiting (.dqueReceive d) = []) :
      Reading task d s (.release ptr) [ptr] []

namespace Lane

/-- The data of an OUT packet is at the start of its payload; all other data is a
whole payload. -/
def Matches (c : Lane) (words payload : List Word) : Prop :=
  if c.isOut then words <+: payload else words = payload

/-- The interrupt routine may drop a packet.  With DMA on a calm bus there is a place
for every packet before the engine takes it from the bus. -/
def drops (build : Build) (c : Lane) : Bool :=
  match build with
  | .noDma | .dma .wild => c.isOut
  | .dma .calm => false

theorem two_le_size (c : Lane) (build : Build) : 2 ≤ c.size build := by
  cases build <;> cases c <;> simp [size]

theorem room_ne_zero (c : Lane) (build : Build) : c.size build - 1 ≠ 0 := by
  have two := c.two_le_size build
  omega

theorem drops_of_notOut {c : Lane} (build : Build) (notOut : c.isOut = false) :
    c.drops build = false := by
  rcases build with _ | _ | _
  · exact notOut
  · exact notOut
  · rfl

end Lane

namespace Board

variable {build : Build} (b : Board build)

/-- The task that fills the blocks of the lane, unless an interrupt routine does. -/
def producerTask : Lane → TaskId
  | .ep2Tx => b.task .ep2Tx
  | .epExch => b.task .ep2Rx
  | .ep5Tx => b.task .ep5Tx
  | .ep2Rx | .ep5Rx => b.image.idleTask

/-- The task that empties the blocks of the lane, unless an interrupt routine does. -/
def readerTask : Lane → TaskId
  | .ep2Rx => b.task .ep2Rx
  | .epExch => b.task .ep5Tx
  | .ep5Rx => b.task .ep5Rx
  | .ep2Tx | .ep5Tx => b.image.idleTask

def region (c : Lane) : Region where
  start := b.poolMem c
  count := c.size build
  bounded := Nat.le_of_lt (b.bounded c)
  notNull := b.notNull c

end Board

/-- The lane is in order. -/
structure LaneSound {build : Build} (b : Board build) (c : Lane)
    (v : LaneView) (s : Shared) (h : Held) : Prop where
  capacity : s.capacity (b.queue c) = c.size build - 1
  total : s.total (b.memPool c) = c.size build
  stock : (s.free (b.memPool c) ++ (s.items (b.queue c) ++ h.blocked ++
    (h.hands ++ (h.owned ++ h.lost)))).Perm (b.region c).blocks
  producing : Producing (b.producerTask c) (b.queue c) (b.memPool c) s
    v.producer h.hands h.blocked
  reading : Reading (b.readerTask c) (b.queue c) s v.reader h.owned h.unread
  lossless : c.drops build = false → h.lost = []
  stream : ∃ kept, Missing h.lost v.sent kept ∧
    List.Forall₂ c.Matches kept (v.done ++
      (h.unread ++ (s.items (b.queue c) ++ h.blocked)).map
        (payloadAt s.mem))

/-! ## The steps -/

/-- One step of the producer or of the reader. -/
inductive LaneStep {build : Build} (b : Board build) (c : Lane) :
    LaneView → Shared → LaneView → Shared → Prop where
  /-- The producer gets a block. -/
  | take {v : LaneView} {s s' : Shared} {block : Word}
      (here : v.producer = .get)
      (got : s.get (b.memPool c) = some (block, s')) :
      LaneStep b c v s { v with producer := .filling block } s'
  /-- The producer has to wait for a block. -/
  | await {v : LaneView} {s : Shared} (here : v.producer = .get)
      (none : s.get (b.memPool c) = none) :
      LaneStep b c v s { v with producer := .getting }
        (s.sleep (.fmp (b.memPool c)) (b.producerTask c))
  /-- The producer returns with the block that it has waited for. -/
  | taken {v : LaneView} {s : Shared} (here : v.producer = .getting)
      (awake : b.producerTask c ∉ s.waiting (.fmp (b.memPool c))) :
      LaneStep b c v s
        { v with producer := .filling (s.elem (b.producerTask c)) } s
  /-- The producer fills its block. -/
  | fill {v : LaneView} {s : Shared} {ptr : Word} {mem : Word → Word}
      (here : v.producer = .filling ptr)
      (inside : WritesInside (BitVec.ofNat 32 usbMaxPacket0) [ptr] s.mem
        mem) : LaneStep b c v s v (s.setMem mem)
  /-- The block is sent. -/
  | send {v : LaneView} {s s' : Shared} {ptr : Word} {words : List Word}
      (here : v.producer = .filling ptr)
      (fits : c.Matches words (payloadAt s.mem ptr))
      (accepted : s.send (b.queue c) ptr = some s') :
      LaneStep b c v s { v with
        producer := .get
        sent := v.sent ++ [words] } s'
  /-- The producer has to wait for a place in the queue. -/
  | stall {v : LaneView} {s : Shared} {ptr : Word} {words : List Word}
      (here : v.producer = .filling ptr)
      (fits : c.Matches words (payloadAt s.mem ptr))
      (refused : s.send (b.queue c) ptr = none) :
      LaneStep b c v s { v with
        producer := .sending
        sent := v.sent ++ [words] }
        ((s.give (b.producerTask c) ptr).sleep (.dqueSend (b.queue c))
          (b.producerTask c))
  /-- An interrupt routine does not wait for a place in the queue. -/
  | drop {v : LaneView} {s : Shared} {ptr : Word} {words : List Word}
      (may : c.drops build = true) (here : v.producer = .filling ptr)
      (refused : s.send (b.queue c) ptr = none) :
      LaneStep b c v s { v with
        producer := .get
        sent := v.sent ++ [words] } s
  /-- The producer returns from its wait for a place. -/
  | stored {v : LaneView} {s : Shared} (here : v.producer = .sending)
      (awake : b.producerTask c ∉ s.waiting (.dqueSend (b.queue c))) :
      LaneStep b c v s { v with producer := .get } s
  /-- The reader receives a block. -/
  | receive {v : LaneView} {s s' : Shared} {block : Word}
      (here : v.reader = .receive)
      (received : s.receive (b.queue c) = some (block, s')) :
      LaneStep b c v s { v with reader := .processing block } s'
  /-- The reader has to wait. -/
  | listen {v : LaneView} {s : Shared} (here : v.reader = .receive)
      (none : s.receive (b.queue c) = none) :
      LaneStep b c v s { v with reader := .receiving }
        (s.sleep (.dqueReceive (b.queue c)) (b.readerTask c))
  /-- The reader returns with the block that it has waited for. -/
  | served {v : LaneView} {s : Shared} (here : v.reader = .receiving)
      (awake : b.readerTask c ∉ s.waiting (.dqueReceive (b.queue c))) :
      LaneStep b c v s
        { v with reader := .processing (s.elem (b.readerTask c)) } s
  /-- The reader has used its block. -/
  | finish {v : LaneView} {s : Shared} {ptr : Word}
      (here : v.reader = .processing ptr) :
      LaneStep b c v s { v with
        reader := .release ptr
        done := v.done ++ [payloadAt s.mem ptr] } s
  /-- The reader releases its block. -/
  | release {v : LaneView} {s : Shared} {ptr : Word}
      (here : v.reader = .release ptr) :
      LaneStep b c v s { v with reader := .receive }
        (s.release (b.memPool c) ptr)

/-! ## The steps keep a lane in order -/

section Views

variable {task : TaskId} {d : DqueId} {f : FmpId} {s s' : Shared}
variable {producer : Producer} {reader : Reader}
variable {hands blocked owned unread : List Word}

theorem Reading.congr (reading : Reading task d s reader owned unread)
    (waiting : s'.waiting (.dqueReceive d) = s.waiting (.dqueReceive d))
    (items : s.waiting (.dqueReceive d) ≠ [] → s'.items d = s.items d)
    (own : reader = .receiving →
      s'.elem task = s.elem task ∧ s'.waitRc task = s.waitRc task) :
    Reading task d s' reader owned unread := by
  cases reading with
  | receive nobody => exact .receive (waiting.trans nobody)
  | asleep waits empty =>
      exact .asleep (waiting.trans waits)
        ((items (by simp [waits])).trans empty)
  | served nobody noErr =>
      obtain ⟨elem, waitRc⟩ := own rfl
      rw [← elem]
      exact .served (waiting.trans nobody) (waitRc.trans noErr)
  | processing nobody => exact .processing (waiting.trans nobody)
  | release nobody => exact .release (waiting.trans nobody)

theorem Reading.handed {ptr : Word} :
    Reading task d ((s.give task ptr).wake (.dqueReceive d) task [])
      .receiving [ptr] [ptr] := by
  obtain ⟨s', isAfter⟩ : ∃ s', s' =
    (s.give task ptr).wake (.dqueReceive d) task [] := ⟨_, rfl⟩
  have elem : s'.elem task = ptr := by
    simp [isAfter, Shared.wake, Shared.give]
  rw [← isAfter]
  nth_rewrite 1 2 [← elem]
  exact .served (by simp [isAfter, Shared.wake])
    (by simp [isAfter, Shared.wake])

/-- The producer is inside a service and may wait there. -/
def Producer.inside : Producer → Prop
  | .getting | .sending => True
  | .get | .filling _ => False

theorem Producing.congr
    (producing : Producing task d f s producer hands blocked)
    (takers : s'.waiting (.fmp f) = s.waiting (.fmp f))
    (senders : s'.waiting (.dqueSend d) = s.waiting (.dqueSend d))
    (free : s.waiting (.fmp f) ≠ [] → s'.free f = s.free f)
    (items : s.waiting (.dqueSend d) ≠ [] → s'.items d = s.items d)
    (capacity : s'.capacity d = s.capacity d)
    (own : producer.inside →
      s'.elem task = s.elem task ∧ s'.waitRc task = s.waitRc task) :
    Producing task d f s' producer hands blocked := by
  cases producing with
  | get nobody noSender =>
      exact .get (takers.trans nobody) (senders.trans noSender)
  | asleep waiting empty noSender =>
      exact .asleep (takers.trans waiting)
        ((free (by simp [waiting])).trans empty) (senders.trans noSender)
  | given nobody noSender noErr =>
      obtain ⟨elem, waitRc⟩ := own trivial
      rw [← elem]
      exact .given (takers.trans nobody) (senders.trans noSender)
        (waitRc.trans noErr)
  | filling nobody noSender =>
      exact .filling (takers.trans nobody) (senders.trans noSender)
  | blocked nobody waiting full =>
      obtain ⟨elem, _⟩ := own trivial
      rw [← elem]
      exact .blocked (takers.trans nobody) (senders.trans waiting)
        (by rw [items (by simp [waiting]), capacity, full])
  | stored nobody noSender noErr =>
      exact .stored (takers.trans nobody) (senders.trans noSender)
        ((own trivial).2.trans noErr)

theorem Producing.supplied {ptr : Word}
    (noSender : s.waiting (.dqueSend d) = []) :
    Producing task d f ((s.give task ptr).wake (.fmp f) task []) .getting
      [ptr] [] := by
  obtain ⟨s', isAfter⟩ : ∃ s', s' =
    (s.give task ptr).wake (.fmp f) task [] := ⟨_, rfl⟩
  have elem : s'.elem task = ptr := by
    simp [isAfter, Shared.wake, Shared.give]
  rw [← isAfter]
  nth_rewrite 1 [← elem]
  refine .given ?_ ?_ ?_
  · simp [isAfter, Shared.wake]
  · simpa [isAfter, Shared.wake, Shared.give] using noSender
  · simp [isAfter, Shared.wake]

/-- A task waits with its block for a place in the queue. -/
theorem Producing.stalled {ptr : Word} (nobody : s.waiting (.fmp f) = [])
    (noSender : s.waiting (.dqueSend d) = [])
    (full : (s.items d).length = s.capacity d) :
    Producing task d f ((s.give task ptr).sleep (.dqueSend d) task)
      .sending [] [ptr] := by
  obtain ⟨s', isAfter⟩ : ∃ s', s' =
    (s.give task ptr).sleep (.dqueSend d) task := ⟨_, rfl⟩
  have elem : s'.elem task = ptr := by
    simp [isAfter, Shared.sleep, Shared.give]
  rw [← isAfter]
  nth_rewrite 1 [← elem]
  refine .blocked ?_ ?_ ?_
  · simpa [isAfter, Shared.sleep, Shared.give] using nobody
  · simp [isAfter, Shared.sleep, Shared.give, noSender]
  · simpa [isAfter, Shared.sleep, Shared.give] using full

end Views

namespace LaneSound

variable {build : Build} {b : Board build} {c : Lane} {v : LaneView}
variable {s s' : Shared} {h : Held}
variable {block ptr : Word} {words : List Word} {mem : Word → Word}

theorem total_count (sound : LaneSound b c v s h) :
    (s.free (b.memPool c)).length + ((s.items (b.queue c)).length +
      h.blocked.length + (h.hands.length + (h.owned.length +
        h.lost.length))) = c.size build := by
  simpa [Nat.add_assoc, Board.region] using sound.stock.length_eq

theorem unread_owned (sound : LaneSound b c v s h) :
    ∀ other ∈ h.unread, other ∈ h.owned := by
  have reading := sound.reading
  generalize v.reader = reader, h.owned = owned, h.unread = unread at reading
  cases reading with
  | receive | asleep | release => exact fun _ absurd => nomatch absurd
  | served | processing => exact fun _ member => member

theorem used_nodup (sound : LaneSound b c v s h) :
    (s.items (b.queue c) ++ h.blocked ++
      (h.hands ++ (h.owned ++ h.lost))).Nodup :=
  (sound.stock.nodup_iff.mpr (b.region c).nodup).of_append_right

/-- A write inside a block that is in the hands of the producer, or that the reader
is done with. -/
theorem payloads (sound : LaneSound b c v s h)
    (inside : WritesInside (BitVec.ofNat 32 usbMaxPacket0) [block] s.mem mem)
    (own : block ∈ h.hands ∨ block ∈ h.owned ∧ h.unread = []) :
    (∀ other ∈ s.free (b.memPool c), mem other = s.mem other) ∧
      (h.unread ++ (s.items (b.queue c) ++ h.blocked)).map
          (payloadAt mem) =
        (h.unread ++ (s.items (b.queue c) ++ h.blocked)).map
          (payloadAt s.mem) := by
  have owned := sound.unread_owned
  have nodup := sound.used_nodup
  simp only [List.nodup_append, List.mem_append] at nodup
  obtain ⟨free, used⟩ := Region.frame sound.stock inside
    (by simp only [List.mem_append]; tauto)
  refine ⟨free, List.map_congr_left fun other member => used other ?_ ?_⟩
  · simp only [List.mem_append] at member ⊢
    rcases member with unread | items | waits
    · exact .inr (.inr (.inl (owned other unread)))
    · exact .inl (.inl items)
    · exact .inl (.inr waits)
  · rintro rfl
    simp only [List.mem_append] at member
    grind

/-! ### The producer -/

theorem take (sound : LaneSound b c v s h) (here : v.producer = .get)
    (got : s.get (b.memPool c) = some (block, s')) :
    LaneSound b c { v with producer := .filling block } s'
      { h with hands := [block] } := by
  obtain ⟨producer, reader, sent, done⟩ := v
  obtain ⟨hands, blocked, owned, unread, lost⟩ := h
  obtain ⟨capacity, total, stock, producing, reading, lossless, stream⟩ := sound
  obtain rfl : producer = .get := here
  obtain ⟨free, isFree, rfl⟩ := Shared.get_eq_some.mp got
  cases producing with
  | get nobody noSender =>
  refine ⟨capacity, total, ?_, .filling nobody noSender,
    reading.congr rfl (fun _ => rfl) fun _ => ⟨rfl, rfl⟩, lossless, stream⟩
  refine List.Perm.trans ?_ stock
  simp only [Shared.setFree, Function.update_self, isFree]
  grind

theorem await (sound : LaneSound b c v s h) (here : v.producer = .get)
    (none : s.get (b.memPool c) = none) :
    LaneSound b c { v with producer := .getting }
      (s.sleep (.fmp (b.memPool c)) (b.producerTask c)) h := by
  obtain ⟨producer, reader, sent, done⟩ := v
  obtain ⟨hands, blocked, owned, unread, lost⟩ := h
  obtain ⟨capacity, total, stock, producing, reading, lossless, stream⟩ := sound
  obtain rfl : producer = .get := here
  have empty := Shared.get_eq_none.mp none
  cases producing with
  | get nobody noSender =>
  refine ⟨capacity, total, stock, .asleep ?_ empty ?_,
    reading.congr (by simp [Shared.sleep]) (fun _ => rfl) fun _ => ⟨rfl, rfl⟩,
    lossless, stream⟩
  · simp [Shared.sleep, nobody]
  · simpa [Shared.sleep] using noSender

theorem taken (sound : LaneSound b c v s h) (here : v.producer = .getting)
    (awake : b.producerTask c ∉ s.waiting (.fmp (b.memPool c))) :
    s.waitRc (b.producerTask c) = .noErr ∧
      LaneSound b c
        { v with producer := .filling (s.elem (b.producerTask c)) } s h := by
  obtain ⟨producer, reader, sent, done⟩ := v
  obtain ⟨hands, blocked, owned, unread, lost⟩ := h
  obtain ⟨capacity, total, stock, producing, reading, lossless, stream⟩ := sound
  obtain rfl : producer = .getting := here
  cases producing with
  | asleep waiting => simp [waiting] at awake
  | given nobody noSender noErr =>
      exact ⟨noErr, capacity, total, stock, .filling nobody noSender, reading,
        lossless, stream⟩

theorem filling (sound : LaneSound b c v s h)
    (here : v.producer = .filling ptr) :
    s.waiting (.fmp (b.memPool c)) = [] ∧
      s.waiting (.dqueSend (b.queue c)) = [] ∧ h.hands = [ptr] ∧
      h.blocked = [] := by
  have producing := sound.producing
  rw [here] at producing
  generalize h.hands = hands, h.blocked = blocked at producing
  cases producing with
  | filling nobody noSender => exact ⟨nobody, noSender, rfl, rfl⟩

theorem fill (sound : LaneSound b c v s h) (here : v.producer = .filling ptr)
    (inside : WritesInside (BitVec.ofNat 32 usbMaxPacket0) [ptr] s.mem mem) :
    LaneSound b c v (s.setMem mem) h := by
  obtain ⟨_, _, hands, _⟩ := sound.filling here
  obtain ⟨_, same⟩ := sound.payloads inside (.inl (by simp [hands]))
  obtain ⟨capacity, total, stock, producing, reading, lossless, stream⟩ := sound
  refine ⟨capacity, total, stock,
    producing.congr rfl rfl (fun _ => rfl) (fun _ => rfl) rfl
      fun _ => ⟨rfl, rfl⟩,
    reading.congr rfl (fun _ => rfl) fun _ => ⟨rfl, rfl⟩, lossless, ?_⟩
  change ∃ kept, _ ∧ List.Forall₂ _ _ (_ ++ List.map (payloadAt mem)
    (h.unread ++ (s.items (b.queue c) ++ h.blocked)))
  rw [same]
  exact stream

/-- The block that is sent is put behind those that are underway. -/
theorem pushed (sound : LaneSound b c v s h) (nothing : h.blocked = [])
    (fits : c.Matches words (payloadAt s.mem ptr)) :
    ∃ kept, Missing h.lost (v.sent ++ [words]) kept ∧
      List.Forall₂ c.Matches kept (v.done ++
        (h.unread ++ (s.items (b.queue c) ++ [ptr])).map
          (payloadAt s.mem)) := by
  obtain ⟨kept, missing, stream⟩ := sound.stream
  refine ⟨kept ++ [words], missing.append words, ?_⟩
  have longer := List.rel_append (R := c.Matches) stream
    (List.Forall₂.cons fits .nil)
  simpa [nothing] using longer

theorem send (sound : LaneSound b c v s h) (here : v.producer = .filling ptr)
    (fits : c.Matches words (payloadAt s.mem ptr))
    (accepted : s.send (b.queue c) ptr = some s') :
    ∃ h', LaneSound b c
      { v with producer := .get, sent := v.sent ++ [words] } s' h' := by
  obtain ⟨nobody, noSender, isHands, isBlocked⟩ := sound.filling here
  obtain ⟨kept, missing, stream⟩ := sound.pushed isBlocked fits
  obtain ⟨producer, reader, sent, done⟩ := v
  obtain ⟨hands, blocked, owned, unread, lost⟩ := h
  obtain ⟨capacity, total, stock, producing, reading, lossless, _⟩ := sound
  obtain rfl : hands = [ptr] := isHands
  obtain rfl : blocked = [] := isBlocked
  cases Shared.sent accepted with
  | handed waiting =>
      -- The reader waits, and gets the block at once.
      dsimp only at reading stream
      cases reading with
      | asleep waits empty =>
          rw [waiting] at waits
          cases waits
          refine ⟨⟨[], [], [ptr], [ptr], lost⟩, capacity, total, ?_,
            .get ?_ ?_, ?_, lossless, kept, missing, ?_⟩
          · simpa [Shared.wake, Shared.give, empty] using stock
          · simpa [Shared.wake, Shared.give] using nobody
          · simpa [Shared.wake, Shared.give] using noSender
          · exact .handed
          · simpa [Shared.wake, Shared.give, empty] using stream
      | receive gone | served gone | processing gone | release gone =>
          rw [waiting] at gone
          cases gone
  | stored nobodyWaits room =>
      refine ⟨⟨[], [], owned, unread, lost⟩, capacity, total, ?_,
        .get nobody noSender, ?_, lossless, kept, missing, ?_⟩
      · refine List.Perm.trans ?_ stock
        simp [Shared.setItems]
      · exact reading.congr rfl (fun some => absurd nobodyWaits some)
          fun _ => ⟨rfl, rfl⟩
      · simpa [Shared.setItems] using stream

/-- The queue is full, and all other blocks of the lane are in it. -/
theorem refused (sound : LaneSound b c v s h)
    (here : v.producer = .filling ptr)
    (refused : s.send (b.queue c) ptr = none) :
    s.waiting (.dqueReceive (b.queue c)) = [] ∧
      (s.items (b.queue c)).length = s.capacity (b.queue c) ∧
      h.owned = [] ∧ h.lost = [] := by
  obtain ⟨_, _, hands, _⟩ := sound.filling here
  have total := sound.total_count
  have capacity := sound.capacity
  obtain ⟨nobody, full⟩ := Shared.send_eq_none.mp refused
  rw [hands, full, capacity] at total
  simp only [List.length_singleton] at total
  have count := c.two_le_size build
  refine ⟨nobody, full, List.length_eq_zero_iff.mp ?_,
    List.length_eq_zero_iff.mp ?_⟩ <;> omega

theorem stall (sound : LaneSound b c v s h) (here : v.producer = .filling ptr)
    (fits : c.Matches words (payloadAt s.mem ptr))
    (refused : s.send (b.queue c) ptr = none) :
    ∃ h', LaneSound b c
      { v with producer := .sending, sent := v.sent ++ [words] }
      ((s.give (b.producerTask c) ptr).sleep (.dqueSend (b.queue c))
        (b.producerTask c)) h' := by
  obtain ⟨nobody, noSender, isHands, isBlocked⟩ := sound.filling here
  obtain ⟨kept, missing, stream⟩ := sound.pushed isBlocked fits
  obtain ⟨nobodyWaits, full, isOwned, isLost⟩ := sound.refused here refused
  obtain ⟨producer, reader, sent, done⟩ := v
  obtain ⟨hands, blocked, owned, unread, lost⟩ := h
  obtain ⟨capacity, total, stock, producing, reading, lossless, _⟩ := sound
  obtain rfl : hands = [ptr] := isHands
  obtain rfl : blocked = [] := isBlocked
  refine ⟨⟨[], [ptr], owned, unread, lost⟩, capacity, total, ?_,
    .stalled nobody noSender full, ?_, lossless, kept, missing, ?_⟩
  · refine List.Perm.trans ?_ stock
    simp [Shared.sleep, Shared.give]
  · refine reading.congr ?_ (fun some => absurd nobodyWaits some) ?_
    · simp [Shared.sleep, Shared.give]
    · intro isReceiving
      obtain rfl : reader = .receiving := isReceiving
      cases reading with
      | asleep waits =>
          rw [nobodyWaits] at waits
          cases waits
      | served => cases isOwned
  · simpa [Shared.sleep, Shared.give] using stream

theorem drop (sound : LaneSound b c v s h) (may : c.drops build = true)
    (here : v.producer = .filling ptr)
    (refused : s.send (b.queue c) ptr = none) :
    ∃ h', LaneSound b c
      { v with producer := .get, sent := v.sent ++ [words] } s h' := by
  obtain ⟨nobody, noSender, isHands, isBlocked⟩ := sound.filling here
  obtain ⟨_, _, _, isLost⟩ := sound.refused here refused
  obtain ⟨producer, reader, sent, done⟩ := v
  obtain ⟨hands, blocked, owned, unread, lost⟩ := h
  obtain ⟨capacity, total, stock, producing, reading, lossless, kept, missing,
    stream⟩ := sound
  obtain rfl : hands = [ptr] := isHands
  obtain rfl : blocked = [] := isBlocked
  obtain rfl : lost = [] := isLost
  refine ⟨⟨[], [], owned, unread, [ptr]⟩, capacity, total, ?_,
    .get nobody noSender, reading, fun never => ?_, kept, missing.lose ptr _,
    stream⟩
  · refine List.Perm.trans ?_ stock
    simp only [List.append_nil, List.nil_append]
    grind
  · exact absurd (may.symm.trans never) (by decide)

theorem stored (sound : LaneSound b c v s h) (here : v.producer = .sending)
    (awake : b.producerTask c ∉ s.waiting (.dqueSend (b.queue c))) :
    s.waitRc (b.producerTask c) = .noErr ∧
      LaneSound b c { v with producer := .get } s h := by
  obtain ⟨producer, reader, sent, done⟩ := v
  obtain ⟨hands, blocked, owned, unread, lost⟩ := h
  obtain ⟨capacity, total, stock, producing, reading, lossless, stream⟩ := sound
  obtain rfl : producer = .sending := here
  cases producing with
  | blocked _ waiting => simp [waiting] at awake
  | stored nobody noSender noErr =>
      exact ⟨noErr, capacity, total, stock, .get nobody noSender, reading,
        lossless, stream⟩

/-! ### The reader -/

theorem receive (sound : LaneSound b c v s h) (here : v.reader = .receive)
    (received : s.receive (b.queue c) = some (block, s')) :
    ∃ h', LaneSound b c { v with reader := .processing block } s' h' := by
  obtain ⟨producer, reader, sent, done⟩ := v
  obtain ⟨hands, blocked, owned, unread, lost⟩ := h
  obtain ⟨capacity, total, stock, producing, reading, lossless, kept, missing,
    stream⟩ := sound
  obtain rfl : reader = .receive := here
  have sender := producing.sender
  cases reading with
  | receive nobody =>
  cases Shared.received received with
  | refilled items waits =>
      -- The place of the first block is for the block of the producer.
      rcases sender with ⟨noSender, _⟩ |
        ⟨isSending, isHands, isBlocked, takers, isWaiting, _⟩
      · rw [noSender] at waits
        cases waits
      · rw [isWaiting] at waits
        cases waits
        dsimp only at isSending isHands isBlocked
        subst isSending isHands isBlocked
        refine ⟨⟨[], [], [block], [block], lost⟩, capacity, total, ?_,
          .stored ?_ ?_ ?_, .processing ?_, lossless, kept, missing, ?_⟩
        · refine List.Perm.trans ?_ stock
          simp only [Shared.wake, Shared.setItems, Function.update_self, items]
          grind
        · simpa [Shared.wake, Shared.setItems] using takers
        · simp [Shared.wake]
        · simp [Shared.wake]
        · simpa [Shared.wake, Shared.setItems] using nobody
        · simpa [Shared.wake, Shared.setItems, items] using stream
  | taken items waits =>
      refine ⟨⟨hands, blocked, [block], [block], lost⟩, capacity, total, ?_,
        producing.congr rfl rfl (fun _ => rfl) (fun some => absurd waits some)
          rfl fun _ => ⟨rfl, rfl⟩, .processing nobody, lossless, kept, missing,
        ?_⟩
      · refine List.Perm.trans ?_ stock
        simp only [Shared.setItems, Function.update_self, items]
        grind
      · simpa [Shared.setItems, items] using stream
  | handed items waits =>
      -- No task waits for a place in an empty queue.
      rcases sender with ⟨noSender, _⟩ | ⟨_, _, _, _, _, full⟩
      · rw [noSender] at waits
        cases waits
      · have two := c.two_le_size build
        rw [items, capacity, List.length_nil] at full
        omega

theorem listen (sound : LaneSound b c v s h) (here : v.reader = .receive)
    (none : s.receive (b.queue c) = none) :
    LaneSound b c { v with reader := .receiving }
      (s.sleep (.dqueReceive (b.queue c)) (b.readerTask c)) h := by
  obtain ⟨producer, reader, sent, done⟩ := v
  obtain ⟨hands, blocked, owned, unread, lost⟩ := h
  obtain ⟨capacity, total, stock, producing, reading, lossless, stream⟩ := sound
  obtain rfl : reader = .receive := here
  cases reading with
  | receive nobody =>
  refine ⟨capacity, total, stock, ?_,
    .asleep ?_ (Shared.receive_eq_none.mp none).1, lossless, stream⟩
  · exact producing.congr (by simp [Shared.sleep]) (by simp [Shared.sleep])
      (fun _ => rfl) (fun _ => rfl) rfl fun _ => ⟨rfl, rfl⟩
  · simp [Shared.sleep, nobody]

theorem served (sound : LaneSound b c v s h) (here : v.reader = .receiving)
    (awake : b.readerTask c ∉ s.waiting (.dqueReceive (b.queue c))) :
    s.waitRc (b.readerTask c) = .noErr ∧
      LaneSound b c
        { v with reader := .processing (s.elem (b.readerTask c)) } s h := by
  obtain ⟨producer, reader, sent, done⟩ := v
  obtain ⟨hands, blocked, owned, unread, lost⟩ := h
  obtain ⟨capacity, total, stock, producing, reading, lossless, stream⟩ := sound
  obtain rfl : reader = .receiving := here
  cases reading with
  | asleep waiting => simp [waiting] at awake
  | served nobody noErr =>
      exact ⟨noErr, capacity, total, stock, producing, .processing nobody,
        lossless, stream⟩

theorem finish (sound : LaneSound b c v s h)
    (here : v.reader = .processing ptr) :
    LaneSound b c { v with
      reader := .release ptr
      done := v.done ++ [payloadAt s.mem ptr] } s { h with unread := [] } := by
  obtain ⟨producer, reader, sent, done⟩ := v
  obtain ⟨hands, blocked, owned, unread, lost⟩ := h
  obtain ⟨capacity, total, stock, producing, reading, lossless, stream⟩ := sound
  obtain rfl : reader = .processing ptr := here
  cases reading with
  | processing nobody =>
      exact ⟨capacity, total, stock, producing, .release nobody, lossless,
        by simpa using stream⟩

theorem reads (sound : LaneSound b c v s h)
    (here : v.reader = .processing ptr) : h.owned = [ptr] := by
  have reading := sound.reading
  rw [here] at reading
  generalize h.owned = owned, h.unread = unread at reading
  cases reading with
  | processing => rfl

theorem releasing (sound : LaneSound b c v s h)
    (here : v.reader = .release ptr) :
    h.owned = [ptr] ∧ h.unread = [] := by
  have reading := sound.reading
  rw [here] at reading
  generalize h.owned = owned, h.unread = unread at reading
  cases reading with
  | release => exact ⟨rfl, rfl⟩

theorem release (sound : LaneSound b c v s h)
    (here : v.reader = .release ptr) :
    ∃ h', LaneSound b c { v with reader := .receive }
      (s.release (b.memPool c) ptr) h' := by
  obtain ⟨isOwned, isUnread⟩ := sound.releasing here
  obtain ⟨_, same⟩ := sound.payloads
    (writesInside_update ptr ((s.free (b.memPool c)).headD 0) s.mem)
    (.inr ⟨by simp [isOwned], isUnread⟩)
  obtain ⟨producer, reader, sent, done⟩ := v
  obtain ⟨hands, blocked, owned, unread, lost⟩ := h
  obtain ⟨capacity, total, stock, producing, reading, lossless, kept, missing,
    stream⟩ := sound
  obtain rfl : reader = .release ptr := here
  cases reading with
  | release nobody =>
  unfold Shared.release
  split
  · next t rest waits =>
      cases producing with
      | asleep waiting empty noSender =>
          rw [waiting] at waits
          cases waits
          refine ⟨⟨[ptr], [], [], [], lost⟩, capacity, total, ?_,
            .supplied noSender, .receive ?_, lossless, kept, missing, ?_⟩
          · refine List.Perm.trans ?_ stock
            simp only [Shared.wake, Shared.give]
            grind
          · simpa [Shared.wake, Shared.give] using nobody
          · simpa [Shared.wake, Shared.give] using stream
      | get gone | given gone | filling gone | blocked gone | stored gone =>
          rw [gone] at waits
          cases waits
  · next waits =>
      refine ⟨⟨hands, blocked, [], [], lost⟩, capacity, total, ?_,
        producing.congr rfl rfl (fun some => absurd waits some) (fun _ => rfl)
          rfl fun _ => ⟨rfl, rfl⟩, .receive nobody, lossless, kept, missing,
        ?_⟩
      · refine List.Perm.trans ?_ stock
        simp only [Shared.setMem, Shared.setFree, Function.update_self]
        grind
      · change List.Forall₂ _ _ (done ++ List.map
          (payloadAt (Function.update s.mem ptr _))
          ([] ++ (s.items (b.queue c) ++ blocked)))
        rw [same]
        exact stream

end LaneSound

theorem LaneStep.sound {build : Build} {b : Board build} {c : Lane}
    {v v' : LaneView} {s s' : Shared} {h : Held} (sound : LaneSound b c v s h)
    (step : LaneStep b c v s v' s') : ∃ h', LaneSound b c v' s' h' := by
  cases step with
  | take here got => exact ⟨_, sound.take here got⟩
  | await here none => exact ⟨_, sound.await here none⟩
  | taken here awake => exact ⟨_, (sound.taken here awake).2⟩
  | fill here inside => exact ⟨_, sound.fill here inside⟩
  | send here fits accepted => exact sound.send here fits accepted
  | stall here fits refused => exact sound.stall here fits refused
  | drop out here refused => exact sound.drop out here refused
  | stored here awake => exact ⟨_, (sound.stored here awake).2⟩
  | receive here received => exact sound.receive here received
  | listen here none => exact ⟨_, sound.listen here none⟩
  | served here awake => exact ⟨_, (sound.served here awake).2⟩
  | finish here => exact ⟨_, sound.finish here⟩
  | release here => exact sound.release here

/-! ## What a step leaves alone -/

/-- A lane cannot tell the two states apart, but for the control blocks of its tasks
and the contents of its blocks. -/
structure Unseen {build : Build} (b : Board build) (c : Lane)
    (s s' : Shared) : Prop where
  items : s'.items (b.queue c) = s.items (b.queue c)
  capacity : s'.capacity (b.queue c) = s.capacity (b.queue c)
  free : s'.free (b.memPool c) = s.free (b.memPool c)
  total : s'.total (b.memPool c) = s.total (b.memPool c)
  takers : s'.waiting (.fmp (b.memPool c)) = s.waiting (.fmp (b.memPool c))
  senders : s'.waiting (.dqueSend (b.queue c)) =
    s.waiting (.dqueSend (b.queue c))
  receivers : s'.waiting (.dqueReceive (b.queue c)) =
    s.waiting (.dqueReceive (b.queue c))

/-- The task is inside a service for the lane and may wait there. -/
def Attends {build : Build} (b : Board build) (c : Lane) (v : LaneView)
    (t : TaskId) : Prop :=
  (t = b.producerTask c ∧ v.producer.inside) ∨
    (t = b.readerTask c ∧ v.reader = .receiving)

section Frames

variable {build : Build} {b : Board build} {c c' : Lane} {v v' : LaneView}
variable {s s' : Shared}
variable {h : Held} {t : TaskId}

theorem LaneSound.congr (sound : LaneSound b c v s h)
    (unseen : Unseen b c s s')
    (own : ∀ t, Attends b c v t →
      s'.elem t = s.elem t ∧ s'.waitRc t = s.waitRc t)
    (payloads : ∀ block ∈ (b.region c).blocks,
      payloadAt s'.mem block = payloadAt s.mem block) :
    LaneSound b c v s' h := by
  have inLane : ∀ block ∈ h.unread ++ (s.items (b.queue c) ++ h.blocked),
      block ∈ (b.region c).blocks := by
    intro block member
    have owned := sound.unread_owned block
    refine sound.stock.mem_iff.mp ?_
    simp only [List.mem_append] at member ⊢
    tauto
  have same := List.map_congr_left fun block member =>
    payloads block (inLane block member)
  obtain ⟨capacity, total, stock, producing, reading, lossless, stream⟩ := sound
  refine ⟨unseen.capacity.trans capacity, unseen.total.trans total, ?_,
    producing.congr unseen.takers unseen.senders (fun _ => unseen.free)
      (fun _ => unseen.items) unseen.capacity
      fun inside => own _ (.inl ⟨rfl, inside⟩),
    reading.congr unseen.receivers (fun _ => unseen.items)
      fun receiving => own _ (.inr ⟨rfl, receiving⟩), lossless, ?_⟩
  · rwa [unseen.free, unseen.items]
  · rw [unseen.items, same]
    exact stream

/-- Only the tasks that are inside the services of a lane are in its wait lists. -/
theorem LaneSound.attends (sound : LaneSound b c v s h) :
    (t ∈ s.waiting (.fmp (b.memPool c)) → Attends b c v t) ∧
      (t ∈ s.waiting (.dqueSend (b.queue c)) → Attends b c v t) ∧
      (t ∈ s.waiting (.dqueReceive (b.queue c)) → Attends b c v t) := by
  have producing := sound.producing
  have reading := sound.reading
  unfold Attends
  generalize v.producer = producer, h.hands = hands, h.blocked = blocked
    at producing
  generalize v.reader = reader, h.owned = owned, h.unread = unread at reading
  refine ⟨fun member => .inl ?_, fun member => .inl ?_,
    fun member => .inr ?_⟩
  · cases producing with
    | asleep waiting => exact ⟨by simpa [waiting] using member, trivial⟩
    | get nobody | given nobody | filling nobody | blocked nobody
    | stored nobody => simp [nobody] at member
  · cases producing with
    | blocked _ waiting => exact ⟨by simpa [waiting] using member, trivial⟩
    | get _ noSender | asleep _ _ noSender | given _ noSender
    | filling _ noSender | stored _ noSender => simp [noSender] at member
  · cases reading with
    | asleep waiting => exact ⟨by simpa [waiting] using member, rfl⟩
    | receive nobody | served nobody | processing nobody | release nobody =>
        simp [nobody] at member

/-- The wait lists of a lane. -/
def WaitList.ofLane {build : Build} (b : Board build) (c : Lane)
    (list : WaitList) : Prop :=
  list = .fmp (b.memPool c) ∨ list = .dqueSend (b.queue c) ∨
    list = .dqueReceive (b.queue c)

namespace Unseen

variable {list : WaitList} {task : TaskId} {rest : List TaskId}
variable {words : List Word} {s'' : Shared}

theorem trans (first : Unseen b c s s') (second : Unseen b c s' s'') :
    Unseen b c s s'' :=
  ⟨second.items.trans first.items, second.capacity.trans first.capacity,
    second.free.trans first.free, second.total.trans first.total,
    second.takers.trans first.takers, second.senders.trans first.senders,
    second.receivers.trans first.receivers⟩

theorem setFree (other : c' ≠ c) :
    Unseen b c' s (s.setFree (b.memPool c) words) :=
  ⟨rfl, rfl, Function.update_of_ne (b.memPool_inj.ne other) _ _, rfl, rfl, rfl,
    rfl⟩

theorem setItems (other : c' ≠ c) :
    Unseen b c' s (s.setItems (b.queue c) words) :=
  ⟨Function.update_of_ne (b.queue_inj.ne other) _ _, rfl, rfl, rfl, rfl, rfl,
    rfl⟩

theorem of_waiting (other : c' ≠ c) (ofLane : list.ofLane b c)
    (waiting : s'.waiting = Function.update s.waiting list rest)
    (same : s'.items = s.items ∧ s'.capacity = s.capacity ∧
      s'.free = s.free ∧ s'.total = s.total) : Unseen b c' s s' := by
  obtain ⟨items, capacity, free, total⟩ := same
  have queue := b.queue_inj.ne other
  have memPool := b.memPool_inj.ne other
  refine ⟨congrFun items _, congrFun capacity _, congrFun free _,
    congrFun total _, ?_, ?_, ?_⟩ <;> rw [waiting] <;>
    refine Function.update_of_ne (fun equal => ?_) _ _ <;>
    rcases ofLane with rfl | rfl | rfl <;> simp_all

theorem sleep (other : c' ≠ c) (ofLane : list.ofLane b c) :
    Unseen b c' s (s.sleep list task) :=
  of_waiting other ofLane rfl ⟨rfl, rfl, rfl, rfl⟩

theorem wake (other : c' ≠ c) (ofLane : list.ofLane b c) :
    Unseen b c' s (s.wake list task rest) :=
  of_waiting other ofLane rfl ⟨rfl, rfl, rfl, rfl⟩

theorem give {value : Word} : Unseen b c s (s.give task value) :=
  ⟨rfl, rfl, rfl, rfl, rfl, rfl, rfl⟩

theorem setMem {mem : Word → Word} : Unseen b c s (s.setMem mem) :=
  ⟨rfl, rfl, rfl, rfl, rfl, rfl, rfl⟩

theorem refl : Unseen b c s s := ⟨rfl, rfl, rfl, rfl, rfl, rfl, rfl⟩

end Unseen

/-- A step at one lane is not seen at another one. -/
theorem LaneStep.unseen (step : LaneStep b c v s v' s') (other : c' ≠ c) :
    Unseen b c' s s' := by
  have fmp : WaitList.ofLane b c (.fmp (b.memPool c)) := .inl rfl
  have senders : WaitList.ofLane b c (.dqueSend (b.queue c)) := .inr (.inl rfl)
  have receivers : WaitList.ofLane b c (.dqueReceive (b.queue c)) :=
    .inr (.inr rfl)
  cases step with
  | take here got =>
      obtain ⟨free, -, rfl⟩ := Shared.get_eq_some.mp got
      exact .setFree other
  | await => exact .sleep other fmp
  | fill => exact .setMem
  | send here fits accepted =>
      cases Shared.sent accepted with
      | handed => exact Unseen.give.trans (.wake other receivers)
      | stored => exact .setItems other
  | stall => exact Unseen.give.trans (.sleep other senders)
  | receive here received =>
      cases Shared.received received with
      | refilled => exact (Unseen.setItems other).trans (.wake other senders)
      | taken => exact .setItems other
      | handed => exact .wake other senders
  | listen => exact .sleep other receivers
  | release =>
      unfold Shared.release
      split
      · exact Unseen.give.trans (.wake other fmp)
      · exact (Unseen.setFree other).trans .setMem
  | taken | drop | stored | served | finish => exact .refl

/-- The control blocks of tasks that are not inside a service for the lane. -/
theorem LaneStep.untouched (sound : LaneSound b c v s h)
    (step : LaneStep b c v s v' s') (before : ¬Attends b c v t)
    (after : ¬Attends b c v' t) :
    s'.elem t = s.elem t ∧ s'.waitRc t = s.waitRc t := by
  obtain ⟨taker, sender, receiver⟩ := sound.attends (t := t)
  cases step with
  | take here got =>
      obtain ⟨free, -, rfl⟩ := Shared.get_eq_some.mp got
      exact ⟨rfl, rfl⟩
  | send here fits accepted =>
      cases Shared.sent accepted with
      | @handed u rest waiting =>
          have different : t ≠ u := by
            rintro rfl
            exact before (receiver (by simp [waiting]))
          simp [Shared.wake, Shared.give, different]
      | stored => exact ⟨rfl, rfl⟩
  | stall =>
      have different : t ≠ b.producerTask c := by
        rintro rfl
        exact after (.inl ⟨rfl, trivial⟩)
      simp [Shared.sleep, Shared.give, different]
  | receive here received =>
      cases Shared.received received with
      | @refilled _ _ u rest _ waiting =>
          have different : t ≠ u := by
            rintro rfl
            exact before (sender (by simp [waiting]))
          simp [Shared.wake, Shared.setItems, different]
      | taken => exact ⟨rfl, rfl⟩
      | @handed u rest _ waiting =>
          have different : t ≠ u := by
            rintro rfl
            exact before (sender (by simp [waiting]))
          simp [Shared.wake, different]
  | release =>
      unfold Shared.release
      split
      · next u rest waiting =>
          have different : t ≠ u := by
            rintro rfl
            exact before (taker (by simp [waiting]))
          simp [Shared.wake, Shared.give, different]
      · exact ⟨rfl, rfl⟩
  | await | taken | fill | drop | stored | listen | served | finish =>
      exact ⟨rfl, rfl⟩

/-- A step writes only into the block that the producer fills, or into the one that
the reader releases. -/
theorem LaneStep.writes (sound : LaneSound b c v s h)
    (step : LaneStep b c v s v' s') :
    s'.mem = s.mem ∨ ∃ block ∈ (b.region c).blocks,
      WritesInside (BitVec.ofNat 32 usbMaxPacket0) [block] s.mem s'.mem ∧
        ((v' = v ∧ v.producer = .filling block) ∨
          v.reader = .release block) := by
  cases step with
  | take here got =>
      obtain ⟨free, -, rfl⟩ := Shared.get_eq_some.mp got
      exact .inl rfl
  | @fill ptr _ here inside =>
      obtain ⟨_, _, hands, _⟩ := sound.filling here
      exact .inr ⟨ptr, sound.stock.mem_iff.mp (by simp [hands]), inside,
        .inl ⟨rfl, here⟩⟩
  | send here fits accepted =>
      cases Shared.sent accepted <;> exact .inl rfl
  | receive here received =>
      cases Shared.received received <;> exact .inl rfl
  | @release ptr here =>
      obtain ⟨owned, _⟩ := sound.releasing here
      unfold Shared.release
      split
      · exact .inl rfl
      · exact .inr ⟨ptr, sound.stock.mem_iff.mp (by simp [owned]),
          writesInside_update ptr _ s.mem, .inr here⟩
  | await | taken | stall | drop | stored | listen | served | finish =>
      exact .inl rfl

end Frames

end UsbBulk
