import UsbBulk.Usb.TxPipe

/-!
# What the producer sends is what is written

A block is free, in the hands of the producer, or on its way to the transmitter,
and the payloads on their way are those that have been sent and not yet been
written.
-/

namespace UsbBulk

/-! ## The invariant -/

/-- The blocks in the hands of the producer, and the block with which it waits for a
place in the queue. -/
inductive Producing (task : TaskId) (d : DqueId) (f : FmpId) (s : Shared) :
    Producer → List Word → List Word → Prop where
  | get (nobody : s.waiting (.fmp f) = [])
      (noSender : s.waiting (.dqueSend d) = []) :
      Producing task d f s .get [] []
  | asleep (waiting : s.waiting (.fmp f) = [task]) (empty : s.free f = [])
      (noSender : s.waiting (.dqueSend d) = []) :
      Producing task d f s .getting [] []
  | given (nobody : s.waiting (.fmp f) = [])
      (noSender : s.waiting (.dqueSend d) = [])
      (noErr : s.waitRc task = .noErr) :
      Producing task d f s .getting [s.elem task] []
  | filling {ptr : Word} (nobody : s.waiting (.fmp f) = [])
      (noSender : s.waiting (.dqueSend d) = []) :
      Producing task d f s (.filling ptr) [ptr] []
  | blocked (nobody : s.waiting (.fmp f) = [])
      (waiting : s.waiting (.dqueSend d) = [task])
      (full : (s.items d).length = s.capacity d) :
      Producing task d f s .sending [] [s.elem task]
  | stored (nobody : s.waiting (.fmp f) = [])
      (noSender : s.waiting (.dqueSend d) = [])
      (noErr : s.waitRc task = .noErr) :
      Producing task d f s .sending [] []

/-- The pipe is in order: `hands` are the blocks of the producer, `blocked` is what it
waits with, and `taken` is the block of the interrupt routine. -/
structure Transmission (image : Image) (ei : EpInfo) (task : TaskId)
    (region : Region) (st : TxPipe) (lists : Lists) (s : Shared)
    (hands blocked taken : List Word) : Prop where
  shares : Shares image.untimedRule (· = ei.queue) (· = ei.memPool) st.kernel
    lists s
  two : 2 ≤ region.count
  capacity : s.capacity ei.queue = region.count - 1
  total : s.total ei.memPool = region.count
  stock : (s.free ei.memPool ++
    (s.items ei.queue ++ blocked ++ (hands ++ taken))).Perm region.blocks
  receivers : s.waiting (.dqueReceive ei.queue) = []
  producing : Producing task ei.queue ei.memPool s st.producer hands blocked
  stream : st.sent = st.written ++
    (s.items ei.queue ++ blocked).map (payloadAt s.mem)

/-- A block leaves the hands of the producer only on its way to the transmitter, and
is on its way until its payload has been written. -/
structure TxPipe.Passes (st st' : TxPipe) (hands underway : List Word)
    (hands' underway' : List Word) : Prop where
  sent : ∀ block ∈ hands, block ∉ hands' → block ∈ underway'
  written : ∀ block ∈ underway, block ∉ underway' →
    st'.written = st.written ++ [payloadAt st.kernel.mem block]

section Invariant

variable {image : Image} {ei : EpInfo} {task : TaskId} {region : Region}
variable {st : TxPipe} {lists : Lists} {s : Shared} {k : Kernel}
variable {hands blocked taken : List Word} {block ptr : Word} {reply : Reply}
variable {mem : Word → Word}

/-- A producer in `tn_queue_send` waits with its block, for want of a place. -/
theorem Producing.sender {d : DqueId} {f : FmpId} {producer : Producer}
    (producing : Producing task d f s producer hands blocked) :
    (s.waiting (.dqueSend d) = [] ∧ blocked = []) ∨
      producer = .sending ∧ hands = [] ∧ blocked = [s.elem task] ∧
        s.waiting (.fmp f) = [] ∧ s.waiting (.dqueSend d) = [task] ∧
        (s.items d).length = s.capacity d := by
  cases producing with
  | blocked nobody waiting full =>
      exact .inr ⟨rfl, rfl, rfl, nobody, waiting, full⟩
  | get _ noSender | asleep _ _ noSender | given _ noSender _
  | filling _ noSender | stored _ noSender _ => exact .inl ⟨noSender, rfl⟩

theorem TxPipe.Passes.still {st' : TxPipe} {hands underway : List Word} :
    st.Passes st' hands underway hands underway :=
  ⟨fun _ member gone => absurd member gone,
    fun _ member gone => absurd member gone⟩

namespace Transmission

theorem total_count (sound : Transmission image ei task region st lists s
    hands blocked taken) :
    (s.free ei.memPool).length + ((s.items ei.queue).length +
      blocked.length + (hands.length + taken.length)) = region.count := by
  simpa [Nat.add_assoc] using sound.stock.length_eq

/-- Only the kernel changes, and the abstract state is the same. -/
theorem of_shares (sound : Transmission image ei task region st lists s hands
    blocked taken) {lists' : Lists}
    (shares : Shares image.untimedRule (· = ei.queue) (· = ei.memPool) k lists'
      s) :
    Transmission image ei task region { st with kernel := k } lists' s hands
      blocked taken :=
  ⟨shares, sound.two, sound.capacity, sound.total, sound.stock,
    sound.receivers, sound.producing, sound.stream⟩

/-- A write inside a block of the producer or of the interrupt routine. -/
theorem frame (sound : Transmission image ei task region st lists s hands
    blocked taken) (own : block ∈ hands ++ taken)
    (inside : WritesInside (BitVec.ofNat 32 usbMaxPacket0) [block] s.mem
      mem) :
    (∀ other ∈ s.free ei.memPool, mem other = s.mem other) ∧
      (s.items ei.queue ++ blocked).map (payloadAt mem) =
        (s.items ei.queue ++ blocked).map (payloadAt s.mem) := by
  obtain ⟨free, used⟩ := Region.frame sound.stock inside
    (List.mem_append_right _ own)
  refine ⟨free, List.map_congr_left fun other underway =>
    used other (List.mem_append_left _ underway) ?_⟩
  have nodup := (sound.stock.nodup_iff.mpr region.nodup).of_append_right
  exact (List.nodup_append.mp nodup).2.2 other underway block own

/-! ### The producer -/

/-- The producer calls `tn_fmem_get`. -/
theorem get (sound : Transmission image ei task region st lists s hands
    blocked []) (here : st.producer = .get)
    (context : st.kernel.wrongNonIntContext = false)
    (may : MayWait image.untimedRule st.kernel)
    (current : st.kernel.tnCurrRunTask = task)
    (run : tnFmemGet st.kernel (some ei.memPool) true tnWaitInfinite =
      some (k, reply)) :
    SameContext st.kernel k ∧ ∃ lists' s' hands',
      Transmission image ei task region ({ st with kernel := k }.gets reply)
        lists' s' hands' blocked [] ∧
      s'.items ei.queue = s.items ei.queue ∧ hands = [] := by
  have producing := sound.producing
  rw [here] at producing
  cases producing with
  | get nobody noSender =>
  obtain ⟨answers, waits⟩ := sound.shares.tnFmemGet rfl context may
  cases free : s.free ei.memPool with
  | cons block left =>
      obtain ⟨k', reply', lists', run', rc, value, same, shares⟩ :=
        answers block _ (by rw [Shared.get, free])
      cases run.symm.trans run'
      have after : { st with kernel := k }.gets reply =
          { st with kernel := k, producer := .filling block } := by
        simp [TxPipe.gets, TxPipe.got, rc, value]
      rw [after]
      refine ⟨same, lists', _, [block], ⟨shares, sound.two, sound.capacity,
        sound.total, ?_, sound.receivers, .filling nobody noSender,
        sound.stream⟩, rfl, rfl⟩
      refine List.Perm.trans ?_ sound.stock
      simp only [Shared.setFree, Function.update_self, free]
      grind
  | nil =>
      obtain ⟨k', reply', lists', run', rc, value, same, shares⟩ :=
        waits (by rw [Shared.get, free])
      cases run.symm.trans run'
      rw [current] at shares
      have after : { st with kernel := k }.gets reply =
          { st with kernel := k, producer := .getting } := by
        simp [TxPipe.gets, rc]
      rw [after]
      refine ⟨same, lists', _, [], ⟨shares, sound.two, sound.capacity,
        sound.total, sound.stock, ?_, .asleep ?_ free ?_, sound.stream⟩, rfl,
        rfl⟩
      · simpa [Shared.sleep] using sound.receivers
      · simp [Shared.sleep, nobody]
      · simpa [Shared.sleep] using noSender

theorem gets (sound : Transmission image ei task region st lists s hands
    blocked []) (here : st.producer = .getting) (runs : st.Runs task) :
    Transmission image ei task region
      (st.got (st.kernel.tcb task).taskWaitRc (st.kernel.tcb task).dataElem)
      lists s hands blocked [] ∧
      (st.got (st.kernel.tcb task).taskWaitRc
        (st.kernel.tcb task).dataElem).kernel = st.kernel := by
  have producing := sound.producing
  rw [here] at producing
  cases producing with
  | asleep waiting _ _ =>
      have member : task ∈ s.waiting (.fmp ei.memPool) := by
        simp [waiting]
      exact absurd runs.runnable (sound.shares.asleep member)
  | given nobody noSender noErr =>
      have after : st.got (st.kernel.tcb task).taskWaitRc
          (st.kernel.tcb task).dataElem =
          { st with producer := .filling (s.elem task) } := by
        rw [sound.shares.waitRc, noErr, sound.shares.elem]
        rfl
      rw [after]
      exact ⟨⟨sound.shares, sound.two, sound.capacity, sound.total,
        sound.stock, sound.receivers, .filling nobody noSender,
        sound.stream⟩, rfl⟩

theorem filling (sound : Transmission image ei task region st lists s hands
    blocked taken) (here : st.producer = .filling ptr) :
    s.waiting (.fmp ei.memPool) = [] ∧
      s.waiting (.dqueSend ei.queue) = [] ∧ hands = [ptr] ∧
      blocked = [] := by
  have producing := sound.producing
  rw [here] at producing
  cases producing with
  | filling nobody noSender => exact ⟨nobody, noSender, rfl, rfl⟩

theorem fill (sound : Transmission image ei task region st lists s hands
    blocked []) (here : st.producer = .filling ptr)
    (inside : WritesInside (BitVec.ofNat 32 usbMaxPacket0) [ptr]
      st.kernel.mem mem) :
    Transmission image ei task region
      { st with kernel := st.kernel.setMem mem } lists (s.setMem mem) hands
      blocked [] := by
  rw [sound.shares.mem] at inside
  obtain ⟨nobody, noSender, rfl, rfl⟩ := sound.filling here
  obtain ⟨free, same⟩ := sound.frame (by simp) inside
  refine ⟨sound.shares.write mem ?_, sound.two, sound.capacity, sound.total,
    sound.stock, sound.receivers, ?_, ?_⟩
  · rintro f rfl other isFree
    exact free other isFree
  · change Producing task ei.queue ei.memPool _ st.producer _ _
    rw [here]
    exact .filling nobody noSender
  · change st.sent = st.written ++
      (s.items ei.queue ++ []).map (payloadAt mem)
    rw [same]
    exact sound.stream

/-- The producer calls `tn_queue_send`. -/
theorem send (sound : Transmission image ei task region st lists s hands
    blocked []) (here : st.producer = .filling ptr)
    (context : st.kernel.wrongNonIntContext = false)
    (may : MayWait image.untimedRule st.kernel)
    (current : st.kernel.tnCurrRunTask = task) {fuel : Nat}
    (run : tnQueueSend fuel st.kernel (some ei.queue) ptr tnWaitInfinite =
      some (k, reply)) :
    SameContext st.kernel k ∧ ∃ lists' s' blocked',
      Transmission image ei task region
        ({ st with
          kernel := k
          sent := st.sent ++ [payloadAt st.kernel.mem ptr] }.sends reply)
        lists' s' [] blocked' [] ∧ hands = [ptr] ∧
      s'.items ei.queue ++ blocked' =
        s.items ei.queue ++ blocked ++ [ptr] := by
  obtain ⟨nobody, noSender, rfl, rfl⟩ := sound.filling here
  have stream : st.sent ++ [payloadAt st.kernel.mem ptr] =
      st.written ++
        (s.items ei.queue ++ [ptr]).map (payloadAt s.mem) := by
    have before := sound.stream
    rw [List.append_nil] at before
    rw [before, sound.shares.mem]
    simp
  obtain ⟨answers, waits⟩ :=
    sound.shares.tnQueueSend rfl context may fuel ptr
  by_cases full : (s.items ei.queue).length = s.capacity ei.queue
  · obtain ⟨k', reply', lists', run', rc, value, same, shares⟩ :=
      waits (by simp [Shared.send, sound.receivers, full])
    cases run.symm.trans run'
    rw [current] at shares
    obtain ⟨s', isAfter⟩ : ∃ s', s' =
      (s.give task ptr).sleep (.dqueSend ei.queue) task := ⟨_, rfl⟩
    rw [← isAfter] at shares
    have after : { st with
        kernel := k
        sent := st.sent ++ [payloadAt st.kernel.mem ptr] }.sends reply =
        { st with
          kernel := k
          sent := st.sent ++ [payloadAt st.kernel.mem ptr]
          producer := .sending } := by
      simp [TxPipe.sends, rc]
    rw [after]
    refine ⟨same, lists', s', [s'.elem task], ⟨shares, sound.two,
      isAfter ▸ sound.capacity, isAfter ▸ sound.total, ?_, ?_,
      .blocked ?_ ?_ ?_, ?_⟩, rfl, ?_⟩
    · refine List.Perm.trans ?_ sound.stock
      simp [isAfter, Shared.sleep, Shared.give]
    · simpa [isAfter, Shared.sleep, Shared.give] using sound.receivers
    · simpa [isAfter, Shared.sleep, Shared.give] using nobody
    · simp [isAfter, Shared.sleep, Shared.give, noSender]
    · simpa [isAfter, Shared.sleep, Shared.give] using full
    · simpa [isAfter, Shared.sleep, Shared.give] using stream
    · simp [isAfter, Shared.sleep, Shared.give]
  · obtain ⟨k', reply', lists', run', rc, value, same, shares⟩ :=
      answers (s.setItems ei.queue (s.items ei.queue ++ [ptr]))
        (by simp [Shared.send, sound.receivers, full])
    cases run.symm.trans run'
    have after : { st with
        kernel := k
        sent := st.sent ++ [payloadAt st.kernel.mem ptr] }.sends reply =
        { st with
          kernel := k
          sent := st.sent ++ [payloadAt st.kernel.mem ptr]
          producer := .get } := by
      simp [TxPipe.sends, rc]
    rw [after]
    refine ⟨same, lists', _, [], ⟨shares, sound.two, sound.capacity,
      sound.total, ?_, sound.receivers, .get nobody noSender, ?_⟩, rfl, ?_⟩
    · refine List.Perm.trans ?_ sound.stock
      simp [Shared.setItems]
    · simpa [Shared.setItems] using stream
    · simp [Shared.setItems]

theorem sends (sound : Transmission image ei task region st lists s hands
    blocked []) (here : st.producer = .sending) (runs : st.Runs task) :
    Transmission image ei task region { st with producer := .get } lists s
      hands blocked [] := by
  have producing := sound.producing
  rw [here] at producing
  cases producing with
  | blocked _ waiting _ =>
      have member : task ∈ s.waiting (.dqueSend ei.queue) := by
        simp [waiting]
      exact absurd runs.runnable (sound.shares.asleep member)
  | stored nobody noSender _ =>
      exact ⟨sound.shares, sound.two, sound.capacity, sound.total,
        sound.stock, sound.receivers, .get nobody noSender, sound.stream⟩

/-! ### The interrupt routine -/

/-- The interrupt routine takes the first element, and a blocked producer gets its
place. -/
theorem ireceive (sound : Transmission image ei task region st lists s hands
    blocked []) (context : st.kernel.wrongIntContext = false) (fuel : Nat) :
    ∃ k reply lists' s' blocked' taken,
      tnQueueIreceive fuel st.kernel (some ei.queue) true =
        some (k, reply) ∧
      reply.rc = some (if taken = [] then .timeout else .noErr) ∧
      reply.value = taken.head? ∧
      SameContext st.kernel k ∧
      Transmission image ei task region { st with
        kernel := k
        written := st.written ++ taken.map (payloadAt s.mem) } lists' s' hands
        blocked' taken ∧
      s.items ei.queue ++ blocked = taken ++ (s'.items ei.queue ++ blocked') ∧
      taken.length ≤ 1 ∧ s'.mem = s.mem := by
  have producing := sound.producing
  have two := sound.two
  obtain ⟨answers, refused⟩ := sound.shares.tnQueueIreceive rfl context fuel
  have stream := sound.stream
  cases items : s.items ei.queue with
  | nil =>
      have noSender : s.waiting (.dqueSend ei.queue) = [] := by
        rcases producing.sender with ⟨noSender, _⟩ | ⟨_, _, _, _, _, full⟩
        · exact noSender
        · rw [items, sound.capacity, List.length_nil] at full
          omega
      obtain ⟨k, reply, lists', run, rc, value, same, shares⟩ :=
        refused (by simp [Shared.receive, items, noSender])
      refine ⟨k, reply, lists', s, blocked, [], run, rc, value, same, ?_,
        ?_, by simp, rfl⟩
      · simpa using sound.of_shares shares
      · simp [items]
  | cons first left =>
      have stock := sound.stock
      rw [items] at stream stock
      rcases producing.sender with ⟨senders, rfl⟩ |
        ⟨isProducer, rfl, rfl, nobody, senders, full⟩
      · obtain ⟨k, reply, lists', run, rc, value, same, shares⟩ :=
          answers first (s.setItems ei.queue left)
            (by simp [Shared.receive, items, senders])
        refine ⟨k, reply, lists', _, [], [first], run, rc, value, same,
          ⟨shares, two, sound.capacity, sound.total, ?_, sound.receivers,
            ?_, ?_⟩, ?_, by simp, rfl⟩
        · refine List.Perm.trans ?_ stock
          simp only [Shared.setItems, Function.update_self]
          grind
        · change Producing task ei.queue ei.memPool _ st.producer _ _
          generalize st.producer = producer at producing
          cases producing with
          | get nobody noSender => exact .get nobody noSender
          | asleep waiting empty noSender =>
              exact .asleep waiting empty noSender
          | given nobody noSender noErr => exact .given nobody noSender noErr
          | filling nobody noSender => exact .filling nobody noSender
          | stored nobody noSender noErr => exact .stored nobody noSender noErr
        · simpa [Shared.setItems] using stream
        · simp [Shared.setItems]
      · obtain ⟨k, reply, lists', run, rc, value, same, shares⟩ :=
          answers first
            ((s.setItems ei.queue (left ++ [s.elem task])).wake
              (.dqueSend ei.queue) task [])
            (by simp [Shared.receive, items, senders])
        refine ⟨k, reply, lists', _, [], [first], run, rc, value, same,
          ⟨shares, two, sound.capacity, sound.total, ?_, ?_, ?_, ?_⟩, ?_,
          by simp, rfl⟩
        · refine List.Perm.trans ?_ stock
          simp only [Shared.wake, Shared.setItems, Function.update_self]
          grind
        · simpa [Shared.wake, Shared.setItems] using sound.receivers
        · change Producing task ei.queue ei.memPool _ st.producer _ _
          rw [isProducer]
          refine .stored ?_ ?_ ?_
          · simpa [Shared.wake, Shared.setItems] using nobody
          · simp [Shared.wake]
          · simp [Shared.wake]
        · simpa [Shared.wake, Shared.setItems] using stream
        · simp [Shared.wake, Shared.setItems]

/-- The interrupt routine releases its block, and a waiting producer gets it. -/
theorem irelease (sound : Transmission image ei task region st lists s hands
    blocked [block]) (context : st.kernel.wrongIntContext = false)
    (fuel : Nat) :
    ∃ k reply lists' s' hands',
      tnFmemIrelease fuel st.kernel (some ei.memPool) block =
        some (k, reply) ∧
      SameContext st.kernel k ∧
      Transmission image ei task region { st with kernel := k } lists' s'
        hands' blocked [] ∧
      s'.items ei.queue = s.items ei.queue ∧ ∀ other ∈ hands,
        other ∈ hands' := by
  have total := sound.total_count
  have stock := sound.stock
  have producing := sound.producing
  have own : block ∈ s.items ei.queue ++ blocked ++ (hands ++ [block]) := by
    simp
  have member : block ∈ region.blocks :=
    stock.mem_iff.mp (List.mem_append_right _ own)
  have fresh : block ∉ s.free ei.memPool := fun isFree =>
    (List.nodup_append.mp (stock.nodup_iff.mpr region.nodup)).2.2 block
      isFree block own rfl
  obtain ⟨k, reply, lists', run, _, _, same, shares⟩ :=
    sound.shares.tnFmemIrelease rfl context fuel (Region.ne_zero member)
      (by
        rintro f rfl
        exact fresh)
      (by
        rw [sound.total]
        simp only [List.length_cons] at total
        omega)
  by_cases nobody : s.waiting (.fmp ei.memPool) = []
  · obtain ⟨_, payloads⟩ := sound.frame (by simp)
      (writesInside_update block ((s.free ei.memPool).headD 0) s.mem)
    rw [Shared.release, nobody] at shares
    refine ⟨k, reply, lists', _, hands, run, same, ⟨shares, sound.two,
      sound.capacity, sound.total, ?_, sound.receivers, ?_, ?_⟩, rfl,
      fun _ member => member⟩
    · refine List.Perm.trans ?_ stock
      simp only [Shared.setMem, Shared.setFree, Function.update_self]
      grind
    · change Producing task ei.queue ei.memPool _ st.producer _ _
      generalize st.producer = producer at producing
      cases producing with
      | get nobody noSender => exact .get nobody noSender
      | asleep waiting empty noSender =>
          rw [nobody] at waiting
          cases waiting
      | given nobody noSender noErr => exact .given nobody noSender noErr
      | filling nobody noSender => exact .filling nobody noSender
      | blocked nobody waiting full => exact .blocked nobody waiting full
      | stored nobody noSender noErr => exact .stored nobody noSender noErr
    · change st.sent = st.written ++ (s.items ei.queue ++ blocked).map
        (payloadAt (Function.update s.mem block _))
      rw [payloads]
      exact sound.stream
  · generalize st.producer = producer at producing
    cases producing with
    | get gone _ | given gone _ _ | filling gone _ | blocked gone _ _
    | stored gone _ _ => exact absurd gone nobody
    | asleep waiting empty noSender =>
        rw [Shared.release, waiting] at shares
        obtain ⟨s', isAfter⟩ : ∃ s', s' =
          (s.give task block).wake (.fmp ei.memPool) task [] := ⟨_, rfl⟩
        change Shares _ _ _ k lists'
          ((s.give task block).wake (.fmp ei.memPool) task []) at shares
        rw [← isAfter] at shares
        have elem : s'.elem task = block := by
          simp [isAfter, Shared.wake, Shared.give]
        refine ⟨k, reply, lists', s', [block], run, same, ⟨shares, sound.two,
          isAfter ▸ sound.capacity, isAfter ▸ sound.total, ?_, ?_, ?_, ?_⟩,
          ?_, by simp⟩
        · refine List.Perm.trans ?_ stock
          simp [isAfter, Shared.wake, Shared.give]
        · simpa [isAfter, Shared.wake, Shared.give] using sound.receivers
        · rw [← elem]
          refine .given ?_ ?_ ?_
          · simp [isAfter, Shared.wake]
          · simpa [isAfter, Shared.wake, Shared.give] using noSender
          · simp [isAfter, Shared.wake]
        · simpa [isAfter, Shared.wake, Shared.give] using sound.stream
        · simp [isAfter, Shared.wake, Shared.give]

theorem epTxInt (sound : Transmission image ei task region st lists s hands
    blocked []) (context : st.kernel.wrongIntContext = false) {fuel : Nat}
    {payload : Option (List Word)}
    (run : tnUsbEpTxInt fuel ei st.kernel = some (k, payload)) :
    k.mode = st.kernel.mode ∧ ∃ lists' s' hands' blocked',
      Transmission image ei task region { st with
        kernel := k
        written := st.written ++ payload.toList } lists' s' hands' blocked'
        [] ∧
      st.Passes { st with
        kernel := k
        written := st.written ++ payload.toList } hands
        (s.items ei.queue ++ blocked) hands'
        (s'.items ei.queue ++ blocked') := by
  obtain ⟨k₁, reply, lists₁, s₁, blocked₁, taken, first, rc, value, same₁,
    sound₁, underway, short, mem⟩ := sound.ireceive context fuel
  have mode₁ : k₁.mode = st.kernel.mode :=
    Call.exec_mode fuel rfl 0 (.queueIreceive (some ei.queue) true) _ first
  change (tnQueueIreceive fuel st.kernel _ _).bind _ = _ at run
  rw [first] at run
  dsimp only [Option.bind_some] at run
  rw [rc, value] at run
  match taken, short with
  | [], _ =>
      cases run
      simp only [List.nil_append] at underway
      rw [underway]
      exact ⟨mode₁, lists₁, s₁, hands, blocked₁, sound₁, .still⟩
  | [block], _ =>
      obtain ⟨k₂, reply₂, lists₂, s₂, hands₂, release, same₂, sound₂, items₂,
        kept⟩ := sound₁.irelease (same₁.wrongIntContext context) fuel
      have mode₂ : k₂.mode = k₁.mode :=
        Call.exec_mode fuel rfl 0 (.fmemIrelease (some ei.memPool) block) _
          release
      have result : some (k₂, some (payloadAt k₁.mem block)) =
          some (k, payload) := by
        rw [← run, if_pos (by simp)]
        change _ = (tnFmemIrelease fuel k₁ _ block).bind _
        rw [release]
        rfl
      cases result
      have same : payloadAt k₁.mem block = payloadAt st.kernel.mem block := by
        rw [sound₁.shares.mem, mem, sound.shares.mem]
      refine ⟨mode₂.trans mode₁, lists₂, s₂, hands₂, blocked₁, ?_, ?_, ?_⟩
      · rw [same, sound.shares.mem]
        exact sound₂
      · exact fun other member gone => absurd (kept other member) gone
      · intro other member gone
        rw [underway] at member
        rw [items₂] at gone
        obtain rfl : other = block := by simpa [gone] using member
        exact congrArg (st.written ++ [·]) same

theorem step (sound : Transmission image ei task region st lists s hands
    blocked []) (atTask : st.kernel.AtTask) (notIdle : task ≠ image.idleTask)
    {st' : TxPipe} (step : TxStep image ei task st st') :
    st'.kernel.AtTask ∧ ∃ lists' s' hands' blocked',
      Transmission image ei task region st' lists' s' hands' blocked' [] ∧
      st.Passes st' hands (s.items ei.queue ++ blocked) hands'
        (s'.items ei.queue ++ blocked') := by
  have context := atTask.wrongNonIntContext
  have mayWait : st.Runs task → MayWait image.untimedRule st.kernel := by
    rintro ⟨rfl, runnable⟩
    exact .untimed runnable notIdle
  cases step with
  | get here runs run =>
      obtain ⟨same, lists', s', hands', after, items, rfl⟩ :=
        sound.get here context (mayWait runs) runs.current run
      refine ⟨?_, lists', s', hands', blocked, after, by simp, ?_⟩
      · rw [TxPipe.gets_kernel]
        exact @Kernel.AtTask.call _ _ atTask
          (.fmemGet (some ei.memPool) true tnWaitInfinite) _ 0 run same
      · rw [items]
        exact fun _ member gone => absurd member gone
  | gets here runs =>
      obtain ⟨after, same⟩ := sound.gets here runs
      refine ⟨?_, lists, s, hands, blocked, after, .still⟩
      rwa [TxPipe.got_kernel]
  | fill here runs mem inside =>
      exact ⟨⟨⟨atTask.inSystem.tnSystemRunning, atTask.inSystem.tnIntCounter,
        atTask.inSystem.tnEnableSwitchContext⟩, atTask.irqDisabled⟩, lists,
        s.setMem mem, hands, blocked, sound.fill here inside, .still⟩
  | @send ptr _ _ fuel here runs run =>
      obtain ⟨same, lists', s', blocked', after, rfl, underway⟩ :=
        sound.send here context (mayWait runs) runs.current run
      refine ⟨?_, lists', s', [], blocked', after, ?_, ?_⟩
      · rw [TxPipe.sends_kernel]
        exact atTask.call (.queueSend (some ei.queue) ptr tnWaitInfinite) run
          same
      · rw [underway]
        intro block member _
        exact List.mem_append_right _ member
      · rw [underway]
        intro block member gone
        exact absurd (List.mem_append_left _ member) gone
  | sends here runs =>
      exact ⟨atTask, lists, s, hands, blocked, sound.sends here runs, .still⟩
  | interrupt fuel run =>
      obtain ⟨mode, lists', s', hands', blocked', after, passes⟩ :=
        (sound.of_shares sound.shares.enterIrq).epTxInt
          atTask.wrongIntContext run
      exact ⟨atTask.interrupt mode, lists', s', hands', blocked',
        after.of_shares after.shares.leaveIrq, passes.sent, passes.written⟩
  | aside step =>
      obtain ⟨atTask', lists', shares⟩ := sound.shares.aside atTask step
      exact ⟨atTask', lists', s, hands, blocked, sound.of_shares shares,
        .still⟩

end Transmission

theorem TxRun.transmission {startAddr : Word} {n : Nat}
    (run : TxRun image ei task startAddr n st) :
    task ≠ image.idleTask ∧ st.kernel.AtTask ∧ ∃ region : Region,
      region.blocks = blocks (alignUp startAddr)
        (BitVec.ofNat 32 usbMaxPacket0) n ∧ ∃ lists s hands blocked,
        Transmission image ei task region st lists s hands blocked [] := by
  induction run with
  | start notIdle reachable queue pool fits all irqEnabled =>
      obtain ⟨inSystem, region, lists, s, fresh, start⟩ :=
        FreshPipe.of_creations reachable queue pool fits all
      refine ⟨notIdle, ⟨inSystem, irqEnabled⟩, region,
        by rw [Region.blocks, start, fresh.count], lists, s, [], [],
        fresh.shares, ?_, ?_, ?_, ?_, fresh.receivers,
        .get fresh.takers fresh.senders, ?_⟩
      · exact fresh.count.symm ▸ fresh.two
      · exact fresh.count.symm ▸ fresh.capacity
      · exact fresh.count.symm ▸ fresh.total
      · simp [fresh.items, fresh.free]
      · simp [fresh.items]
  | next before step ih =>
      obtain ⟨notIdle, atTask, region, places, lists, s, hands, blocked,
        sound⟩ := ih
      obtain ⟨atTask', lists', s', hands', blocked', after, _⟩ :=
        sound.step atTask notIdle step
      exact ⟨notIdle, atTask', region, places, lists', s', hands', blocked',
        after⟩

end Invariant

/-! ## The pipe is a faithful stream -/

namespace TxPipe

variable (st : TxPipe) (ei : EpInfo) (task : TaskId)

/-- The blocks of the producer: in its variable, or in its control block when it has
been given one in its wait. -/
def hands : List Word :=
  match st.producer with
  | .filling ptr => [ptr]
  | .getting =>
      if st.kernel.noWaiters (.fmp ei.memPool) then
        [(st.kernel.tcb task).dataElem]
      else []
  | .get | .sending => []

/-- The blocks that have been sent: in the queue, or in the control block of the
producer while it waits for a place. -/
def underway : List Word :=
  (st.kernel.dque ei.queue).items ++
    match st.producer with
    | .sending =>
        if st.kernel.noWaiters (.dqueSend ei.queue) then []
        else [(st.kernel.tcb task).dataElem]
    | .get | .getting | .filling _ => []

/-- The payloads are written in the order in which they have been sent, and each block
is in one place. -/
structure Faithful (pool : List Word) : Prop where
  ordered : st.written <+: st.sent
  stream : st.sent = st.written ++
    (st.underway ei task).map (payloadAt st.kernel.mem)
  distinct : pool.Nodup
  custody : ∃ free, st.kernel.PoolHolds ei.memPool free ∧
    (free ++ (st.underway ei task ++ st.hands ei task)).Perm pool

end TxPipe

section Runs

variable {image : Image} {ei : EpInfo} {task : TaskId} {region : Region}
variable {st : TxPipe} {lists : Lists} {s : Shared}
variable {hands blocked : List Word} {startAddr : Word} {n : Nat}

namespace Transmission

/-- The places of the blocks can be seen in the kernel. -/
theorem places (sound : Transmission image ei task region st lists s hands
    blocked []) :
    st.hands ei task = hands ∧
      st.underway ei task = s.items ei.queue ++ blocked := by
  have shares := sound.shares
  have queue := shares.queue ei.queue rfl
  have isFmp := (shares.pool ei.memPool rfl).isFmp
  have isDque : st.kernel.hasList (.dqueSend ei.queue) = true := queue.isDque
  have takers := shares.kept.noWaiters_iff
    (show st.kernel.hasList (.fmp ei.memPool) = true from isFmp)
  have senders := shares.kept.noWaiters_iff isDque
  rw [shares.waiting] at takers senders
  have producing := sound.producing
  rw [TxPipe.hands, TxPipe.underway, queue.items]
  generalize st.producer = producer at producing
  cases producing with
  | get | filling => exact ⟨rfl, rfl⟩
  | asleep waiting _ _ => simp [takers, waiting]
  | given nobody _ _ => simp [takers, nobody, shares.elem]
  | blocked _ waiting _ => simp [senders, waiting, shares.elem]
  | stored _ noSender => simp [senders, noSender]

theorem faithful (sound : Transmission image ei task region st lists s hands
    blocked []) : st.Faithful ei task region.blocks := by
  obtain ⟨isHands, isUnderway⟩ := sound.places
  have stream : st.sent = st.written ++
      (st.underway ei task).map (payloadAt st.kernel.mem) := by
    rw [isUnderway, sound.shares.mem]
    exact sound.stream
  refine ⟨?_, stream, region.nodup, s.free ei.memPool,
    (sound.shares.pool ei.memPool rfl).holds, ?_⟩
  · rw [stream]
    exact List.prefix_append _ _
  · rw [isUnderway, isHands]
    simpa using sound.stock

end Transmission

/-- In every state the pipe is a faithful stream, and in every step a block that has
been sent stays on its way until its payload has been written. -/
theorem txPipe_faithful (run : TxRun image ei task startAddr n st) :
    st.Faithful ei task (blocks (alignUp startAddr)
        (BitVec.ofNat 32 usbMaxPacket0) n) ∧
      ∀ st', TxStep image ei task st st' →
        st.Passes st' (st.hands ei task) (st.underway ei task)
          (st'.hands ei task) (st'.underway ei task) := by
  obtain ⟨notIdle, atTask, region, places, lists, s, hands, blocked, sound⟩ :=
    run.transmission
  refine ⟨places ▸ sound.faithful, fun st' step => ?_⟩
  obtain ⟨_, lists', s', hands', blocked', after, passes⟩ :=
    sound.step atTask notIdle step
  rw [sound.places.1, sound.places.2, after.places.1, after.places.2]
  exact passes

theorem TxRun.interrupted (run : TxRun image ei task startAddr n st)
    (fuel : Nat)
    (ends : (tnUsbEpTxInt fuel ei st.kernel.enterIrq).isSome = true) :
    TxRun image ei task startAddr n { st with
      kernel := ((tnUsbEpTxInt fuel ei st.kernel.enterIrq).get ends).1.leaveIrq
      written := st.written ++
        ((tnUsbEpTxInt fuel ei st.kernel.enterIrq).get
          ends).2.toList } :=
  run.next (.interrupt fuel (Option.some_get ends).symm)

set_option maxRecDepth 20000 in
/-- A block is sent and written. -/
theorem txPipe_faithful_sample : ∃ st,
    TxRun .sample ⟨0, 0⟩ 0 0x40002000 3 st ∧
      st.written = [0x40002040 :: List.replicate 15 0] ∧
      (st.Faithful ⟨0, 0⟩ 0 (blocks (alignUp 0x40002000)
          (BitVec.ofNat 32 usbMaxPacket0) 3) ∧
        ∀ st', TxStep .sample ⟨0, 0⟩ 0 st st' →
          st.Passes st' (st.hands ⟨0, 0⟩ 0) (st.underway ⟨0, 0⟩ 0)
            (st'.hands ⟨0, 0⟩ 0) (st'.underway ⟨0, 0⟩ 0)) := by
  have created : TxRun .sample ⟨0, 0⟩ 0 0x40002000 3 _ :=
    .start (by decide) (.start Kernel.fresh_zeroed tnStartSystem_started)
      (.answer (.queueCreate (some 0) (some fun _ => 0) 3) _ 9 rfl rfl rfl
        (by decide) ⟨rfl, by decide, by simp [Call.waits]⟩)
      (.answer (.fmemCreate (some 0) 0x40002000 64 3) _ 9 rfl rfl rfl
        (by decide) ⟨rfl, by decide, by simp [Call.waits]⟩)
      (by decide) rfl rfl
  have filling := created.next (.get rfl ⟨rfl, rfl⟩
    (@Outcome.eq_after _ ⟨some .noErr, some 0x40002000, false⟩ rfl))
  have sent := filling.next (.send 9 rfl ⟨rfl, rfl⟩
    (@Outcome.eq_after _ (.ret .noErr) rfl))
  have written := sent.interrupted 9 rfl
  exact ⟨_, written, rfl, txPipe_faithful written⟩

end Runs

end UsbBulk
