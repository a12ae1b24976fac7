import UsbBulk.Kernel.Background
import UsbBulk.Usb.LaneNet

/-!
# The firmware refines its lanes

Each call of a service by a task of the firmware, and each of the two interrupt
routines, takes steps of the lanes.  The ticks and the tasks that only sleep do not
touch any lane, since the other tasks wait without a timeout.
-/

namespace UsbBulk

/-! ## The rule -/

/-- The tasks that use the lanes. -/
def Board.busy (b : Board build) (t : TaskId) : Prop :=
  t = b.task .ep2Rx ∨ t = b.task .ep2Tx ∨ t = b.task .ep5Rx ∨
    t = b.task .ep5Tx

/-- The tasks that use the lanes have no timeouts: either they are the ones that may
wait, or those that sleep. -/
def Board.rule (b : Board build) (sleeping : Prop) : Rule where
  holds t tcb := b.image.untimedRule.holds t tcb ∧ (b.busy t → ¬tcb.Timed)
  stop t := t ≠ b.image.idleTask ∧ (sleeping → ¬b.busy t)
  raise _ := True
  born _ := True
  waits list timeout := timeout = tnWaitInfinite ∨ (sleeping ∧ list = none)
  same := by
    intro t a b same blkTask holds
    exact ⟨Rule.same _ same blkTask holds.1, fun busy timed =>
      holds.2 busy (same.timed.mp timed)⟩
  awake := by
    intro t a valid waiting noMutex holds
    exact ⟨Rule.awake _ valid waiting noMutex holds.1, fun _ =>
      Tcb.awake_not_timed⟩
  asleep := by
    intro t a list reason timeout runnable stop waits noQueue holds
    refine ⟨Rule.asleep _ runnable stop.1 ?_ noQueue holds.1, fun busy timed => ?_⟩
    · exact waits.elim .inr fun sleeps => .inl sleeps.2
    · rcases waits with rfl | ⟨sleeps, _⟩
      · exact timed.2.2 rfl
      · exact stop.2 sleeps busy
  suspend := by
    intro t a runnable stop holds
    refine ⟨Rule.suspend _ runnable stop.1 holds.1, fun _ timed => ?_⟩
    cases timed.2.1
  ready := by
    intro t a homeless awake holds
    refine ⟨Rule.ready _ homeless awake holds.1, fun _ timed => ?_⟩
    cases timed.2.1
  freeze := by
    intro t a state waiting waits holds
    exact ⟨Rule.freeze _ waiting waits holds.1, fun busy timed =>
      holds.2 busy ⟨timed.1, waiting, timed.2.2⟩⟩
  priority := fun raise holds => ⟨Rule.priority _ raise holds.1, holds.2⟩
  tick := fun timed holds =>
    ⟨Rule.tick _ timed holds.1, fun busy => absurd timed (holds.2 busy)⟩
  create := by
    intro t a b born fresh isTask dormant noQueue noBlk priority holds
    refine ⟨Rule.create _ born fresh isTask dormant noQueue noBlk priority
      holds.1, fun _ timed => ?_⟩
    have waiting := timed.2.1
    rw [dormant] at waiting
    cases waiting

/-- The kernel has the queues and pools of all lanes. -/
def Board.Hosts (b : Board build) (sleeping : Prop) (k : Kernel) (lists : Lists)
    (s : Shared) : Prop :=
  Shares (b.rule sleeping) (fun d => ∃ c, d = b.queue c)
    (fun f => ∃ c, f = b.memPool c) k lists s

section Services

variable {build : Build} {b : Board build} {k k' : Kernel} {lists : Lists}
variable {s : Shared} {c : Lane}
variable {sleeping sleeping' : Prop} {v : LaneView} {reply : Reply}
variable {fuel : Nat} {ptr : Word} {words : List Word}

theorem Kept.reruled (kept : Kept (b.rule sleeping) none k lists) :
    Kept (b.rule sleeping') none k lists :=
  ⟨kept.consistent, kept.rule, kept.curr⟩

theorem Board.Hosts.reruled (hosts : b.Hosts sleeping k lists s) :
    b.Hosts sleeping' k lists s :=
  ⟨hosts.kept.reruled, hosts.waiting, hosts.elem, hosts.waitRc, hosts.mem,
    hosts.queue, hosts.pool⟩

theorem Board.mayWait {task : AppTask} {st : Firmware}
    (runs : st.Runs (b.task task)) :
    MayWait (b.rule False) st.kernel := by
  obtain ⟨current, runnable⟩ := runs
  rw [← current] at runnable
  exact ⟨runnable, ⟨current ▸ b.task_ne_idle task, False.elim⟩,
    fun _ => .inl rfl⟩

/-! ## Services for tasks -/

/-- The reader of a lane calls `tn_queue_receive`. -/
theorem Board.Hosts.receive (hosts : b.Hosts False k lists s)
    (context : k.wrongNonIntContext = false) (may : MayWait (b.rule False) k)
    (current : k.tnCurrRunTask = b.readerTask c) (here : v.reader = .receive)
    (fuel : Nat) :
    ∃ k' reply lists' s', tnQueueReceive fuel k (some (b.queue c)) true
        tnWaitInfinite = some (k', reply) ∧
      SameContext k k' ∧ b.Hosts False k' lists' s' ∧
      ((∃ block, reply.rc = some .noErr ∧ reply.value = some block ∧
          LaneStep b c v s { v with reader := .processing block } s') ∨
        (reply.rc = none ∧
          LaneStep b c v s { v with reader := .receiving } s')) := by
  obtain ⟨answers, waits⟩ := hosts.tnQueueReceive ⟨c, rfl⟩ context may fuel
  cases result : s.receive (b.queue c) with
  | some got =>
      obtain ⟨block, s'⟩ := got
      obtain ⟨k', reply, lists', run, rc, value, same, shares⟩ :=
        answers block s' result
      exact ⟨k', reply, lists', s', run, same, shares, .inl ⟨block, rc, value,
        .receive here result⟩⟩
  | none =>
      obtain ⟨k', reply, lists', run, rc, _, same, shares⟩ := waits result
      rw [current] at shares
      exact ⟨k', reply, lists', _, run, same, shares,
        .inr ⟨rc, .listen here result⟩⟩

/-- The producer of a lane calls `tn_fmem_get`. -/
theorem Board.Hosts.get (hosts : b.Hosts False k lists s)
    (context : k.wrongNonIntContext = false) (may : MayWait (b.rule False) k)
    (current : k.tnCurrRunTask = b.producerTask c) (here : v.producer = .get) :
    ∃ k' reply lists' s', tnFmemGet k (some (b.memPool c)) true
        tnWaitInfinite = some (k', reply) ∧
      SameContext k k' ∧ b.Hosts False k' lists' s' ∧
      ((∃ block, reply.rc = some .noErr ∧ reply.value = some block ∧
          LaneStep b c v s { v with producer := .filling block } s') ∨
        (reply.rc = none ∧
          LaneStep b c v s { v with producer := .getting } s')) := by
  obtain ⟨answers, waits⟩ := hosts.tnFmemGet ⟨c, rfl⟩ context may
  cases result : s.get (b.memPool c) with
  | some got =>
      obtain ⟨block, s'⟩ := got
      obtain ⟨k', reply, lists', run, rc, value, same, shares⟩ :=
        answers block s' result
      exact ⟨k', reply, lists', s', run, same, shares, .inl ⟨block, rc, value,
        .take here result⟩⟩
  | none =>
      obtain ⟨k', reply, lists', run, rc, _, same, shares⟩ := waits result
      rw [current] at shares
      exact ⟨k', reply, lists', _, run, same, shares,
        .inr ⟨rc, .await here result⟩⟩

/-- The producer of a lane calls `tn_queue_send`. -/
theorem Board.Hosts.send (hosts : b.Hosts False k lists s)
    (context : k.wrongNonIntContext = false) (may : MayWait (b.rule False) k)
    (current : k.tnCurrRunTask = b.producerTask c)
    (here : v.producer = .filling ptr)
    (fits : c.Matches words (payloadAt s.mem ptr)) (fuel : Nat) :
    ∃ k' reply lists' s', tnQueueSend fuel k (some (b.queue c)) ptr
        tnWaitInfinite = some (k', reply) ∧
      SameContext k k' ∧ b.Hosts False k' lists' s' ∧
      ((reply.rc = some .noErr ∧ LaneStep b c v s
          { v with producer := .get, sent := v.sent ++ [words] } s') ∨
        (reply.rc = none ∧ LaneStep b c v s
          { v with producer := .sending, sent := v.sent ++ [words] } s')) := by
  obtain ⟨answers, waits⟩ := hosts.tnQueueSend ⟨c, rfl⟩ context may fuel ptr
  cases result : s.send (b.queue c) ptr with
  | some s' =>
      obtain ⟨k', reply, lists', run, rc, _, same, shares⟩ := answers s' result
      exact ⟨k', reply, lists', s', run, same, shares,
        .inl ⟨rc, .send here fits result⟩⟩
  | none =>
      obtain ⟨k', reply, lists', run, rc, _, same, shares⟩ := waits result
      rw [current] at shares
      exact ⟨k', reply, lists', _, run, same, shares,
        .inr ⟨rc, .stall here fits result⟩⟩

section Net

variable {views : Lane → LaneView} {held : Lane → Held} {mem : Word → Word}

/-- What has to be known of a block before it is released. -/
theorem NetSound.releasable (net : NetSound b views s held)
    (here : (views c).reader = .release ptr) :
    ptr ≠ 0 ∧ (∀ c', ptr ∉ s.free (b.memPool c')) ∧
      (s.free (b.memPool c)).length < s.total (b.memPool c) := by
  obtain ⟨owned, _⟩ := (net.lane c).releasing here
  have stock := (net.lane c).stock
  have member : ptr ∈ (b.region c).blocks :=
    stock.mem_iff.mp (by simp [owned])
  refine ⟨Region.ne_zero member, fun c' isFree => ?_, ?_⟩
  · have member' := (net.lane c').stock.mem_iff.mp
      (List.mem_append_left _ isFree)
    obtain rfl := b.lane_unique member member'
    have nodup := stock.nodup_iff.mpr (b.region c').nodup
    exact (List.nodup_append.mp nodup).2.2 ptr isFree ptr (by simp [owned]) rfl
  · have total := (net.lane c).total_count
    rw [(net.lane c).total, ← total, owned]
    simp only [List.length_cons]
    omega

/-- The reader of a lane calls `tn_fmem_release`. -/
theorem Board.Hosts.release (hosts : b.Hosts False k lists s)
    (net : NetSound b views s held)
    (context : k.wrongNonIntContext = false)
    (here : (views c).reader = .release ptr) (fuel : Nat) :
    ∃ k' reply lists' s', tnFmemRelease fuel k (some (b.memPool c)) ptr =
        some (k', reply) ∧
      SameContext k k' ∧ reply.rc = some .noErr ∧ b.Hosts False k' lists' s' ∧
      LaneStep b c (views c) s { views c with reader := .receive } s' := by
  obtain ⟨notNull, fresh, room⟩ := net.releasable here
  obtain ⟨k', reply, lists', run, rc, _, same, shares⟩ :=
    hosts.tnFmemRelease ⟨c, rfl⟩ context fuel notNull
      (by rintro _ ⟨c', rfl⟩; exact fresh c') room
  exact ⟨k', reply, lists', _, run, same, rc, shares, .release here⟩

theorem Board.Hosts.fill (hosts : b.Hosts False k lists s)
    (net : NetSound b views s held)
    (here : (views c).producer = .filling ptr)
    (inside : WritesInside (BitVec.ofNat 32 usbMaxPacket0) [ptr] k.mem mem) :
    b.Hosts False (k.setMem mem) lists (s.setMem mem) ∧
      LaneStep b c (views c) s (views c) (s.setMem mem) := by
  rw [hosts.mem] at inside
  refine ⟨hosts.write mem ?_, .fill here inside⟩
  rintro _ ⟨c', rfl⟩ other isFree
  obtain ⟨_, _, hands, _⟩ := (net.lane c).filling here
  by_cases same : c' = c
  · subst same
    exact ((net.lane c').payloads inside (.inl (by simp [hands]))).1 other
      isFree
  · have member : ptr ∈ (b.region c).blocks :=
      (net.lane c).stock.mem_iff.mp (by simp [hands])
    have member' := (net.lane c').stock.mem_iff.mp
      (List.mem_append_left _ isFree)
    have word := b.words_apart same member member' inside
      (show 0 < usbMaxPacket0 / 4 by decide)
    rwa [wordAt_zero] at word

/-! ## Interrupt routines -/

/-- What a relay copies, and what it has copied, is the same. -/
def Spared (views : Lane → LaneView) (s s' : Shared) : Prop :=
  ∀ (r : Relayer) (ptr1 ptr : Word),
    (views r.source).reader = .processing ptr1 →
    (views r.target).producer = .filling ptr →
      payloadAt s'.mem ptr1 = payloadAt s.mem ptr1 ∧
        payloadAt s'.mem ptr = payloadAt s.mem ptr

/-- An interrupt routine has taken steps of one lane, without doing anything for a
task. -/
structure Advances {build : Build} (b : Board build) (c : Lane)
    (views : Lane → LaneView) (s : Shared) (v' : LaneView) (s' : Shared) : Prop where
  sound : ∃ held', NetSound b (Function.update views c v') s' held'
  spared : Spared views s s'
  reader : ∀ r : Relayer, r.source = c → v'.reader = (views c).reader
  producer : ∀ r : Relayer, r.target = c → v'.producer = (views c).producer
  others : ∀ c', c' ≠ c → s'.items (b.queue c') = s.items (b.queue c')

theorem Advances.refl (net : NetSound b views s held) :
    Advances b c views s (views c) s where
  sound := by
    rw [Function.update_eq_self]
    exact ⟨held, net⟩
  spared _ _ _ _ _ := ⟨rfl, rfl⟩
  reader _ _ := rfl
  producer _ _ := rfl
  others _ _ := rfl

/-- What the tasks of a relay are doing is the same in the lanes. -/
theorem Advances.same {v' : LaneView} {s' : Shared}
    (advances : Advances b c views s v' s') (r : Relayer) :
    (Function.update views c v' r.source).reader = (views r.source).reader ∧
      (Function.update views c v' r.target).producer =
        (views r.target).producer := by
  constructor
  · by_cases source : r.source = c
    · rw [source, Function.update_self, advances.reader r source]
    · rw [Function.update_of_ne source]
  · by_cases target : r.target = c
    · rw [target, Function.update_self, advances.producer r target]
    · rw [Function.update_of_ne target]

theorem Advances.step {v' v'' : LaneView} {s' s'' : Shared}
    (advances : Advances b c views s v' s')
    (step : LaneStep b c v' s' v'' s'')
    (reader : ∀ r : Relayer, r.source = c → v''.reader = v'.reader)
    (producer : ∀ r : Relayer, r.target = c →
      v''.producer = v'.producer ∧ v'' ≠ v')
    (calm : c.isOut = true → ¬v''.producer.inside)
    (awake : c = .ep2Tx ∨ c = .ep5Tx → v''.reader ≠ .receiving) :
    Advances b c views s v'' s'' := by
  have sameBefore := advances.same
  obtain ⟨⟨held', net⟩, spared, reader', producer', others⟩ := advances
  have here : LaneStep b c (Function.update views c v' c) s' v'' s'' := by
    rwa [Function.update_self]
  have parted : Parted (Function.update (Function.update views c v') c v'') := by
    have before := net.parted
    refine ⟨fun r => ?_, fun c' out => ?_, fun c' isIn => ?_⟩
    · have relay := before.relay r
      by_cases source : r.source = c <;> by_cases target : r.target = c
      · simpa [source, target, reader r source, producer r target] using relay
      · simpa [source, target, reader r source] using relay
      · simpa [source, target, producer r target] using relay
      · simpa [source, target] using relay
    · by_cases same : c' = c
      · subst same
        simpa using calm out
      · simpa [same] using before.producer c' out
    · by_cases same : c' = c
      · subst same
        simpa using awake isIn
      · simpa [same] using before.reader c' isIn
  obtain ⟨held'', after⟩ := net.step here parted
  rw [Function.update_idem] at after
  refine ⟨⟨held'', after⟩, fun r ptr1 ptr reading filling => ?_,
    fun r source => (reader r source).trans (reader' r source),
    fun r target => (producer r target).1.trans (producer' r target),
    fun c' other => (step.unseen other).items.trans (others c' other)⟩
  obtain ⟨same₁, same⟩ := spared r ptr1 ptr reading filling
  obtain ⟨same₁', same'⟩ := net.spares here
    ((sameBefore r).1.trans reading) ((sameBefore r).2.trans filling)
    fun target => by
      rw [Function.update_self]
      exact (producer r target.symm).2
  exact ⟨same₁'.trans same₁, same'.trans same⟩

/-- No task fills the blocks of a lane from the host. -/
theorem Relayer.target_notOut (r : Relayer) : r.target.isOut = false := by
  cases r <;> rfl

/-- No task empties the blocks of a lane to the host. -/
theorem Relayer.source_ne (r : Relayer) :
    r.source ≠ .ep2Tx ∧ r.source ≠ .ep5Tx := by
  cases r <;> decide

theorem Advances.fromHost {v' v'' : LaneView} {s' s'' : Shared}
    (advances : Advances b c views s v' s') (out : c.isOut = true)
    (step : LaneStep b c v' s' v'' s'') (reader : v''.reader = v'.reader)
    (calm : ¬v''.producer.inside) : Advances b c views s v'' s'' := by
  refine advances.step step (fun _ _ => reader) (fun r target => ?_)
    (fun _ => calm) fun isIn => ?_
  · rw [← target, r.target_notOut] at out
    cases out
  · rcases isIn with rfl | rfl <;> cases out

theorem Advances.toHost {v' v'' : LaneView} {s' s'' : Shared}
    (advances : Advances b c views s v' s') (isIn : c = .ep2Tx ∨ c = .ep5Tx)
    (step : LaneStep b c v' s' v'' s'')
    (producer : v''.producer = v'.producer) (moves : v''.reader ≠ v'.reader)
    (awake : v''.reader ≠ .receiving) : Advances b c views s v'' s'' := by
  refine advances.step step (fun r source => ?_)
    (fun _ _ => ⟨producer, fun same => moves (same ▸ rfl)⟩) (fun out => ?_)
    fun _ => awake
  · rw [← source] at isIn
    exact absurd isIn (not_or.mpr r.source_ne)
  · rcases isIn with rfl | rfl <;> cases out

/-- The view of a lane after `tn_usb_ep_rx_int`. -/
def LaneView.afterRx (v : LaneView) (packet : Option UsbPacket)
    (read : Bool) : LaneView :=
  match packet with
  | some packet =>
      if read then { v with sent := v.sent ++ [packet.words] } else v
  | none => v

/-- What `tn_usb_ep_rx_int` does with a packet: it is not read, it is read and stored,
or it is read and dropped. -/
inductive RxOutcome {build : Build} (b : Board build) (c : Lane)
    (packet : UsbPacket) (s : Shared) : Bool → Shared → Prop where
  | refused (empty : s.free (b.memPool c) = []) : RxOutcome b c packet s false s
  | stored {block : Word} {s₁ s' : Shared} {mem : Word → Word}
      (got : s.get (b.memPool c) = some (block, s₁))
      (inside : WritesInside (BitVec.ofNat 32 usbMaxPacket0) [block] s₁.mem mem)
      (fits : packet.words <+: payloadAt mem block)
      (accepted : (s₁.setMem mem).send (b.queue c) block = some s') :
      RxOutcome b c packet s true s'
  | dropped {block : Word} {s₁ : Shared} {mem : Word → Word}
      (got : s.get (b.memPool c) = some (block, s₁))
      (inside : WritesInside (BitVec.ofNat 32 usbMaxPacket0) [block] s₁.mem mem)
      (full : (s₁.setMem mem).send (b.queue c) block = none) :
      RxOutcome b c packet s true (s₁.setMem mem)

/-- The first half of `tn_usb_ep_rx_int`: a free block is taken, and the packet is
written into it. -/
theorem Board.Hosts.rxFill (hosts : b.Hosts False k lists s)
    (net : NetSound b views s held) (context : k.wrongIntContext = false)
    (out : c.isOut = true) (here : (views c).producer = .get)
    (packet : UsbPacket) {block : Word} {s₁ : Shared}
    (got : s.get (b.memPool c) = some (block, s₁)) :
    ∃ k₁ reply lists₁ mem, tnFmemGetIpolling k (some (b.memPool c)) true =
        some (k₁, reply) ∧
      reply.rc = some .noErr ∧ reply.value = some block ∧
      mem = writeWords k₁.mem block packet.words ∧
      (k₁.setMem mem).mode = k.mode ∧
      (k₁.setMem mem).wrongIntContext = false ∧
      b.Hosts False (k₁.setMem mem) lists₁ (s₁.setMem mem) ∧
      Advances b c views s { views c with producer := .filling block }
        (s₁.setMem mem) ∧
      WritesInside (BitVec.ofNat 32 usbMaxPacket0) [block] s₁.mem mem ∧
      packet.words <+: payloadAt mem block := by
  obtain ⟨answers, _⟩ := hosts.tnFmemGetIpolling ⟨c, rfl⟩ context
  obtain ⟨k₁, reply, lists₁, run₁, rc, value, same₁, hosts₁⟩ :=
    answers block s₁ got
  have taken : Advances b c views s { views c with producer := .filling block }
      s₁ := (Advances.refl net).fromHost out (.take here got) rfl id
  have short := packet.length_words
  have small : 4 * packet.words.length ≤ usbMaxPacket0 := by
    simp only [usbMaxPacket0] at short ⊢
    omega
  have inside : WritesInside (BitVec.ofNat 32 usbMaxPacket0) [block]
      k₁.mem (writeWords k₁.mem block packet.words) :=
    fun address changed => ⟨block, by simp, writeWords_inside small changed⟩
  obtain ⟨held₁, net₁⟩ := taken.sound
  obtain ⟨hosts₂, filled⟩ := Board.Hosts.fill (c := c) hosts₁ net₁
    (by rw [Function.update_self]) inside
  rw [Function.update_self] at filled
  exact ⟨k₁, reply, lists₁, _, run₁, rc, value, rfl,
    Call.exec_mode 0 rfl 0 (.fmemGetIpolling (some _) true) _ run₁,
    same₁.wrongIntContext context, hosts₂, taken.fromHost out filled rfl id,
    hosts₁.mem ▸ inside, readWords_writeWords short (by decide)⟩

/-- `tn_usb_ep_rx_int` at a lane from the host. -/
theorem Board.Hosts.rxInt (hosts : b.Hosts False k lists s)
    (net : NetSound b views s held) (context : k.wrongIntContext = false)
    (out : c.isOut = true) (here : (views c).producer = .get)
    (may : c.drops build = true ∨
      (s.items (b.queue c)).length < s.capacity (b.queue c))
    (packet : Option UsbPacket) (fuel : Nat) :
    ∃ k' read lists' s', tnUsbEpRxInt fuel (b.ei c) packet k =
        some (k', read) ∧
      (read = false → k' = k) ∧
      k'.mode = k.mode ∧ k'.wrongIntContext = false ∧ b.Hosts False k' lists' s' ∧
      Advances b c views s ((views c).afterRx packet read) s' ∧
      ∀ taken, packet = some taken → RxOutcome b c taken s read s' := by
  cases packet with
  | none =>
      exact ⟨k, false, lists, s, rfl, fun _ => rfl, rfl, context, hosts,
        .refl net, nofun⟩
  | some packet =>
  change ∃ k' read lists' s', (tnFmemGetIpolling k (some (b.memPool c))
    true).bind _ = _ ∧ _
  cases got : s.get (b.memPool c) with
  | none =>
      obtain ⟨_, refused⟩ := hosts.tnFmemGetIpolling ⟨c, rfl⟩ context
      rw [refused got]
      refine ⟨k, false, lists, s, rfl, fun _ => rfl, rfl, context, hosts,
        .refl net, fun _ _ => .refused (Shared.get_eq_none.mp got)⟩
  | some got' =>
      obtain ⟨block, s₁⟩ := got'
      obtain ⟨k₁, reply, lists₁, mem, run₁, rc, value, isMem, mode₁, context₁,
        hosts₁, written, inside, prefixed⟩ :=
        hosts.rxFill net context out here packet got
      rw [run₁]
      simp only [Option.bind_some, rc, value, Option.bind_eq_bind, if_true,
        ← isMem]
      have fits : c.Matches packet.words (payloadAt (s₁.setMem mem).mem block) := by
        rw [Lane.Matches, if_pos out]
        exact prefixed
      have after : (views c).afterRx (some packet) true =
          ⟨.get, (views c).reader, (views c).sent ++ [packet.words],
            (views c).done⟩ := by
        rw [← here]
        rfl
      -- The block is sent, or dropped.
      obtain ⟨accepted, rejected⟩ :=
        hosts₁.tnQueueIsendPolling ⟨c, rfl⟩ context₁ fuel block
      change ∃ k' read lists' s', (tnQueueIsendPolling fuel _
        (some (b.queue c)) block).bind _ = _ ∧ _
      cases result : (s₁.setMem mem).send (b.queue c) block with
      | some s₂ =>
          obtain ⟨k₂, _, lists₂, run₂, _, _, same₂, hosts₂⟩ :=
            accepted s₂ result
          rw [run₂]
          refine ⟨k₂, true, lists₂, s₂, rfl, nofun, Call.exec_mode fuel mode₁ 0
            (.queueIsendPolling (some _) block) _ run₂,
            same₂.wrongIntContext context₁, hosts₂, ?_, ?_⟩
          · rw [after]
            exact written.fromHost out (.send rfl fits result) rfl id
          · rintro _ ⟨⟩
            exact .stored got inside prefixed result
      | none =>
          obtain ⟨k₂, _, lists₂, run₂, _, _, same₂, hosts₂⟩ := rejected result
          rw [run₂]
          have drops : c.drops build = true := by
            obtain ⟨free, -, rfl⟩ := Shared.get_eq_some.mp got
            exact may.resolve_right (Shared.send_eq_none.mp result).2.not_lt
          refine ⟨k₂, true, lists₂, _, rfl, nofun, Call.exec_mode fuel mode₁ 0
            (.queueIsendPolling (some _) block) _ run₂,
            same₂.wrongIntContext context₁, hosts₂, ?_, ?_⟩
          · rw [after]
            exact written.fromHost out (.drop drops rfl result) rfl id
          · rintro _ ⟨⟩
            exact .dropped got inside result

/-- The view of a lane after `tn_usb_ep_tx_int`. -/
def LaneView.afterTx (v : LaneView) (payload : Option (List Word)) : LaneView :=
  match payload with
  | some payload => { v with done := v.done ++ [payload] }
  | none => v

/-- The block that is received is the first one in the queue. -/
theorem LaneSound.first {v : LaneView} {h : Held} (sound : LaneSound b c v s h)
    {block : Word} {s' : Shared}
    (received : s.receive (b.queue c) = some (block, s')) :
    (s.items (b.queue c)).head? = some block := by
  have sender := sound.producing.sender
  cases Shared.received received with
  | refilled items | taken items => rw [items, List.head?_cons]
  | handed items waits =>
      -- No task waits for a place in an empty queue.
      rcases sender with ⟨noSender, _⟩ | ⟨_, _, _, _, _, full⟩
      · rw [noSender] at waits
        cases waits
      · have two := c.two_le_size build
        rw [items, sound.capacity, List.length_nil] at full
        omega

/-- `tn_usb_ep_tx_int` at a lane to the host. -/
theorem Board.Hosts.txInt (hosts : b.Hosts False k lists s)
    (net : NetSound b views s held) (context : k.wrongIntContext = false)
    (isIn : c = .ep2Tx ∨ c = .ep5Tx) (here : (views c).reader = .receive)
    (fuel : Nat) :
    ∃ k' lists' s', tnUsbEpTxInt fuel (b.ei c) k = some (k',
        (s.items (b.queue c)).head?.map (payloadAt s.mem)) ∧
      k'.mode = k.mode ∧ k'.wrongIntContext = false ∧
      b.Hosts False k' lists' s' ∧
      Advances b c views s ((views c).afterTx
        ((s.items (b.queue c)).head?.map (payloadAt s.mem))) s' := by
  obtain ⟨answers, refused⟩ := hosts.tnQueueIreceive ⟨c, rfl⟩ context fuel
  cases received : s.receive (b.queue c) with
  | none =>
      obtain ⟨k₁, reply, lists₁, run₁, rc, _, same₁, hosts₁⟩ := refused received
      have empty : (s.items (b.queue c)).head? = none := by
        rw [(Shared.receive_eq_none.mp received).1, List.head?_nil]
      rw [empty]
      refine ⟨k₁, lists₁, s, ?_,
        Call.exec_mode fuel rfl 0 (.queueIreceive (some _) true) _ run₁,
        same₁.wrongIntContext context, hosts₁, .refl net⟩
      change (tnQueueIreceive fuel k (some (b.queue c)) true).bind _ = _
      rw [run₁]
      simp [rc]
  | some received' =>
      obtain ⟨block, s₁⟩ := received'
      rw [(net.lane c).first received]
      obtain ⟨k₁, reply, lists₁, run₁, rc, value, same₁, hosts₁⟩ :=
        answers block s₁ received
      have mode₁ : k₁.mode = k.mode :=
        Call.exec_mode fuel rfl 0 (.queueIreceive (some _) true) _ run₁
      have taken : Advances b c views s _ s₁ :=
        (Advances.refl net).toHost isIn (.receive here received) rfl
          (by simp [here]) (by simp)
      -- The payload is written to the transmitter.
      have used := taken.toHost isIn (.finish rfl) rfl (by simp) (by simp)
      obtain ⟨held₂, net₂⟩ := used.sound
      obtain ⟨notNull, fresh, room⟩ := net₂.releasable (c := c)
        (by rw [Function.update_self])
      have context₁ := same₁.wrongIntContext context
      obtain ⟨k₂, _, lists₂, run₂, _, _, same₂, hosts₂⟩ :=
        hosts₁.tnFmemIrelease ⟨c, rfl⟩ context₁ fuel notNull
          (by rintro _ ⟨c', rfl⟩; exact fresh c') room
      have mode₂ : k₂.mode = k₁.mode :=
        Call.exec_mode fuel rfl 0 (.fmemIrelease (some _) block) _ run₂
      have mem : s₁.mem = s.mem := by
        cases Shared.received received <;> rfl
      refine ⟨k₂, lists₂, _, ?_, mode₂.trans mode₁,
        same₂.wrongIntContext context₁, hosts₂, ?_⟩
      · change (tnQueueIreceive fuel k (some (b.queue c)) true).bind _ = _
        rw [run₁]
        simp only [Option.bind_some, rc, value, Option.bind_eq_bind, if_true]
        change (tnFmemIrelease fuel k₁ (some (b.memPool c)) block).bind _ = _
        rw [run₂, hosts₁.mem, mem]
        rfl
      · have after : (views c).afterTx
            ((some block).map (payloadAt s.mem)) =
            ⟨(views c).producer, .receive, (views c).sent,
              (views c).done ++ [payloadAt s₁.mem block]⟩ := by
          rw [← here, mem]
          rfl
        rw [after]
        exact used.toHost isIn (.release rfl) rfl (by simp) (by simp)

/-! ## Steps beside the lanes -/

theorem Board.Hosts.tick (hosts : b.Hosts False k lists s)
    (net : NetSound b views s held)
    (run : tnTickIntProcessing fuel k = some k') :
    k'.mode = k.mode ∧ ∃ lists' s', b.Hosts False k' lists' s' ∧
      NetSound b views s' held ∧ s'.mem = s.mem ∧ s'.items = s.items := by
  have rule := hosts.kept.rule
  obtain ⟨mode, lists', waitRc, after, same⟩ :=
    Shares.tick hosts (fun t due => (rule t).1.2 due.1) run
  have unseen : ∀ c, Unseen b c s { s with waitRc := waitRc } := fun _ =>
    ⟨rfl, rfl, rfl, rfl, rfl, rfl, rfl⟩
  refine ⟨mode, lists', _, after, net.congr unseen ?_ rfl, rfl, rfl⟩
  intro c t attends
  refine ⟨rfl, same t ((rule t).2 ?_)⟩
  obtain ⟨task, rfl, role⟩ := net.parted.attends attends
  unfold Board.busy
  cases task with
  | processing | io => rcases role with ⟨role, _⟩ | ⟨role, _⟩ <;> cases role
  | ep2Rx | ep2Tx | ep5Rx | ep5Tx => simp

theorem Board.Sleeper.not_busy {t : TaskId} {timeout : Word}
    (sleeper : b.Sleeper t timeout) :
    t ≠ b.image.idleTask ∧ ¬b.busy t ∧ timeout ≠ 0 := by
  unfold Board.busy
  cases sleeper with
  | processing | io => simp [b.task_ne_idle, b.task_inj.eq_iff]
  | timer =>
      exact ⟨b.image.distinct, by simp [(b.task_ne_timer _).symm], by decide⟩

/-- A task that goes to sleep is not seen by the lanes. -/
theorem Board.Hosts.sleep (hosts : b.Hosts False k lists s) {timeout : Word}
    (context : k.wrongNonIntContext = false)
    (sleeper : b.Sleeper k.tnCurrRunTask timeout)
    (running : (k.tcb k.tnCurrRunTask).taskState = .runnable) :
    ∃ k' reply lists', tnTaskSleep k timeout = some (k', reply) ∧
      reply.rc = some .noErr ∧ SameContext k k' ∧ b.Hosts False k' lists' s := by
  have sleeping : b.Hosts True k lists s := hosts.reruled
  obtain ⟨notIdle, notBusy, accepted⟩ := sleeper.not_busy
  obtain ⟨k', reply, lists', run, noErr, same, after⟩ :=
    Shares.taskSleep sleeping context running ⟨notIdle, fun _ => notBusy⟩
      (.inr ⟨trivial, rfl⟩) accepted
  have awake : b.Hosts True k' lists' s := after
  exact ⟨k', reply, lists', run, noErr, same, awake.reruled⟩

theorem Board.Hosts.dispatch (hosts : b.Hosts False k lists s)
    (run : tnSwitchContext k = some k') : b.Hosts False k' lists s := by
  have kept := hosts.kept.dispatch run
  obtain ⟨next, _, result⟩ := Option.bind_eq_some_iff.mp run
  cases result
  exact hosts.of_same kept rfl rfl rfl rfl

end Net

end Services

end UsbBulk
