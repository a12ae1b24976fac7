import UsbBulk.Usb.FirmwareSteps

/-!
# The start of the firmware

`tn_app_init` creates the tasks, then the queues, and then the pools, whose memory is
apart.  After that all lanes are empty, and all their blocks are free.
-/

namespace UsbBulk

/-! ## Single creations -/

section Calls

variable {k k' : Kernel} {fuel : Nat} {reply : Reply}

theorem tnQueueCreate_reply {d : Option DqueId}
    {dataFifo : Option (Int → Word)} {numEntries : Int}
    (run : tnQueueCreate k d dataFifo numEntries = some (k', reply))
    (rc : reply.rc = some .noErr) : reply = .ret .noErr := by
  unfold tnQueueCreate at run
  split at run
  · cases run
    cases rc
  dsimp only at run
  split at run <;> cases run
  · cases rc
  · rfl

theorem tnFmemCreate_reply {f : Option FmpId} {startAddr blockSize : Word}
    {numBlocks : Int}
    (run : tnFmemCreate fuel k f startAddr blockSize numBlocks =
      some (k', reply)) (rc : reply.rc = some .noErr) :
    reply = .ret .noErr := by
  unfold tnFmemCreate at run
  split at run
  · cases run
    cases rc
  dsimp only at run
  split at run
  · cases run
    cases rc
  split at run
  · cases run
    cases rc
  obtain ⟨left, _, run⟩ := Option.bind_eq_some_iff.mp run
  split at run <;> cases run
  · cases rc
  · rfl

/-- A pool in aligned memory has as many blocks as it is asked for. -/
theorem tnFmemCreate_all {f : FmpId} {startAddr blockSize : Word}
    {numBlocks : Int} (aligned : alignUp startAddr = startAddr)
    (whole : alignUp blockSize = blockSize)
    (run : tnFmemCreate fuel k (some f) startAddr blockSize numBlocks =
      some (k', .ret .noErr)) : (k'.fmp f).numBlocks = numBlocks := by
  unfold tnFmemCreate at run
  dsimp only at run
  split at run
  · cases run
  split at run
  · cases run
  rw [aligned, whole] at run
  obtain ⟨left, dropped, run⟩ := Option.bind_eq_some_iff.mp run
  cases fuel with
  | zero => cases dropped
  | succ fuel =>
      rw [dropBlocks, if_neg (by simp)] at dropped
      cases dropped
      split at run
      · cases run
      · cases run
        simp [Kernel.setFmp, Kernel.setMem]

end Calls

/-! ## The calls of `tn_app_init` -/

/-- Some of the queues and pools have been created. -/
structure Board.Creating {build : Build} (b : Board build)
    (queues pools : Lane → Prop) (k : Kernel) (lists : Lists) (s : Shared) :
    Prop where
  shares : Shares (b.rule False) (fun d => ∃ c, queues c ∧ d = b.queue c)
    (fun f => ∃ c, pools c ∧ f = b.memPool c) k lists s
  unused : s.Unused (fun d => ∃ c, queues c ∧ d = b.queue c)
    fun f => ∃ c, pools c ∧ f = b.memPool c
  capacity : ∀ c, queues c → s.capacity (b.queue c) = c.size build - 1
  total : ∀ c, pools c → s.total (b.memPool c) = c.size build
  free : ∀ c, pools c → s.free (b.memPool c) = (b.region c).blocks

section Start

variable {build : Build} {b : Board build} {queues pools : Lane → Prop}
variable {k k' : Kernel} {lists : Lists} {s : Shared} {c : Lane} {reply : Reply}
variable {fuel : Nat} {cs : List Lane} {rest : List Call}

theorem Board.Creating.queue (creating : b.Creating queues pools k lists s)
    (run : tnQueueCreate k (some (b.queue c)) (some (b.queueMem c)) (c.size build) =
      some (k', reply)) (rc : reply.rc = some .noErr) :
    ∃ lists' s', b.Creating (fun c' => queues c' ∨ c' = c) pools k' lists'
      s' := by
  obtain rfl := tnQueueCreate_reply run rc
  obtain ⟨shares, unused, capacity, total, free⟩ := creating
  obtain ⟨lists', s', shares', unused', capacity', free', total', _⟩ :=
    shares.queueCreate unused run
  have created : ∀ d, (∃ c', (queues c' ∨ c' = c) ∧ d = b.queue c') →
      (∃ c', queues c' ∧ d = b.queue c') ∨ d = b.queue c := by
    rintro _ ⟨c', before | rfl, rfl⟩
    · exact .inl ⟨c', before, rfl⟩
    · exact .inr rfl
  refine ⟨lists', s', shares'.mono created fun _ member => member, ?_, ?_, ?_,
    ?_⟩
  · exact ⟨fun d member => unused'.items d (created d member),
      fun d member => unused'.senders d (created d member),
      fun d member => unused'.receivers d (created d member), unused'.takers⟩
  · intro c' member
    rw [capacity']
    by_cases same : c' = c
    · subst same
      rw [Function.update_self]
      omega
    · rw [Function.update_of_ne (b.queue_inj.ne same)]
      exact capacity c' (member.resolve_right same)
  · rwa [total']
  · rwa [free']

theorem Board.Creating.pool (creating : b.Creating queues pools k lists s)
    (run : tnFmemCreate fuel k (some (b.memPool c)) (b.poolMem c)
      (BitVec.ofNat 32 usbMaxPacket0) (c.size build) = some (k', reply))
    (rc : reply.rc = some .noErr) :
    ∃ lists' s', b.Creating queues (fun c' => pools c' ∨ c' = c) k' lists'
      s' := by
  obtain rfl := tnFmemCreate_reply run rc
  obtain ⟨shares, unused, capacity, total, free⟩ := creating
  have bounded := b.bounded c
  have fits : Fits (b.poolMem c) (BitVec.ofNat 32 usbMaxPacket0) (c.size build) := by
    have small : roundUp (b.poolMem c).toNat < 2 ^ 32 := by
      have positive := c.two_le_size build
      simp only [roundUp, usbMaxPacket0] at *
      omega
    have start := congrArg BitVec.toNat (b.aligned c)
    rw [alignUp_toNat _ small] at start
    rw [Fits, start]
    exact Nat.le_of_lt bounded
  have all := tnFmemCreate_all (b.aligned c) (by decide) run
  obtain ⟨absent, _, _, placed, _⟩ := tnFmemCreate_spec fits run
  obtain ⟨_, _, _, start, size, _⟩ := tnFmemCreate_frame run placed
  have blocks : k'.poolBlocks (b.memPool c) = (b.region c).blocks := by
    rw [Kernel.poolBlocks, start, size, all, b.aligned]
    rfl
  have apart : ∀ f, (∃ c', pools c' ∧ f = b.memPool c') →
      ∀ block ∈ s.free f, block ∉ k'.poolBlocks (b.memPool c) := by
    rintro _ ⟨c', member, rfl⟩ block isFree inside
    rw [free c' member] at isFree
    rw [blocks] at inside
    obtain rfl := b.lane_unique isFree inside
    exact absurd (absent.symm.trans (shares.pool _ ⟨_, member, rfl⟩).isFmp)
      (by decide)
  obtain ⟨lists', s', shares', unused', free', total', capacity', _⟩ :=
    shares.fmemCreate unused fits run apart
  have created : ∀ f, (∃ c', (pools c' ∨ c' = c) ∧ f = b.memPool c') →
      (∃ c', pools c' ∧ f = b.memPool c') ∨ f = b.memPool c := by
    rintro _ ⟨c', before | rfl, rfl⟩
    · exact .inl ⟨c', before, rfl⟩
    · exact .inr rfl
  refine ⟨lists', s', shares'.mono (fun _ member => member) created, ?_, ?_,
    ?_, ?_⟩
  · exact ⟨unused'.items, unused'.senders, unused'.receivers,
      fun f member => unused'.takers f (created f member)⟩
  · rwa [capacity']
  · intro c' member
    rw [total']
    by_cases same : c' = c
    · subst same
      rw [Function.update_self, all]
      rfl
    · rw [Function.update_of_ne (b.memPool_inj.ne same)]
      exact total c' (member.resolve_right same)
  · intro c' member
    rw [free']
    by_cases same : c' = c
    · subst same
      rw [Function.update_self, blocks]
    · rw [Function.update_of_ne (b.memPool_inj.ne same)]
      exact free c' (member.resolve_right same)

theorem Board.makeCalls_cons {call : Call} {calls : List Call}
    (run : b.makeCalls fuel (call :: calls) k = some k') :
    ∃ k₁ reply, call.exec b.image.tnTaskExit fuel k = some (k₁, reply) ∧
      reply.rc = some .noErr ∧ b.makeCalls fuel calls k₁ = some k' := by
  obtain ⟨⟨k₁, reply⟩, made, run⟩ := Option.bind_eq_some_iff.mp run
  dsimp only at run
  split at run
  · next rc => exact ⟨k₁, reply, made, rc, run⟩
  · cases run

theorem Board.makeCalls_mode {calls : List Call}
    (run : b.makeCalls fuel calls k = some k') : k'.mode = k.mode := by
  induction calls generalizing k with
  | nil =>
      cases run
      rfl
  | cons call calls ih =>
      obtain ⟨k₁, reply, made, _, rest⟩ := makeCalls_cons run
      exact (ih rest).trans (Call.exec_mode fuel rfl _ call _ made)

theorem Board.make_tasks {ts : List AppTask}
    (kept : Kept (b.rule False) none k lists)
    (run : b.makeCalls fuel (ts.map (fun t =>
      .taskCreate (some (b.task t)) (b.taskParams t)) ++ rest) k = some k') :
    ∃ k₁ lists₁, Kept (b.rule False) none k₁ lists₁ ∧
      b.makeCalls fuel rest k₁ = some k' := by
  induction ts generalizing k lists with
  | nil => exact ⟨k, lists, kept, run⟩
  | cons t ts ih =>
      obtain ⟨k₁, reply, made, _, run⟩ := makeCalls_cons run
      have keeps : Keeps (b.rule False) (tnTaskCreate b.image.tnTaskExit k
        (some (b.task t)) (b.taskParams t)) :=
        tnTaskCreate_keeps kept (fun _ _ => trivial) _ _
      obtain ⟨lists₁, kept₁⟩ := keeps k₁ reply made
      exact ih kept₁ run

theorem Board.Creating.make_queues (creating : b.Creating queues pools k lists s)
    (run : b.makeCalls fuel (cs.map (fun c =>
      .queueCreate (some (b.queue c)) (some (b.queueMem c)) (c.size build)) ++ rest)
      k = some k') :
    ∃ k₁ lists₁ s₁,
      b.Creating (fun c => queues c ∨ c ∈ cs) pools k₁ lists₁ s₁ ∧
      b.makeCalls fuel rest k₁ = some k' := by
  induction cs generalizing k lists s queues with
  | nil => exact ⟨k, lists, s, by simpa using creating, run⟩
  | cons c cs ih =>
      obtain ⟨k₁, reply, made, rc, run⟩ := makeCalls_cons run
      obtain ⟨lists₁, s₁, creating₁⟩ := creating.queue made rc
      obtain ⟨k₂, lists₂, s₂, creating₂, run⟩ := ih creating₁ run
      exact ⟨k₂, lists₂, s₂, by simpa [or_assoc] using creating₂, run⟩

theorem Board.Creating.make_pools (creating : b.Creating queues pools k lists s)
    (run : b.makeCalls fuel (cs.map (fun c =>
      .fmemCreate (some (b.memPool c)) (b.poolMem c)
        (BitVec.ofNat 32 usbMaxPacket0) (c.size build)) ++ rest) k = some k') :
    ∃ k₁ lists₁ s₁,
      b.Creating queues (fun c => pools c ∨ c ∈ cs) k₁ lists₁ s₁ ∧
      b.makeCalls fuel rest k₁ = some k' := by
  induction cs generalizing k lists s pools with
  | nil => exact ⟨k, lists, s, by simpa using creating, run⟩
  | cons c cs ih =>
      obtain ⟨k₁, reply, made, rc, run⟩ := makeCalls_cons run
      obtain ⟨lists₁, s₁, creating₁⟩ := creating.pool made rc
      obtain ⟨k₂, lists₂, s₂, creating₂, run⟩ := ih creating₁ run
      exact ⟨k₂, lists₂, s₂, by simpa [or_assoc] using creating₂, run⟩

/-- After `tn_start_system` nobody waits. -/
theorem Board.kept_of_start (fresh : k.Fresh)
    (run : tnStartSystem b.image k = some k') :
    ∃ lists, Kept (b.rule False) none k' lists := by
  obtain ⟨lists, kept⟩ := Kept.of_start fresh run
  obtain ⟨k₁, run₁, _, _, timer, idle, others⟩ :=
    tnStartSystem_spec b.image fresh
  obtain rfl : k₁ = k' := Option.some.inj (run₁.symm.trans run)
  refine ⟨lists, kept.consistent, fun t => ⟨kept.rule t, fun _ timed => ?_⟩,
    kept.curr⟩
  have waiting := timed.2.1
  by_cases isTimer : t = b.image.timerTask
  · rw [isTimer, timer.taskState] at waiting
    cases waiting
  · by_cases isIdle : t = b.image.idleTask
    · rw [isIdle, idle.taskState] at waiting
      cases waiting
    · exact absurd ((others t isTimer isIdle).symm.trans timed.1) (by decide)

/-- After `tn_app_init` the queues are empty and the blocks are free. -/
theorem Board.tnAppInit_creates (kept : Kept (b.rule False) none k lists)
    (run : b.makeCalls fuel b.tnAppInit k = some k') :
    ∃ lists' s', b.Creating (fun _ => True) (fun _ => True) k' lists' s' := by
  obtain ⟨k₁, lists₁, kept₁, run⟩ := Board.make_tasks kept
    (by rwa [Board.tnAppInit, List.append_assoc] at run)
  obtain ⟨s₁, shares, unused⟩ := Shares.of_kept kept₁
  have nothing : b.Creating (fun _ => False) (fun _ => False) k₁ lists₁ s₁ := by
    refine ⟨shares.mono ?_ ?_, ⟨?_, ?_, ?_, ?_⟩, fun _ absurd => absurd.elim,
      fun _ absurd => absurd.elim, fun _ absurd => absurd.elim⟩ <;>
    · rintro _ ⟨_, absurd, _⟩
      exact absurd.elim
  obtain ⟨k₂, lists₂, s₂, queues, run⟩ := nothing.make_queues run
  obtain ⟨k₃, lists₃, s₃, pools, run⟩ :=
    queues.make_pools (by rwa [← List.append_nil (List.map _ _)] at run)
  cases run
  have all : ∀ c : Lane, c ∈ [Lane.ep2Rx, .ep2Tx, .ep5Rx, .ep5Tx, .epExch] := by
    intro c
    cases c <;> decide
  refine ⟨lists₃, s₃, ?_⟩
  simpa [all] using pools

theorem Board.Creating.laneSound
    (creating : b.Creating (fun _ => True) (fun _ => True) k lists s) :
    LaneSound b c ⟨.get, .receive, [], []⟩ s ⟨[], [], [], [], []⟩ := by
  obtain ⟨shares, unused, capacity, total, free⟩ := creating
  have items := unused.items _ ⟨c, trivial, rfl⟩
  refine ⟨capacity c trivial, total c trivial, ?_, ?_, ?_, fun _ => rfl, [],
    .nothing, ?_⟩
  · simp [items, free c trivial]
  · exact .get (unused.takers _ ⟨c, trivial, rfl⟩)
      (unused.senders _ ⟨c, trivial, rfl⟩)
  · exact .receive (unused.receivers _ ⟨c, trivial, rfl⟩)
  · simp [items]

/-- The firmware is in order after the start, and its queues are empty. -/
theorem Firmware.atStart_sound {k₁ k₂ : Kernel} {device : UsbDevice}
    (fresh : k.Fresh) (start : tnStartSystem b.image k = some k₁)
    (init : b.makeCalls fuel b.tnAppInit k₁ = some k₂) :
    ∃ lists s, FirmwareSound b (.atStart k₂ device) lists s
        (fun _ => ⟨[], [], [], [], []⟩) ∧
      ∀ c, s.items (b.queue c) = [] := by
  obtain ⟨lists, kept⟩ := b.kept_of_start fresh start
  obtain ⟨lists', s, creating⟩ := b.tnAppInit_creates kept init
  have inSystem : k₂.InSystem :=
    (Kernel.InSystem.of_start start).of_mode (b.makeCalls_mode init)
  refine ⟨lists', s, ⟨⟨⟨inSystem.tnSystemRunning, inSystem.tnIntCounter,
    inSystem.tnEnableSwitchContext⟩, rfl⟩, ?_, ⟨fun c => ?_,
    Firmware.parted _⟩, nofun⟩, fun c => ?_⟩
  · have shares : b.Hosts False k₂ lists' s := by
      refine creating.shares.mono ?_ ?_ <;>
      · rintro _ ⟨c, rfl⟩
        exact ⟨c, trivial, rfl⟩
    exact shares.of_same (shares.kept.of_objects rfl rfl rfl rfl rfl rfl rfl
      fun _ => rfl) rfl rfl rfl rfl
  · cases c <;> exact creating.laneSound
  · exact creating.unused.items _ ⟨c, trivial, rfl⟩

theorem FirmwareRun.sound {b : Board .noDma} {st : Firmware}
    (run : FirmwareRun b st) : ∃ lists s held, FirmwareSound b st lists s held := by
  induction run with
  | start fuel fresh start init =>
      obtain ⟨lists, s, sound, _⟩ := Firmware.atStart_sound fresh start init
      exact ⟨lists, s, _, sound⟩
  | next before step ih =>
      obtain ⟨lists, s, held, sound⟩ := ih
      exact sound.step step

end Start

end UsbBulk
