import UsbBulk.Usb.Lanes

/-!
# The lanes side by side

The lanes have different objects and different memory, and a task that belongs to
two of them waits for one at a time.  So a step at one lane keeps all of them in
order.
-/

namespace UsbBulk

/-! ## Memory -/

section Memory

variable {build : Build} {b : Board build} {c c' : Lane}
variable {block other address : Word}
variable {mem mem' : Word → Word}

theorem Board.inBlock_bounds (member : block ∈ (b.region c).blocks)
    (inside : InBlock (BitVec.ofNat 32 usbMaxPacket0) block address) :
    (b.poolMem c).toNat ≤ address.toNat ∧
      address.toNat < (b.poolMem c).toNat + usbMaxPacket0 * c.size build := by
  obtain ⟨i, small, start⟩ :=
    (mem_blocks (b.region c).bounded (by decide)).mp member
  have bounded := b.bounded c
  change i < c.size build at small
  change block.toNat = (b.poolMem c).toNat + usbMaxPacket0 * i at start
  unfold InBlock at inside
  simp only [usbMaxPacket0] at *
  bv_omega

theorem Board.blocks_apart (different : c' ≠ c)
    (member : block ∈ (b.region c).blocks)
    (member' : other ∈ (b.region c').blocks)
    (inside : InBlock (BitVec.ofNat 32 usbMaxPacket0) block address) :
    ¬InBlock (BitVec.ofNat 32 usbMaxPacket0) other address := by
  intro inside'
  have bounds := b.inBlock_bounds member inside
  have bounds' := b.inBlock_bounds member' inside'
  rcases b.apart c' c different with below | above <;> omega

/-- What is written into a block cannot be seen in a block of another lane. -/
theorem Board.words_apart (different : c' ≠ c)
    (member : block ∈ (b.region c).blocks)
    (member' : other ∈ (b.region c').blocks)
    (inside : WritesInside (BitVec.ofNat 32 usbMaxPacket0) [block] mem mem')
    {i : Nat} (small : i < usbMaxPacket0 / 4) :
    mem' (wordAt other i) = mem (wordAt other i) := by
  by_contra changed
  obtain ⟨writer, isBlock, covers⟩ := inside _ changed
  obtain rfl := List.mem_singleton.mp isBlock
  refine b.blocks_apart different member member' covers
    (inBlock_wordAt ?_)
  simp only [usbMaxPacket0, BitVec.toNat_ofNat] at *
  omega

theorem Board.lane_unique (member : block ∈ (b.region c).blocks)
    (member' : block ∈ (b.region c').blocks) : c' = c := by
  by_contra different
  exact b.blocks_apart different member member' (inBlock_self (by decide))
    (inBlock_self (by decide))

/-- A payload in another block than the one that is written into. -/
theorem Board.payload_apart (member : block ∈ (b.region c).blocks)
    (member' : other ∈ (b.region c').blocks)
    (inside : WritesInside (BitVec.ofNat 32 usbMaxPacket0) [block] mem mem')
    (different : other ≠ block) :
    payloadAt mem' other = payloadAt mem other := by
  by_cases same : c' = c
  · subst same
    exact payloadAt_congr inside member member' different
  · exact readWords_congr fun i small =>
      b.words_apart same member member' inside small

end Memory

/-! ## The invariant -/

/-- A task that belongs to two lanes waits for one at a time, and interrupt routines
do not wait. -/
structure Parted (views : Lane → LaneView) : Prop where
  relay : ∀ r : Relayer, (views r.source).reader = .receiving →
    ¬(views r.target).producer.inside
  producer : ∀ c, c.isOut = true → ¬(views c).producer.inside
  reader : ∀ c, c = .ep2Tx ∨ c = .ep5Tx → (views c).reader ≠ .receiving

/-- All lanes are in order. -/
structure NetSound {build : Build} (b : Board build)
    (views : Lane → LaneView) (s : Shared) (held : Lane → Held) : Prop where
  lane : ∀ c, LaneSound b c (views c) s (held c)
  parted : Parted views

section Net

variable {build : Build} {b : Board build} {c c' : Lane}
variable {views : Lane → LaneView} {s s' : Shared} {held : Lane → Held}
variable {t : TaskId} {v' : LaneView}

/-- The lane that a task fills the blocks of. -/
def AppTask.produces : AppTask → Option Lane
  | ep2Tx => some .ep2Tx
  | ep2Rx => some .epExch
  | ep5Tx => some .ep5Tx
  | processing | io | ep5Rx => none

/-- The lane that a task empties the blocks of. -/
def AppTask.reads : AppTask → Option Lane
  | ep2Rx => some .ep2Rx
  | ep5Tx => some .epExch
  | ep5Rx => some .ep5Rx
  | processing | io | ep2Tx => none

theorem Parted.attends (parted : Parted views)
    (attends : Attends b c (views c) t) :
    ∃ task : AppTask, t = b.task task ∧
      ((task.produces = some c ∧ (views c).producer.inside) ∨
        (task.reads = some c ∧ (views c).reader = .receiving)) := by
  rcases attends with ⟨isTask, inside⟩ | ⟨isTask, receiving⟩
  · cases c with
    | ep2Rx | ep5Rx => exact absurd inside (parted.producer _ rfl)
    | ep2Tx | ep5Tx | epExch => exact ⟨_, isTask, .inl ⟨rfl, inside⟩⟩
  · cases c with
    | ep2Tx | ep5Tx => exact absurd receiving (parted.reader _ (by simp))
    | ep2Rx | ep5Rx | epExch => exact ⟨_, isTask, .inr ⟨rfl, receiving⟩⟩

/-- A task that reads one lane and fills another one is a relay. -/
theorem AppTask.relayer {task : AppTask} (reads : task.reads = some c)
    (produces : task.produces = some c') :
    ∃ r : Relayer, r.source = c ∧ r.target = c' := by
  cases task with
  | ep2Rx =>
      cases reads
      cases produces
      exact ⟨.ep2Rx, rfl, rfl⟩
  | ep5Tx =>
      cases reads
      cases produces
      exact ⟨.ep5Tx, rfl, rfl⟩
  | ep2Tx | processing | io => cases reads
  | ep5Rx => cases produces

/-- A task is inside a service for one lane at most. -/
theorem Parted.attends_unique (parted : Parted views)
    (first : Attends b c (views c) t) (second : Attends b c' (views c') t) :
    c = c' := by
  obtain ⟨task, rfl, role⟩ := parted.attends first
  obtain ⟨task', same, role'⟩ := parted.attends second
  obtain rfl := b.task_inj same
  rcases role with ⟨produces, inside⟩ | ⟨reads, receiving⟩ <;>
    rcases role' with ⟨produces', inside'⟩ | ⟨reads', receiving'⟩
  · exact Option.some_inj.mp (produces.symm.trans produces')
  · obtain ⟨r, rfl, rfl⟩ := AppTask.relayer reads' produces
    exact absurd inside (parted.relay r receiving')
  · obtain ⟨r, rfl, rfl⟩ := AppTask.relayer reads produces'
    exact absurd inside' (parted.relay r receiving)
  · exact Option.some_inj.mp (reads.symm.trans reads')

namespace NetSound

theorem congr (sound : NetSound b views s held)
    (unseen : ∀ c, Unseen b c s s')
    (own : ∀ c t, Attends b c (views c) t →
      s'.elem t = s.elem t ∧ s'.waitRc t = s.waitRc t)
    (mem : s'.mem = s.mem) : NetSound b views s' held :=
  ⟨fun c => (sound.lane c).congr (unseen c) (own c) fun _ _ => by rw [mem],
    sound.parted⟩

/-- A step at one lane keeps all of them in order. -/
theorem step (sound : NetSound b views s held)
    (step : LaneStep b c (views c) s v' s')
    (parted : Parted (Function.update views c v')) :
    ∃ held', NetSound b (Function.update views c v') s' held' := by
  obtain ⟨h', here⟩ := step.sound (sound.lane c)
  refine ⟨Function.update held c h', fun c' => ?_, parted⟩
  by_cases same : c' = c
  · subst same
    simpa using here
  rw [Function.update_of_ne same, Function.update_of_ne same]
  refine (sound.lane c').congr (step.unseen same) (fun t attends => ?_)
    fun other member' => ?_
  · refine step.untouched (sound.lane c) (fun before => ?_) fun after => ?_
    · exact same (sound.parted.attends_unique attends before)
    · refine same (parted.attends_unique (t := t) (b := b) ?_ ?_)
      · rwa [Function.update_of_ne same]
      · rwa [Function.update_self]
  · rcases step.writes (sound.lane c) with still |
      ⟨block, member, inside, _⟩
    · rw [still]
    · refine b.payload_apart member member' inside ?_
      rintro rfl
      exact same (b.lane_unique member member')

/-- The blocks of a relay that copies from one into the other. -/
theorem copying (sound : NetSound b views s held) {r : Relayer}
    {ptr1 ptr : Word} (reading : (views r.source).reader = .processing ptr1)
    (filling : (views r.target).producer = .filling ptr) :
    (ptr1 ∈ (b.region r.source).blocks ∧ ptr1 ∈ (held r.source).owned) ∧
      ptr ∈ (b.region r.target).blocks ∧ ptr ∈ (held r.target).hands := by
  have owned := (sound.lane r.source).reads reading
  obtain ⟨_, _, hands, _⟩ := (sound.lane r.target).filling filling
  have source := (sound.lane r.source).stock
  have target := (sound.lane r.target).stock
  refine ⟨⟨source.mem_iff.mp ?_, ?_⟩, target.mem_iff.mp ?_, ?_⟩ <;>
    simp [owned, hands]

/-- A step of another party does not change what a relay copies, nor what it has
copied. -/
theorem spares (sound : NetSound b views s held)
    (step : LaneStep b c (views c) s v' s') {r : Relayer} {ptr1 ptr : Word}
    (reading : (views r.source).reader = .processing ptr1)
    (filling : (views r.target).producer = .filling ptr)
    (notOwn : c = r.target → v' ≠ views c) :
    payloadAt s'.mem ptr1 = payloadAt s.mem ptr1 ∧
      payloadAt s'.mem ptr = payloadAt s.mem ptr := by
  obtain ⟨⟨inSource, owned⟩, inTarget, hands⟩ :=
    sound.copying reading filling
  rcases step.writes (sound.lane c) with still |
    ⟨block, member, inside, role⟩
  · rw [still]
    exact ⟨rfl, rfl⟩
  refine ⟨b.payload_apart member inSource inside ?_,
    b.payload_apart member inTarget inside ?_⟩
  · rintro rfl
    obtain rfl := b.lane_unique member inSource
    have nodup := (sound.lane r.source).used_nodup
    rcases role with ⟨_, fills⟩ | releases
    · obtain ⟨_, _, isHands, _⟩ := (sound.lane r.source).filling fills
      rw [isHands] at nodup
      simp only [List.nodup_append, List.mem_append] at nodup
      grind
    · rw [reading] at releases
      cases releases
  · rintro rfl
    obtain rfl := b.lane_unique member inTarget
    have nodup := (sound.lane r.target).used_nodup
    rcases role with ⟨isSame, _⟩ | releases
    · exact notOwn rfl isSame
    · obtain ⟨isOwned, _⟩ := (sound.lane r.target).releasing releases
      rw [isOwned] at nodup
      simp only [List.nodup_append, List.mem_append] at nodup
      grind

end NetSound

/-- There is not more in the queues of the lanes from the host than before. -/
def Board.Drains {build : Build} (b : Board build) (s s' : Shared) : Prop :=
  ∀ c, c.isOut = true →
    (s'.items (b.queue c)).length ≤ (s.items (b.queue c)).length

/-- Only the producer of a lane puts something into its queue. -/
theorem LaneStep.drains (step : LaneStep b c (views c) s v' s')
    (idle : ∀ c, c.isOut = true → (views c).producer = .get) :
    b.Drains s s' := by
  intro c' out
  by_cases other : c' = c
  · subst other
    have idle := idle c' out
    cases step with
    | take here got =>
        obtain ⟨free, -, rfl⟩ := Shared.get_eq_some.mp got
        exact Nat.le_refl _
    | receive here received =>
        cases Shared.received received with
        | refilled items => simp [Shared.wake, Shared.setItems, items]
        | taken items => simp [Shared.setItems, items]
        | handed => exact Nat.le_refl _
    | release =>
        unfold Shared.release
        split <;> exact Nat.le_refl _
    | send here | stall here => cases here.symm.trans idle
    | await | taken | fill | drop | stored | listen | served | finish =>
        exact Nat.le_refl _
  · exact Nat.le_of_eq (congrArg List.length (step.unseen other).items)

theorem LaneStep.sent {v : LaneView} (step : LaneStep b c v s v' s')
    (idle : v.producer = .get) : v'.sent = v.sent := by
  cases step with
  | send here | stall here | drop _ here => cases here.symm.trans idle
  | take | await | taken | fill | stored | receive | listen | served | finish
  | release => rfl

end Net

end UsbBulk
