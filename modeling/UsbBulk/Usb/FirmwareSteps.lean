import UsbBulk.Usb.FirmwareOrder

/-!
# Every step of the firmware keeps its lanes in order

What the lanes see of the tasks is a function of the state of the firmware, and a
task that copies from one lane into another one has copied what it has read.
-/

namespace UsbBulk

/-! ## The invariant -/

/-- What the lane that the task receives from sees of it. -/
def Relay.reader : Relay → Reader
  | receive => .receive
  | receiving => .receiving
  | get ptr1 | getting ptr1 | copying ptr1 _ _ => .processing ptr1
  | sending ptr1 | release ptr1 => .release ptr1

/-- What the lane that the task sends to sees of it. -/
def Relay.producer : Relay → Producer
  | receive | receiving | get _ | release _ => .get
  | getting _ => .getting
  | copying _ ptr _ => .filling ptr
  | sending _ => .sending

namespace Firmware

variable (st : Firmware)

/-- What the lanes see. -/
def view : Lane → LaneView
  | .ep2Rx =>
      ⟨.get, (st.relay .ep2Rx).reader, st.sent .ep2Rx, st.sent .epExch⟩
  | .epExch =>
      ⟨(st.relay .ep2Rx).producer, (st.relay .ep5Tx).reader, st.sent .epExch,
        st.sent .ep5Tx⟩
  | .ep5Tx =>
      ⟨(st.relay .ep5Tx).producer, .receive, st.sent .ep5Tx, st.left .ep5Tx⟩
  | .ep2Tx => ⟨st.ep2Tx, .receive, st.sent .ep2Tx, st.left .ep2Tx⟩
  | .ep5Rx => ⟨.get, st.ep5Rx, st.sent .ep5Rx, st.left .ep5Rx⟩

/-- The words that have been copied are those that have been read. -/
def Copied (mem : Word → Word) : Prop :=
  ∀ r ptr1 ptr count, st.relay r = .copying ptr1 ptr count →
    count ≤ usbMaxPacket0 / 4 ∧
      ∀ i < count, mem (wordAt ptr i) = mem (wordAt ptr1 i)

end Firmware

/-- The firmware is in order. -/
structure FirmwareSound {build : Build} (b : Board build) (st : Firmware) (lists : Lists)
    (s : Shared) (held : Lane → Held) : Prop where
  atTask : st.kernel.AtTask
  hosts : b.Hosts False st.kernel lists s
  net : NetSound b st.view s held
  copied : st.Copied s.mem

/-- The firmware is in order after a step, and no task has put anything into a lane
from the host. -/
def FirmwareFollows {build : Build} (b : Board build) (st : Firmware) (s : Shared)
    (st' : Firmware) : Prop :=
  ∃ lists' s' held', FirmwareSound b st' lists' s' held' ∧ b.Drains s s' ∧
    ∀ c, c.isOut = true → st'.sent c = st.sent c

section Views

variable {st : Firmware} {r : Relayer} {relay : Relay} {words : List Word}

namespace Firmware

@[simp] theorem view_source : (st.view r.source).reader = (st.relay r).reader := by
  cases r <;> rfl

@[simp] theorem view_target :
    (st.view r.target).producer = (st.relay r).producer := by
  cases r <;> rfl

/-- No task fills the blocks of a lane from the host. -/
theorem view_idle (st : Firmware) {c : Lane} (out : c.isOut = true) :
    (st.view c).producer = .get := by
  cases c with
  | ep2Rx | ep5Rx => rfl
  | ep2Tx | ep5Tx | epExch => cases out

theorem view_sent (st : Firmware) (c : Lane) :
    (st.view c).sent = st.sent c := by
  cases c <;> rfl

theorem parted (st : Firmware) : Parted st.view where
  relay r waits inside := by
    rw [view_source] at waits
    rw [view_target] at inside
    generalize st.relay r = relay at waits inside
    cases relay with
    | receiving => exact inside
    | receive | get | getting | copying | sending | release => cases waits
  producer c out inside := by
    rw [view_idle st out] at inside
    exact inside
  reader c isIn waits := by
    rcases isIn with rfl | rfl <;> cases waits

/-- The lane that a task sends to cannot tell what it does with the other one. -/
theorem view_reads (same : relay.producer = (st.relay r).producer) :
    (st.setRelay r relay).view = Function.update st.view r.source
      { st.view r.source with reader := relay.reader } := by
  funext c
  cases r <;> cases c <;> simp [view, setRelay, Relayer.source, same]

/-- The lane that a task receives from cannot tell what it does with the other
one. -/
theorem view_produces (same : relay.reader = (st.relay r).reader) :
    (st.setRelay r relay).view = Function.update st.view r.target
      { st.view r.target with producer := relay.producer } := by
  funext c
  cases r <;> cases c <;> simp [view, setRelay, Relayer.target, same]

/-- The lanes cannot tell what a task does inside its block. -/
theorem view_still (reader : relay.reader = (st.relay r).reader)
    (producer : relay.producer = (st.relay r).producer) :
    (st.setRelay r relay).view = st.view := by
  rw [view_reads producer, reader, ← view_source, Function.update_eq_self]

theorem view_ep2Tx (producer : Producer) (sent : List (List Word)) :
    { st with
      ep2Tx := producer
      sent := Function.update st.sent .ep2Tx sent }.view =
      Function.update st.view .ep2Tx
        { st.view .ep2Tx with producer := producer, sent := sent } := by
  funext c
  cases c <;> simp [view]

theorem view_ep5Rx (reader : Reader) (left : List (List Word)) :
    { st with
      ep5Rx := reader
      left := Function.update st.left .ep5Rx left }.view =
      Function.update st.view .ep5Rx
        { st.view .ep5Rx with reader := reader, done := left } := by
  funext c
  cases c <;> simp [view]

theorem view_passes : ((st.addSent r.target words).setRelay r relay).view =
    Function.update (Function.update st.view r.target
        { st.view r.target with
          producer := relay.producer
          sent := st.sent r.target ++ [words] }) r.source
      { st.view r.source with
        reader := relay.reader
        done := st.sent r.target ++ [words] } := by
  funext c
  cases r <;> cases c <;>
    simp [view, setRelay, addSent, Relayer.target, Relayer.source]

end Firmware

end Views

theorem Relayer.target_inj : Function.Injective Relayer.target := by
  intro r r' same
  cases r <;> cases r' <;> cases same <;> rfl

theorem Relayer.source_ne_target (r : Relayer) : r.source ≠ r.target := by
  cases r <;> decide

/-- A relay that does not wait for data may wait in another service. -/
theorem Parted.produce {views : Lane → LaneView} (parted : Parted views)
    (r : Relayer) {v' : LaneView}
    (reader : v'.reader = (views r.target).reader)
    (awake : (views r.source).reader ≠ .receiving) :
    Parted (Function.update views r.target v') where
  relay r' := by
    by_cases own : r' = r
    · subst own
      rw [Function.update_of_ne r'.source_ne_target]
      exact fun waits => absurd waits awake
    · rw [Function.update_of_ne (Relayer.target_inj.ne own)]
      by_cases source : r'.source = r.target
      · rw [source, Function.update_self, reader, ← source]
        exact parted.relay r'
      · rw [Function.update_of_ne source]
        exact parted.relay r'
  producer c out := by
    have other : c ≠ r.target := by
      rintro rfl
      rw [r.target_notOut] at out
      cases out
    rw [Function.update_of_ne other]
    exact parted.producer c out
  reader c isIn := by
    by_cases same : c = r.target
    · rw [same, Function.update_self, reader, ← same]
      exact parted.reader c isIn
    · rw [Function.update_of_ne same]
      exact parted.reader c isIn

theorem writesInside_word {ptr ptr1 : Word} {mem : Word → Word} {i : Nat}
    (small : i < usbMaxPacket0 / 4) :
    WritesInside (BitVec.ofNat 32 usbMaxPacket0) [ptr] mem
      (copyWord mem ptr ptr1 i) := by
  intro address changed
  obtain rfl : address = wordAt ptr i := by
    by_contra other
    exact changed (Function.update_of_ne other _ _)
  refine ⟨ptr, by simp, inBlock_wordAt ?_⟩
  simp only [usbMaxPacket0, BitVec.toNat_ofNat] at *
  omega

theorem Board.readerTask_source {build : Build} (b : Board build) (r : Relayer) :
    b.readerTask r.source = b.task r.task := by
  cases r <;> rfl

theorem Board.producerTask_target {build : Build} (b : Board build) (r : Relayer) :
    b.producerTask r.target = b.task r.task := by
  cases r <;> rfl

section Steps

variable {build : Build} {b : Board build} {st st' : Firmware} {lists lists' : Lists}
variable {s s' : Shared} {held : Lane → Held} {c : Lane} {v' : LaneView}
variable {k : Kernel} {r : Relayer} {relay : Relay} {reply : Reply}
variable {fuel : Nat}

/-- Words that have been copied are still the same as long as the payloads are. -/
theorem copied_words {mem mem' : Word → Word} {ptr1 ptr : Word} {count : Nat}
    (bounded : count ≤ usbMaxPacket0 / 4)
    (same : payloadAt mem' ptr1 = payloadAt mem ptr1 ∧
      payloadAt mem' ptr = payloadAt mem ptr)
    (words : ∀ i < count, mem (wordAt ptr i) = mem (wordAt ptr1 i)) :
    ∀ i < count, mem' (wordAt ptr i) = mem' (wordAt ptr1 i) := by
  intro i small
  have inside : i < usbMaxPacket0 / 4 := Nat.lt_of_lt_of_le small bounded
  rw [readWords_eq_iff.mp same.1 i inside, readWords_eq_iff.mp same.2 i inside]
  exact words i small

namespace FirmwareSound

theorem advance (sound : FirmwareSound b st lists s held)
    (atTask : st'.kernel.AtTask) (hosts : b.Hosts False st'.kernel lists' s')
    (step : LaneStep b c (st.view c) s v' s')
    (view : st'.view = Function.update st.view c v')
    (relays : ∀ r ptr1 ptr count, st'.relay r = .copying ptr1 ptr count →
      count = 0 ∨ st.relay r = .copying ptr1 ptr count ∧
        (c = r.target → v' ≠ st.view c)) :
    FirmwareFollows b st s st' := by
  have parted := st'.parted
  rw [view] at parted
  obtain ⟨held', net⟩ := sound.net.step step parted
  rw [← view] at net
  refine ⟨lists', s', held', ⟨atTask, hosts, net,
    fun r ptr1 ptr count here => ?_⟩, step.drains fun _ => st.view_idle,
    fun c' out => ?_⟩
  · rcases relays r ptr1 ptr count here with rfl | ⟨before, notOwn⟩
    · exact ⟨Nat.zero_le _, fun i small => absurd small (Nat.not_lt_zero i)⟩
    · obtain ⟨bounded, words⟩ := sound.copied r ptr1 ptr count before
      refine ⟨bounded, copied_words bounded
        (sound.net.spares step ?_ ?_ notOwn) words⟩
      · rw [Firmware.view_source, before, Relay.reader]
      · rw [Firmware.view_target, before, Relay.producer]
  · rw [← st'.view_sent, view, ← st.view_sent]
    by_cases same : c' = c
    · subst same
      rw [Function.update_self]
      exact step.sent (st.view_idle out)
    · rw [Function.update_of_ne same]

/-- A relay makes a step at the lane that it receives from. -/
theorem reads (sound : FirmwareSound b st lists s held) (atTask : k.AtTask)
    (hosts : b.Hosts False k lists' s')
    (step : LaneStep b r.source (st.view r.source) s
      { st.view r.source with reader := relay.reader } s')
    (same : relay.producer = (st.relay r).producer)
    (moves : relay.reader ≠ (st.relay r).reader)
    (idle : ∀ ptr1 ptr count, relay ≠ .copying ptr1 ptr count) :
    FirmwareFollows b st s ({ st with kernel := k }.setRelay r relay) := by
  refine sound.advance atTask hosts step
    (@Firmware.view_reads { st with kernel := k } _ _ same)
    fun r' ptr1 ptr count here => .inr ?_
  by_cases own : r' = r
  · subst own
    simp [Firmware.setRelay, idle] at here
  · refine ⟨by simpa [Firmware.setRelay, own] using here, fun _ equal => ?_⟩
    have sameReader := congrArg LaneView.reader equal
    rw [Firmware.view_source] at sameReader
    exact moves sameReader

/-- A relay makes a step at the lane that it sends to. -/
theorem produces (sound : FirmwareSound b st lists s held) (atTask : k.AtTask)
    (hosts : b.Hosts False k lists' s')
    (step : LaneStep b r.target (st.view r.target) s
      { st.view r.target with producer := relay.producer } s')
    (same : relay.reader = (st.relay r).reader)
    (fresh : ∀ ptr1 ptr count, relay = .copying ptr1 ptr count → count = 0) :
    FirmwareFollows b st s ({ st with kernel := k }.setRelay r relay) := by
  refine sound.advance atTask hosts step
    (@Firmware.view_produces { st with kernel := k } _ _ same)
    fun r' ptr1 ptr count here => ?_
  by_cases own : r' = r
  · subst own
    exact .inl (fresh ptr1 ptr count (by simpa [Firmware.setRelay] using here))
  · exact .inr ⟨by simpa [Firmware.setRelay, own] using here,
      fun target => absurd (Relayer.target_inj target.symm) own⟩

/-- A relay sends its block, and is done with the block that it has copied. -/
theorem passes (sound : FirmwareSound b st lists s held) (atTask : k.AtTask)
    (hosts : b.Hosts False k lists' s') {ptr1 ptr : Word} {count : Nat}
    (here : st.relay r = .copying ptr1 ptr count) {words : List Word}
    (copy : payloadAt s.mem ptr1 = words)
    (released : relay.reader = .release ptr1)
    (idle : ∀ ptr1 ptr count, relay ≠ .copying ptr1 ptr count)
    (step : LaneStep b r.target (st.view r.target) s
      { st.view r.target with
        producer := relay.producer
        sent := st.sent r.target ++ [words] } s') :
    FirmwareFollows b st s
      ({ st.addSent r.target words with kernel := k }.setRelay r relay) := by
  have reading : (st.view r.source).reader = .processing ptr1 := by
    rw [Firmware.view_source, here, Relay.reader]
  obtain ⟨held₁, net₁⟩ := sound.net.step step
    (st.parted.produce r rfl (by rw [reading]; nofun))
  have moves : st.sent r.target ++ [words] ≠ (st.view r.target).sent := by
    cases r <;> simp [Firmware.view, Relayer.target]
  have spared : ∀ r' ptr1' ptr' count',
      st.relay r' = .copying ptr1' ptr' count' →
      payloadAt s'.mem ptr1' = payloadAt s.mem ptr1' ∧
        payloadAt s'.mem ptr' = payloadAt s.mem ptr' := by
    intro r' ptr1' ptr' count' before
    refine sound.net.spares (r := r') step ?_ ?_ fun _ same =>
      moves (congrArg LaneView.sent same)
    · rw [Firmware.view_source, before, Relay.reader]
    · rw [Firmware.view_target, before, Relay.producer]
  -- Now the task is done with the first block.
  have after := @Firmware.view_passes { st with kernel := k } r relay words
  have parted := (({ st.addSent r.target words with
    kernel := k } : Firmware).setRelay r relay).parted
  have done : (st.view r.source).done = st.sent r.target := by
    cases r <;> rfl
  have apart := Function.update_of_ne r.source_ne_target
    ({ st.view r.target with
      producer := relay.producer
      sent := st.sent r.target ++ [words] } : LaneView) st.view
  have used : LaneStep b r.source _ s' _ s' :=
    .finish (v := Function.update st.view r.target
      { st.view r.target with
        producer := relay.producer
        sent := st.sent r.target ++ [words] } r.source)
      (by rw [apart]; exact reading)
  rw [apart, done, (spared r ptr1 ptr count here).1, copy, ← released] at used
  obtain ⟨held₂, net₂⟩ := net₁.step (by rw [apart]; exact used)
    (after ▸ parted)
  refine ⟨lists', s', held₂, ⟨atTask, hosts, ?_,
    fun r' ptr1' ptr' count' here' => ?_⟩, step.drains fun _ => st.view_idle,
    fun c out => ?_⟩
  · exact after ▸ net₂
  · have other : r' ≠ r := by
      rintro rfl
      simp [Firmware.setRelay, idle] at here'
    have before : st.relay r' = .copying ptr1' ptr' count' := by
      simpa [Firmware.setRelay, Firmware.addSent, other] using here'
    obtain ⟨bounded, words⟩ := sound.copied r' ptr1' ptr' count' before
    exact ⟨bounded, copied_words bounded
      (spared r' ptr1' ptr' count' before) words⟩
  · refine Function.update_of_ne ?_ _ _
    rintro rfl
    rw [r.target_notOut] at out
    cases out

/-! ## The tasks that copy -/

section Relays

variable (sound : FirmwareSound b st lists s held)
variable (runs : st.Runs (b.task r.task))
variable (run : b.relayFunc fuel r st = some st')

include sound runs run

theorem relay_receive (here : st.relay r = .receive) :
    FirmwareFollows b st s st' := by
  unfold Board.relayFunc at run
  rw [here] at run
  obtain ⟨⟨k, reply⟩, service, run⟩ := Option.bind_eq_some_iff.mp run
  obtain ⟨_, _, lists', s', answers, same, hosts, result⟩ :=
    sound.hosts.receive sound.atTask.wrongNonIntContext (b.mayWait runs)
      (runs.current.trans (b.readerTask_source r).symm)
      (by rw [Firmware.view_source, here, Relay.reader]) fuel
  cases service.symm.trans answers
  have atTask := sound.atTask.call (.queueReceive (some _) true tnWaitInfinite)
    service same
  rcases result with ⟨block, rc, value, step⟩ | ⟨rc, step⟩
  · simp only [rc, value] at run
    cases run
    exact sound.reads atTask hosts step (by rw [here]; rfl)
      (by rw [here]; nofun) nofun
  · simp only [rc] at run
    cases run
    exact sound.reads atTask hosts step (by rw [here]; rfl)
      (by rw [here]; nofun) nofun

theorem relay_receiving (here : st.relay r = .receiving) :
    FirmwareFollows b st s st' := by
  have reader : (st.view r.source).reader = .receiving := by
    rw [Firmware.view_source, here, Relay.reader]
  have awake : b.readerTask r.source ∉
      s.waiting (.dqueReceive (b.queue r.source)) := fun member =>
    sound.hosts.asleep member
      ((b.readerTask_source r).symm ▸ runs.runnable)
  obtain ⟨noErr, _⟩ := (sound.net.lane r.source).served reader awake
  have step := LaneStep.served reader awake
  rw [b.readerTask_source, ← sound.hosts.waitRc] at noErr
  rw [b.readerTask_source, ← sound.hosts.elem] at step
  unfold Board.relayFunc at run
  rw [here] at run
  simp only [noErr, if_true] at run
  cases run
  exact sound.reads sound.atTask sound.hosts step
    (by rw [here]; rfl) (by rw [here]; nofun) nofun

theorem relay_get {ptr1 : Word} (here : st.relay r = .get ptr1) :
    FirmwareFollows b st s st' := by
  unfold Board.relayFunc at run
  rw [here] at run
  obtain ⟨⟨k, reply⟩, service, run⟩ := Option.bind_eq_some_iff.mp run
  obtain ⟨_, _, lists', s', answers, same, hosts, result⟩ := sound.hosts.get
    sound.atTask.wrongNonIntContext (b.mayWait runs)
    (runs.current.trans (b.producerTask_target r).symm)
    (by rw [Firmware.view_target, here, Relay.producer])
  cases service.symm.trans answers
  have atTask := @Kernel.AtTask.call _ _ sound.atTask
    (.fmemGet (some (b.memPool r.target)) true tnWaitInfinite) _ 0 service same
  rcases result with ⟨block, rc, value, step⟩ | ⟨rc, step⟩
  · simp only [rc, value] at run
    cases run
    refine sound.produces atTask hosts step (by rw [here]; rfl) ?_
    rintro _ _ _ ⟨⟩
    rfl
  · simp only [rc] at run
    cases run
    exact sound.produces atTask hosts step (by rw [here]; rfl)
      nofun

theorem relay_getting {ptr1 : Word} (here : st.relay r = .getting ptr1) :
    FirmwareFollows b st s st' := by
  have producer : (st.view r.target).producer = .getting := by
    rw [Firmware.view_target, here, Relay.producer]
  have awake : b.producerTask r.target ∉
      s.waiting (.fmp (b.memPool r.target)) := fun member =>
    sound.hosts.asleep member
      ((b.producerTask_target r).symm ▸ runs.runnable)
  obtain ⟨noErr, _⟩ := (sound.net.lane r.target).taken producer awake
  have step := LaneStep.taken producer awake
  rw [b.producerTask_target, ← sound.hosts.waitRc] at noErr
  rw [b.producerTask_target, ← sound.hosts.elem] at step
  unfold Board.relayFunc at run
  rw [here] at run
  simp only [noErr, if_true] at run
  cases run
  refine sound.produces sound.atTask sound.hosts step
    (by rw [here]; rfl) ?_
  rintro _ _ _ ⟨⟩
  rfl

theorem relay_sending {ptr1 : Word} (here : st.relay r = .sending ptr1) :
    FirmwareFollows b st s st' := by
  have producer : (st.view r.target).producer = .sending := by
    rw [Firmware.view_target, here, Relay.producer]
  have awake : b.producerTask r.target ∉
      s.waiting (.dqueSend (b.queue r.target)) := fun member =>
    sound.hosts.asleep member
      ((b.producerTask_target r).symm ▸ runs.runnable)
  unfold Board.relayFunc at run
  rw [here] at run
  cases run
  exact sound.produces sound.atTask sound.hosts
    (.stored producer awake) (by rw [here]; rfl) nofun

omit runs in
theorem relay_release {ptr1 : Word} (here : st.relay r = .release ptr1) :
    FirmwareFollows b st s st' := by
  unfold Board.relayFunc at run
  rw [here] at run
  obtain ⟨⟨k, reply⟩, service, run⟩ := Option.bind_eq_some_iff.mp run
  obtain ⟨_, _, lists', s', answers, same, _, hosts, step⟩ :=
    sound.hosts.release sound.net sound.atTask.wrongNonIntContext
      (by rw [Firmware.view_source, here, Relay.reader]) fuel
  cases service.symm.trans answers
  have atTask := sound.atTask.call (.fmemRelease (some _) ptr1) service same
  cases run
  exact sound.reads atTask hosts step (by rw [here]; rfl)
    (by rw [here]; nofun) nofun

omit runs in
/-- `s_memcpy` copies one word. -/
theorem relay_copy {ptr1 ptr : Word} {count : Nat}
    (here : st.relay r = .copying ptr1 ptr count)
    (small : count < usbMaxPacket0 / 4) :
    FirmwareFollows b st s st' := by
  obtain ⟨atTask, hosts, net, copied⟩ := sound
  have reading : (st.view r.source).reader = .processing ptr1 := by
    rw [Firmware.view_source, here, Relay.reader]
  have filling : (st.view r.target).producer = .filling ptr := by
    rw [Firmware.view_target, here, Relay.producer]
  obtain ⟨mem, isMem⟩ : ∃ mem, mem = copyWord st.kernel.mem ptr ptr1 count :=
    ⟨_, rfl⟩
  have inside : WritesInside (BitVec.ofNat 32 usbMaxPacket0) [ptr]
      st.kernel.mem mem := isMem ▸ writesInside_word small
  obtain ⟨hosts', step⟩ := hosts.fill net filling inside
  obtain ⟨⟨member₁, _⟩, member, _⟩ := net.copying reading filling
  unfold Board.relayFunc at run
  rw [here] at run
  simp only [small, if_true, Option.some.injEq, ← isMem] at run
  subst run
  have view : ({ st with kernel := st.kernel.setMem mem }.setRelay r
      (.copying ptr1 ptr (count + 1))).view = st.view :=
    Firmware.view_still (congrArg Relay.reader here).symm
      (congrArg Relay.producer here).symm
  obtain ⟨held', net'⟩ := net.step step
    (by rw [Function.update_eq_self]; exact st.parted)
  rw [Function.update_eq_self, ← view] at net'
  refine ⟨lists, _, held', ⟨⟨⟨atTask.inSystem.tnSystemRunning,
    atTask.inSystem.tnIntCounter, atTask.inSystem.tnEnableSwitchContext⟩,
    atTask.irqDisabled⟩, hosts', net', fun r' ptr1' ptr' count' here' => ?_⟩,
    step.drains fun _ => st.view_idle, fun _ _ => rfl⟩
  by_cases own : r' = r
  · subst own
    obtain ⟨bounded, words⟩ := copied r' ptr1 ptr count here
    have same : Relay.copying ptr1 ptr (count + 1) =
        .copying ptr1' ptr' count' := by
      simpa [Firmware.setRelay] using here'
    cases same
    refine ⟨small, fun i below => ?_⟩
    have apart : mem (wordAt ptr1 i) = s.mem (wordAt ptr1 i) := by
      rw [hosts.mem] at inside
      exact b.words_apart r'.source_ne_target member member₁ inside (by omega)
    change mem (wordAt ptr i) = mem (wordAt ptr1 i)
    rw [apart, isMem, copyWord, hosts.mem]
    by_cases last : i = count
    · subst last
      rw [Function.update_self]
    · have other : wordAt ptr i ≠ wordAt ptr count := by
        have below : count < 16 := small
        rw [Ne, wordAt_inj (by omega) (by omega)]
        exact last
      rw [Function.update_of_ne other]
      exact words i (by omega)
  · have before : st.relay r' = .copying ptr1' ptr' count' := by
      simpa [Firmware.setRelay, own] using here'
    obtain ⟨bounded, words⟩ := copied r' ptr1' ptr' count' before
    refine ⟨bounded, copied_words bounded (net.spares step ?_ ?_
      fun target => absurd (Relayer.target_inj target.symm) own) words⟩
    · rw [Firmware.view_source, before, Relay.reader]
    · rw [Firmware.view_target, before, Relay.producer]

theorem relay_send {ptr1 ptr : Word} {count : Nat}
    (here : st.relay r = .copying ptr1 ptr count)
    (whole : ¬count < usbMaxPacket0 / 4) :
    FirmwareFollows b st s st' := by
  obtain ⟨bounded, words⟩ := sound.copied r ptr1 ptr count here
  have reading : (st.view r.source).reader = .processing ptr1 := by
    rw [Firmware.view_source, here, Relay.reader]
  have filling : (st.view r.target).producer = .filling ptr := by
    rw [Firmware.view_target, here, Relay.producer]
  -- The payloads are the same.
  have same₁ : payloadAt s.mem ptr1 = payloadAt st.kernel.mem ptr := by
    rw [sound.hosts.mem]
    exact (readWords_eq_iff.mpr fun i small => words i (by omega)).symm
  unfold Board.relayFunc at run
  rw [here] at run
  simp only [whole, if_false] at run
  obtain ⟨⟨k, reply⟩, service, run⟩ := Option.bind_eq_some_iff.mp run
  have fits : r.target.Matches (payloadAt st.kernel.mem ptr)
      (payloadAt s.mem ptr) := by
    rw [Lane.Matches, r.target_notOut, sound.hosts.mem]
    rfl
  obtain ⟨_, _, lists', s', answers, same, hosts, result⟩ := sound.hosts.send
    sound.atTask.wrongNonIntContext (b.mayWait runs)
    (runs.current.trans (b.producerTask_target r).symm) filling fits fuel
  cases service.symm.trans answers
  have atTask := sound.atTask.call (.queueSend (some _) ptr tnWaitInfinite)
    service same
  have sent : (st.view r.target).sent = st.sent r.target := by
    cases r <;> rfl
  rw [sent] at result
  rcases result with ⟨rc, step⟩ | ⟨rc, step⟩
  · simp only [rc] at run
    cases run
    exact sound.passes atTask hosts here same₁ rfl (by simp)
      step
  · simp only [rc] at run
    cases run
    exact sound.passes atTask hosts here same₁ rfl (by simp)
      step

/-- `task_ep2_rx_func` and `task_ep5_tx_func`. -/
theorem relayFunc : FirmwareFollows b st s st' := by
  cases here : st.relay r with
  | receive => exact sound.relay_receive runs run here
  | receiving => exact sound.relay_receiving runs run here
  | get ptr1 => exact sound.relay_get runs run here
  | getting ptr1 => exact sound.relay_getting runs run here
  | copying ptr1 ptr count =>
      by_cases small : count < usbMaxPacket0 / 4
      · exact sound.relay_copy run here small
      · exact sound.relay_send runs run here small
  | sending ptr1 => exact sound.relay_sending runs run here
  | release ptr1 => exact sound.relay_release run here

end Relays

/-! ## The other tasks -/

theorem outside (sound : FirmwareSound b st lists s held)
    (atTask : st'.kernel.AtTask) (hosts : b.Hosts False st'.kernel lists' s')
    (step : LaneStep b c (st.view c) s v' s')
    (view : st'.view = Function.update st.view c v')
    (relay : st'.relay = st.relay) (other : ∀ r : Relayer, r.target ≠ c) :
    FirmwareFollows b st s st' :=
  sound.advance atTask hosts step view fun r _ _ _ here =>
    .inr ⟨relay ▸ here, fun same => absurd same.symm (other r)⟩

section Producer

variable (sound : FirmwareSound b st lists s held)
variable (runs : st.Runs (b.task .ep2Tx))

include sound

/-- `task_ep2_tx_func` takes a step. -/
theorem ep2Tx_step {producer : Producer} (atTask : k.AtTask)
    (hosts : b.Hosts False k lists' s')
    (step : LaneStep b .ep2Tx (st.view .ep2Tx) s
      { st.view .ep2Tx with producer := producer } s') :
    FirmwareFollows b st s { st with kernel := k, ep2Tx := producer } := by
  have view := @Firmware.view_ep2Tx { st with kernel := k } producer
    (st.sent .ep2Tx)
  rw [Function.update_eq_self] at view
  exact sound.outside atTask hosts step view rfl fun r => by cases r <;> decide

include runs

theorem taskEp2TxFunc (run : b.taskEp2TxFunc fuel st = some st') :
    FirmwareFollows b st s st' := by
  have context := sound.atTask.wrongNonIntContext
  unfold Board.taskEp2TxFunc at run
  cases here : st.ep2Tx with
  | get =>
      rw [here] at run
      obtain ⟨⟨k, reply⟩, service, run⟩ := Option.bind_eq_some_iff.mp run
      obtain ⟨_, _, lists', s', answers, same, hosts, result⟩ :=
        sound.hosts.get (c := .ep2Tx) context (b.mayWait runs) runs.current
          (v := st.view .ep2Tx) here
      cases service.symm.trans answers
      have atTask := @Kernel.AtTask.call _ _ sound.atTask
        (.fmemGet (some (b.memPool .ep2Tx)) true tnWaitInfinite) _ 0 service
        same
      rcases result with ⟨block, rc, value, step⟩ | ⟨rc, step⟩
      · simp only [rc, value] at run
        cases run
        exact sound.ep2Tx_step atTask hosts step
      · simp only [rc] at run
        cases run
        exact sound.ep2Tx_step atTask hosts step
  | getting =>
      have awake : b.producerTask .ep2Tx ∉
          s.waiting (.fmp (b.memPool .ep2Tx)) := fun member =>
        sound.hosts.asleep member runs.runnable
      obtain ⟨noErr, _⟩ := (sound.net.lane .ep2Tx).taken here awake
      have step := LaneStep.taken (v := st.view .ep2Tx) here awake
      rw [← sound.hosts.waitRc] at noErr
      rw [← sound.hosts.elem] at step
      rw [here] at run
      simp only [show (st.kernel.tcb (b.task .ep2Tx)).taskWaitRc = .noErr
        from noErr, if_true] at run
      cases run
      exact sound.ep2Tx_step sound.atTask sound.hosts step
  | filling ptr =>
      rw [here] at run
      obtain ⟨⟨k, reply⟩, service, run⟩ := Option.bind_eq_some_iff.mp run
      have fits : Lane.ep2Tx.Matches (payloadAt st.kernel.mem ptr)
          (payloadAt s.mem ptr) := by
        rw [sound.hosts.mem]
        rfl
      obtain ⟨_, _, lists', s', answers, same, hosts, result⟩ :=
        sound.hosts.send (c := .ep2Tx) context (b.mayWait runs) runs.current
          (v := st.view .ep2Tx) here fits fuel
      cases service.symm.trans answers
      have atTask := sound.atTask.call (.queueSend (some _) ptr tnWaitInfinite)
        service same
      rcases result with ⟨rc, step⟩ | ⟨rc, step⟩
      · simp only [rc] at run
        cases run
        exact sound.outside atTask hosts step
          (@Firmware.view_ep2Tx { st with kernel := k } _ _) rfl
          fun r => by cases r <;> decide
      · simp only [rc] at run
        cases run
        exact sound.outside atTask hosts step
          (@Firmware.view_ep2Tx { st with kernel := k } _ _) rfl
          fun r => by cases r <;> decide
  | sending =>
      have awake : b.producerTask .ep2Tx ∉
          s.waiting (.dqueSend (b.queue .ep2Tx)) := fun member =>
        sound.hosts.asleep member runs.runnable
      rw [here] at run
      cases run
      exact sound.ep2Tx_step sound.atTask sound.hosts
        (.stored here awake)

end Producer

section Reader

variable (sound : FirmwareSound b st lists s held)
variable (runs : st.Runs (b.task .ep5Rx))

include sound

/-- `task_ep5_rx_func` takes a step. -/
theorem ep5Rx_step {reader : Reader} (atTask : k.AtTask)
    (hosts : b.Hosts False k lists' s')
    (step : LaneStep b .ep5Rx (st.view .ep5Rx) s
      { st.view .ep5Rx with reader := reader } s') :
    FirmwareFollows b st s { st with kernel := k, ep5Rx := reader } := by
  have view := @Firmware.view_ep5Rx { st with kernel := k } reader
    (st.left .ep5Rx)
  rw [Function.update_eq_self] at view
  exact sound.outside atTask hosts step view rfl fun r => by cases r <;> decide

include runs

theorem taskEp5RxFunc (run : b.taskEp5RxFunc fuel st = some st') :
    FirmwareFollows b st s st' := by
  have context := sound.atTask.wrongNonIntContext
  unfold Board.taskEp5RxFunc at run
  cases here : st.ep5Rx with
  | receive =>
      rw [here] at run
      obtain ⟨⟨k, reply⟩, service, run⟩ := Option.bind_eq_some_iff.mp run
      obtain ⟨_, _, lists', s', answers, same, hosts, result⟩ :=
        sound.hosts.receive (c := .ep5Rx) context (b.mayWait runs) runs.current
          (v := st.view .ep5Rx) here fuel
      cases service.symm.trans answers
      have atTask := sound.atTask.call
        (.queueReceive (some _) true tnWaitInfinite) service same
      rcases result with ⟨block, rc, value, step⟩ | ⟨rc, step⟩
      · simp only [rc, value] at run
        cases run
        exact sound.ep5Rx_step atTask hosts step
      · simp only [rc] at run
        cases run
        exact sound.ep5Rx_step atTask hosts step
  | receiving =>
      have awake : b.readerTask .ep5Rx ∉
          s.waiting (.dqueReceive (b.queue .ep5Rx)) := fun member =>
        sound.hosts.asleep member runs.runnable
      obtain ⟨noErr, _⟩ := (sound.net.lane .ep5Rx).served here awake
      have step := LaneStep.served (v := st.view .ep5Rx) here awake
      rw [← sound.hosts.waitRc] at noErr
      rw [← sound.hosts.elem] at step
      rw [here] at run
      simp only [show (st.kernel.tcb (b.task .ep5Rx)).taskWaitRc = .noErr
        from noErr, if_true] at run
      cases run
      exact sound.ep5Rx_step sound.atTask sound.hosts step
  | processing ptr =>
      rw [here] at run
      cases run
      rw [sound.hosts.mem]
      exact sound.outside sound.atTask sound.hosts
        (.finish (v := st.view .ep5Rx) here) (@Firmware.view_ep5Rx st _ _)
        rfl fun r => by cases r <;> decide
  | release ptr =>
      rw [here] at run
      obtain ⟨⟨k, reply⟩, service, run⟩ := Option.bind_eq_some_iff.mp run
      obtain ⟨_, _, lists', s', answers, same, _, hosts, step⟩ :=
        sound.hosts.release (c := .ep5Rx) sound.net context here fuel
      cases service.symm.trans answers
      have atTask := sound.atTask.call (.fmemRelease (some _) ptr) service same
      cases run
      exact sound.ep5Rx_step atTask hosts step

end Reader

end FirmwareSound

end Steps

/-! ## The interrupt routines -/

/-- An interrupt routine has been entered in this mode, and the lanes are in
order. -/
structure FirmwareInside {build : Build} (b : Board build) (m : Mode)
    (st : Firmware) (lists : Lists) (s : Shared) (held : Lane → Held) : Prop where
  mode : st.kernel.mode = m
  context : st.kernel.wrongIntContext = false
  hosts : b.Hosts False st.kernel lists s
  net : NetSound b st.view s held
  copied : st.Copied s.mem

section Interrupts

variable {build : Build} {b : Board build} {m : Mode} {st st' : Firmware}
variable {lists lists' : Lists} {s s' : Shared} {held : Lane → Held} {c : Lane}
variable {v' : LaneView} {k : Kernel} {fuel : Nat}

namespace Firmware

variable {words : List Word}

theorem view_addSent (out : c.isOut = true) :
    (st.addSent c words).view = Function.update st.view c
      { st.view c with sent := (st.view c).sent ++ [words] } := by
  funext c'
  cases c with
  | ep2Rx | ep5Rx => cases c' <;> simp [view, addSent]
  | ep2Tx | ep5Tx | epExch => cases out

theorem view_addLeft (isIn : c = .ep2Tx ∨ c = .ep5Tx) :
    (st.addLeft c words).view = Function.update st.view c
      { st.view c with done := (st.view c).done ++ [words] } := by
  funext c'
  rcases isIn with rfl | rfl <;> cases c' <;> simp [view, addLeft]

end Firmware

namespace FirmwareInside

theorem advance (inside : FirmwareInside b m st lists s held)
    (mode : st'.kernel.mode = st.kernel.mode)
    (context : st'.kernel.wrongIntContext = false)
    (hosts : b.Hosts False st'.kernel lists' s')
    (advances : Advances b c st.view s v' s')
    (view : st'.view = Function.update st.view c v')
    (relay : st'.relay = st.relay) :
    ∃ held', FirmwareInside b m st' lists' s' held' := by
  obtain ⟨held', net⟩ := advances.sound
  rw [← view] at net
  refine ⟨held', mode.trans inside.mode, context, hosts, net,
    fun r ptr1 ptr count here => ?_⟩
  rw [relay] at here
  obtain ⟨bounded, words⟩ := inside.copied r ptr1 ptr count here
  refine ⟨bounded, copied_words bounded (advances.spared r ptr1 ptr ?_ ?_)
    words⟩
  · rw [Firmware.view_source, here, Relay.reader]
  · rw [Firmware.view_target, here, Relay.producer]

/-- A packet is read if there is a free block for it. -/
theorem epRxInt (inside : FirmwareInside b m st lists s held)
    (out : c.isOut = true) (may : c.drops build = true ∨
      (s.items (b.queue c)).length < s.capacity (b.queue c))
    {packet : Option UsbPacket}
    (run : b.epRxInt fuel c packet st = some st') :
    ∃ lists' s' held', FirmwareInside b m st' lists' s' held' ∧
      (∀ c', c' ≠ c → s'.items (b.queue c') = s.items (b.queue c')) ∧
      ∀ taken, packet = some taken → s.free (b.memPool c) ≠ [] →
        st' = { st with kernel := st'.kernel }.addSent c taken.words := by
  obtain ⟨⟨k, read⟩, service, run⟩ := Option.bind_eq_some_iff.mp run
  obtain ⟨_, _, lists', s', answers, _, mode, context, hosts, advances,
    outcome⟩ := inside.hosts.rxInt inside.net inside.context out
      (st.view_idle out) may packet fuel
  cases service.symm.trans answers
  have still : ({ st with kernel := k } : Firmware).view =
      Function.update st.view c (st.view c) := by
    rw [Function.update_eq_self]
    rfl
  cases run
  cases packet with
  | none =>
      obtain ⟨held', after⟩ :=
        inside.advance mode context hosts advances still rfl
      exact ⟨lists', s', held', after, advances.others, nofun⟩
  | some packet =>
      cases read with
      | false =>
          obtain ⟨held', after⟩ :=
            inside.advance mode context hosts advances still rfl
          refine ⟨lists', s', held', after, advances.others, ?_⟩
          rintro _ ⟨⟩ free
          cases outcome packet rfl with
          | refused empty => exact absurd empty free
      | true =>
          obtain ⟨held', after⟩ := inside.advance mode context hosts advances
            (@Firmware.view_addSent { st with kernel := k } c _ out) rfl
          refine ⟨lists', s', held', after, advances.others, ?_⟩
          rintro _ ⟨⟩ _
          rfl

theorem epTxInt (inside : FirmwareInside b m st lists s held)
    (isIn : c = .ep2Tx ∨ c = .ep5Tx)
    (run : b.epTxInt fuel c st = some st') :
    ∃ lists' s' held', FirmwareInside b m st' lists' s' held' ∧
      (∀ c', c' ≠ c → s'.items (b.queue c') = s.items (b.queue c')) ∧
      st'.sent = st.sent := by
  obtain ⟨⟨k, payload⟩, service, run⟩ := Option.bind_eq_some_iff.mp run
  have here : (st.view c).reader = .receive := by
    rcases isIn with rfl | rfl <;> rfl
  obtain ⟨k', lists', s', answers, mode, context, hosts, advances⟩ :=
    inside.hosts.txInt inside.net inside.context isIn here fuel
  cases service.symm.trans answers
  generalize Option.map _ _ = payload at *
  cases run
  cases payload with
  | none =>
      have still : ({ st with kernel := k } : Firmware).view =
          Function.update st.view c (st.view c) :=
        (Function.update_eq_self c st.view).symm
      obtain ⟨held', after⟩ :=
        inside.advance mode context hosts advances still rfl
      exact ⟨lists', s', held', after, advances.others, rfl⟩
  | some payload =>
      obtain ⟨held', after⟩ := inside.advance mode context hosts advances
        (@Firmware.view_addLeft { st with kernel := k } c _ isIn) rfl
      exact ⟨lists', s', held', after, advances.others, rfl⟩

/-- What happens to the state of the device is not seen by the lanes. -/
theorem setDevice (inside : FirmwareInside b m st lists s held)
    (device : UsbDevice) :
    FirmwareInside b m { st with device := device } lists s held :=
  ⟨inside.mode, inside.context, inside.hosts, inside.net, inside.copied⟩

section NoDma

variable {b : Board .noDma}

theorem epIntFunc (inside : FirmwareInside b m st lists s held)
    (usb : UsbInterrupt) (notExch : c ≠ .epExch)
    (run : b.epIntFunc fuel usb c st = some st') :
    ∃ lists' s' held', FirmwareInside b m st' lists' s' held' := by
  unfold Board.epIntFunc at run
  split at run
  · split at run
    · next out =>
        obtain ⟨lists', s', held', after, _⟩ := inside.epRxInt out (.inl out) run
        exact ⟨lists', s', held', after⟩
    · next notOut =>
        have isIn : c = .ep2Tx ∨ c = .ep5Tx := by
          cases c with
          | ep2Tx => exact .inl rfl
          | ep5Tx => exact .inr rfl
          | epExch => exact absurd rfl notExch
          | ep2Rx | ep5Rx => exact absurd rfl notOut
        obtain ⟨lists', s', held', after, _⟩ := inside.epTxInt isIn run
        exact ⟨lists', s', held', after⟩
  · cases run
    exact ⟨lists, s, held, inside⟩

theorem tnUsbIntFunc (inside : FirmwareInside b m st lists s held)
    (usb : UsbInterrupt) (run : b.tnUsbIntFunc fuel usb st = some st') :
    ∃ lists' s' held', FirmwareInside b m st' lists' s' held' := by
  unfold Board.tnUsbIntFunc at run
  dsimp only at run
  split at run
  · obtain ⟨device, _, run⟩ := Option.bind_eq_some_iff.mp run
    obtain ⟨st₁, run₁, run⟩ := Option.bind_eq_some_iff.mp run
    obtain ⟨st₂, run₂, run⟩ := Option.bind_eq_some_iff.mp run
    obtain ⟨st₃, run₃, run₄⟩ := Option.bind_eq_some_iff.mp run
    obtain ⟨_, _, _, inside₁⟩ :=
      (inside.setDevice device).epIntFunc usb (by decide) run₁
    obtain ⟨_, _, _, inside₂⟩ := inside₁.epIntFunc usb (by decide) run₂
    obtain ⟨_, _, _, inside₃⟩ := inside₂.epIntFunc usb (by decide) run₃
    exact inside₃.epIntFunc usb (by decide) run₄
  · cases run
    exact ⟨lists, s, held, inside.setDevice _⟩

end NoDma

end FirmwareInside

end Interrupts

/-! ## The steps -/

section Step

variable {build : Build} {b : Board build} {st st' : Firmware}
variable {lists : Lists} {s : Shared} {held : Lane → Held}

/-- Every step that both builds have keeps the firmware in order. -/
theorem FirmwareSound.common (sound : FirmwareSound b st lists s held)
    (step : CommonStep b st st') : FirmwareFollows b st s st' := by
  have atTask := sound.atTask
  cases step with
  | ep2Rx fuel runs run => exact sound.relayFunc (r := .ep2Rx) runs run
  | ep5Tx fuel runs run => exact sound.relayFunc (r := .ep5Tx) runs run
  | ep2Tx fuel runs run => exact sound.taskEp2TxFunc runs run
  | fill here runs mem inside =>
      obtain ⟨hosts, step⟩ :=
        sound.hosts.fill (c := .ep2Tx) sound.net here inside
      exact sound.outside ⟨⟨atTask.inSystem.tnSystemRunning,
        atTask.inSystem.tnIntCounter, atTask.inSystem.tnEnableSwitchContext⟩,
        atTask.irqDisabled⟩ hosts step
        (Function.update_eq_self Lane.ep2Tx st.view).symm rfl
        fun r => by cases r <;> decide
  | ep5Rx fuel runs run => exact sound.taskEp5RxFunc runs run
  | @sleep task timeout k reply sleeper runs run =>
      obtain ⟨rfl, runnable⟩ := runs
      obtain ⟨_, _, lists', answers, _, same, hosts⟩ :=
        sound.hosts.sleep atTask.wrongNonIntContext sleeper runnable
      cases run.symm.trans answers
      exact ⟨lists', s, held, ⟨@Kernel.AtTask.call _ _ atTask
        (.taskSleep timeout) _ 0 run same, hosts, sound.net, sound.copied⟩,
        fun _ _ => Nat.le_refl _, fun _ _ => rfl⟩
  | timer fuel run =>
      obtain ⟨mode, lists', s', hosts, net, mem, items⟩ :=
        Board.Hosts.tick (Shares.enterIrq sound.hosts) sound.net run
      exact ⟨lists', s', held, ⟨atTask.interrupt mode, Shares.leaveIrq hosts,
        net, mem ▸ sound.copied⟩, fun _ _ => items ▸ Nat.le_refl _,
        fun _ _ => rfl⟩
  | dispatch run =>
      refine ⟨lists, s, held, ⟨?_, sound.hosts.dispatch run, sound.net,
        sound.copied⟩, fun _ _ => Nat.le_refl _, fun _ _ => rfl⟩
      obtain ⟨next, _, result⟩ := Option.bind_eq_some_iff.mp run
      cases result
      exact ⟨⟨atTask.inSystem.tnSystemRunning, atTask.inSystem.tnIntCounter,
        atTask.inSystem.tnEnableSwitchContext⟩, atTask.irqDisabled⟩

theorem FirmwareSound.enter (sound : FirmwareSound b st lists s held) :
    FirmwareInside b st.kernel.enterIrq.mode
      { st with kernel := st.kernel.enterIrq } lists s held :=
  ⟨rfl, sound.atTask.wrongIntContext, Shares.enterIrq sound.hosts, sound.net,
    sound.copied⟩

theorem FirmwareInside.leave {k : Kernel} (atTask : k.AtTask)
    (inside : FirmwareInside b k.enterIrq.mode st lists s held) :
    FirmwareSound b { st with kernel := st.kernel.leaveIrq } lists s held :=
  ⟨atTask.interrupt inside.mode, Shares.leaveIrq inside.hosts, inside.net,
    inside.copied⟩

theorem FirmwareSound.step {b : Board .noDma}
    (sound : FirmwareSound b st lists s held) (step : FirmwareStep b st st') :
    ∃ lists' s' held', FirmwareSound b st' lists' s' held' := by
  cases step with
  | common step =>
      obtain ⟨lists', s', held', after, _⟩ := sound.common step
      exact ⟨lists', s', held', after⟩
  | usb fuel usb run =>
      obtain ⟨lists', s', held', after⟩ := sound.enter.tnUsbIntFunc usb run
      exact ⟨lists', s', held', after.leave sound.atTask⟩

end Step

end UsbBulk
