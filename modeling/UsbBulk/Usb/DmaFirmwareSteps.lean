import UsbBulk.Usb.DmaZones
import UsbBulk.Usb.FirmwareStart

/-!
# Every step of the firmware with DMA keeps its lanes in order

The lanes are in order whatever the bus and the engine do.  If the bus is calm, a
descriptor of an endpoint is active, or a transfer waits, only while the queue of the
endpoint has room, so every packet that the engine takes finds its place.
-/

namespace UsbBulk

/-! ## The invariant -/

theorem Endpoint.lane_inj : Function.Injective Endpoint.lane := by
  intro e e' same
  cases e <;> cases e' <;> first | rfl | cases same

/-- The payload of a transfer that waits to be copied. -/
def DmaFirmware.arrived (st : DmaFirmware) (e : Endpoint) (c : Nat) :
    List (List Word) :=
  if st.engine.eotIntSt e then
    [payloadAt st.engine.ram (e.epDmaAddr.buffer c)]
  else []

/-- An endpoint loses nothing: `c` is its current descriptor. -/
structure Receives {build : Build} (b : Board build) (st : DmaFirmware) (s : Shared)
    (e : Endpoint) (c : Nat) : Prop where
  descriptors : Descriptors (b.edi e) st.engine.ram c
  room : ddRetired st.engine.ram (e.epDmaAddr.dd c) = false ∨
    st.engine.eotIntSt e = true →
      (s.items (b.queue e.lane)).length < e.lane.size build - 1
  transferred : st.engine.eotIntSt e = true →
    ddRetired st.engine.ram (e.epDmaAddr.dd c) = true
  requested : st.engine.nddrIntSt e = true →
    ddRetired st.engine.ram (e.epDmaAddr.dd c) = true
  delivered : List.Forall₂ Carries (st.acknowledged e)
    (st.sent e.lane ++ st.arrived e c)

/-- All endpoints from the host lose nothing. -/
def Board.Receiving {build : Build} (b : Board build) (st : DmaFirmware)
    (s : Shared) : Prop :=
  ∀ e : Endpoint, e.lane.isOut = true → ∃ c, Receives b st s e c

/-- The firmware with DMA is in order. -/
structure DmaSound {bus : Bus} (b : Board (.dma bus)) (st : DmaFirmware)
    (lists : Lists) (s : Shared) (held : Lane → Held) : Prop where
  firmware : FirmwareSound b st.toFirmware lists s held
  receiving : bus = .calm → b.Receiving st s

/-- An interrupt routine has been entered, and the firmware with DMA is in order. -/
structure DmaInside {bus : Bus} (b : Board (.dma bus)) (m : Mode) (st : DmaFirmware)
    (lists : Lists) (s : Shared) (held : Lane → Held) : Prop where
  firmware : FirmwareInside b m st.toFirmware lists s held
  receiving : bus = .calm → b.Receiving st s

/-- Nothing of an endpoint has been touched, except that its queue may be shorter and
its request may be cleared. -/
structure Bypasses {build : Build} (b : Board build) (e : Endpoint) (st : DmaFirmware)
    (s : Shared) (st' : DmaFirmware) (s' : Shared) : Prop where
  ram : ∀ address, e.InZone address →
    st'.engine.ram address = st.engine.ram address
  eotIntSt : st'.engine.eotIntSt e = st.engine.eotIntSt e
  nddrIntSt : st'.engine.nddrIntSt e = true → st.engine.nddrIntSt e = true
  acknowledged : st'.acknowledged e = st.acknowledged e
  sent : st'.sent e.lane = st.sent e.lane
  items : (s'.items (b.queue e.lane)).length ≤ (s.items (b.queue e.lane)).length

section Endpoints

variable {build : Build} {b : Board build} {st st' : DmaFirmware}
variable {s s' : Shared} {e : Endpoint} {c : Nat}

theorem Receives.kept (sound : Receives b st s e c)
    (bypasses : Bypasses b e st s st' s') : Receives b st' s' e c := by
  obtain ⟨descriptors, retired, payload⟩ := sound.descriptors.kept bypasses.ram
  refine ⟨descriptors, ?_, ?_, ?_, ?_⟩
  · rw [retired, bypasses.eotIntSt]
    exact fun may => Nat.lt_of_le_of_lt bypasses.items (sound.room may)
  · rw [retired, bypasses.eotIntSt]
    exact sound.transferred
  · rw [retired]
    exact fun requested => sound.requested (bypasses.nddrIntSt requested)
  · rw [bypasses.acknowledged, bypasses.sent, DmaFirmware.arrived, bypasses.eotIntSt,
      payload]
    exact sound.delivered

theorem Board.Receiving.kept (sound : b.Receiving st s)
    (bypasses : ∀ e : Endpoint, e.lane.isOut = true → Bypasses b e st s st' s') :
    b.Receiving st' s' := fun e out =>
  let ⟨c, receives⟩ := sound e out
  ⟨c, receives.kept (bypasses e out)⟩

theorem Board.Receiving.update (sound : b.Receiving st s) (e' : Endpoint)
    (own : e'.lane.isOut = true → ∃ c, Receives b st' s' e' c)
    (bypasses : ∀ e : Endpoint, e ≠ e' → Bypasses b e st s st' s') :
    b.Receiving st' s' := by
  intro e out
  by_cases same : e = e'
  · exact same ▸ own (same ▸ out)
  · obtain ⟨c, receives⟩ := sound e out
    exact ⟨c, receives.kept (bypasses e same)⟩

end Endpoints

/-- A lane that has lost nothing has a free block for the next packet. -/
theorem LaneSound.free_of_room {build : Build} {b : Board build} {c : Lane}
    {v : LaneView} {s : Shared} {h : Held} (sound : LaneSound b c v s h)
    (here : v.producer = .get) (nothing : h.lost = [])
    (room : (s.items (b.queue c)).length < c.size build - 1) :
    s.free (b.memPool c) ≠ [] := by
  have total := sound.total_count
  have producing := sound.producing
  have reading := sound.reading
  rw [here] at producing
  generalize h.hands = hands, h.blocked = blocked at producing total
  generalize v.reader = reader, h.owned = owned, h.unread = unread at reading total
  have short : owned.length ≤ 1 := by
    cases reading <;> simp
  cases producing with
  | get =>
      intro empty
      rw [empty, nothing] at total
      simp only [List.length_nil] at total
      omega

/-! ## The interrupt routine -/

/-- The bit of the endpoint has been cleared, and no other bit has changed. -/
def Engine.Clears (dma : DmaInt) (e : Endpoint) (engine engine' : Engine) : Prop :=
  match dma with
  | .eot =>
      engine'.eotIntSt = Function.update engine.eotIntSt e false ∧
        engine'.nddrIntSt = engine.nddrIntSt
  | .nddr =>
      engine'.eotIntSt = engine.eotIntSt ∧
        engine'.nddrIntSt = Function.update engine.nddrIntSt e false

/-- The bit of the endpoint is set.  A request is served after the transfer. -/
def Engine.Due (dma : DmaInt) (e : Endpoint) (engine : Engine) : Prop :=
  match dma with
  | .eot => engine.eotIntSt e = true
  | .nddr => engine.eotIntSt e = false ∧ engine.nddrIntSt e = true

section Serving

variable {bus : Bus} {b : Board (.dma bus)} {m : Mode} {st st' : DmaFirmware}
variable {lists : Lists} {s : Shared} {held : Lane → Held} {e : Endpoint}
variable {dma : DmaInt} {fuel : Nat}

theorem Bypasses.of_serve {build : Build} {b : Board build} {e' : Endpoint}
    {s' : Shared} (different : e ≠ e')
    (confines : e'.Confines st.engine.ram st'.engine.ram)
    (clears : Engine.Clears dma e' st.engine st'.engine)
    (acknowledged : st'.acknowledged = st.acknowledged)
    (sent : st'.sent e.lane = st.sent e.lane)
    (items : s'.items (b.queue e.lane) = s.items (b.queue e.lane)) :
    Bypasses b e st s st' s' where
  ram _ zone := confines.other different.symm zone
  eotIntSt := by
    cases dma with
    | eot => rw [clears.1, Function.update_of_ne different]
    | nddr => rw [clears.1]
  nddrIntSt := by
    cases dma with
    | eot => exact fun requested => clears.2 ▸ requested
    | nddr =>
        rw [clears.2, Function.update_of_ne different]
        exact id
  acknowledged := congrFun acknowledged e
  sent := sent
  items := Nat.le_of_eq (congrArg List.length items)

namespace DmaInside

/-- `ep_rx_end_of_transfer` copies the packet. -/
theorem rxEndOfTransfer (inside : DmaInside b m st lists s held)
    (out : e.lane.isOut = true) (due : bus = .calm → st.engine.eotIntSt e = true)
    (run : b.rxEndOfTransfer fuel e st = some st') :
    Engine.Clears .eot e st.engine st'.engine ∧
      ∃ lists' s' held', DmaInside b m st' lists' s' held' := by
  obtain ⟨firmware, engine, acknowledged⟩ := rxEndOfTransfer_spec run
  have clears : Engine.Clears .eot e st.engine st'.engine := by
    rw [engine]
    exact ⟨rfl, rfl⟩
  have sound := inside.firmware.net.lane e.lane
  have room : bus = .calm → (s.items (b.queue e.lane)).length <
      e.lane.size (.dma bus) - 1 := fun calm =>
    let ⟨_, receives⟩ := inside.receiving calm e out
    receives.room (.inr (due calm))
  have may : e.lane.drops (.dma bus) = true ∨
      (s.items (b.queue e.lane)).length < s.capacity (b.queue e.lane) := by
    rw [sound.capacity]
    cases bus with
    | wild => exact .inl out
    | calm => exact .inr (room rfl)
  obtain ⟨lists', s', held', after, others, copies⟩ :=
    inside.firmware.epRxInt out may firmware
  refine ⟨clears, lists', s', held', after, fun calm => ?_⟩
  have free : s.free (b.memPool e.lane) ≠ [] := by
    refine sound.free_of_room (st.view_idle out) (sound.lossless ?_) (room calm)
    subst calm
    rfl
  have copied := copies _ rfl free
  have sent : st'.sent = Function.update st.sent e.lane
      (st.sent e.lane ++ [(b.waiting st e).words]) := by
    rw [copied]
    rfl
  refine (inside.receiving calm).update e (fun _ => ?_) fun e' different =>
    .of_serve different (by rw [engine]; exact .refl e _) clears acknowledged
      (by rw [sent, Function.update_of_ne (Endpoint.lane_inj.ne different)])
      (others _ (Endpoint.lane_inj.ne different))
  -- The descriptors are the same, and the payload has been sent.
  obtain ⟨c, receives⟩ := inside.receiving calm e out
  have retired := receives.transferred (due calm)
  have descriptors := receives.descriptors
  refine ⟨c, ?_⟩
  have cleared : st'.engine.eotIntSt e = false := by
    rw [engine]
    exact Function.update_self _ _ _
  have ram : st'.engine.ram = st.engine.ram := by rw [engine]
  refine ⟨ram ▸ descriptors, ?_, ?_, ?_, ?_⟩
  · rw [ram, retired, cleared]
    simp
  · rw [cleared]
    simp
  · rw [ram]
    exact fun _ => retired
  · have found : (b.waiting st e).words =
        payloadAt st.engine.ram (e.epDmaAddr.buffer c) := by
      have current : (st.ep e).current (b.edi e) = e.epDmaAddr.dd c :=
        descriptors.current
      have buffer : st.engine.ram (wordAt (e.epDmaAddr.dd c) 5) =
          e.epDmaAddr.buffer c := descriptors.buffer c descriptors.bounded
      rw [Board.waiting, current, buffer]
      rfl
    have before := receives.delivered
    rw [DmaFirmware.arrived, if_pos (due calm), ← found] at before
    rw [acknowledged, sent, Function.update_self, DmaFirmware.arrived,
      if_neg (by simp [cleared]), List.append_nil]
    exact before

/-- `ep_tx_int_DD_request` takes a payload. -/
theorem txDdRequest (inside : DmaInside b m st lists s held)
    (isIn : e.lane.isOut = false) (run : b.txDdRequest fuel e st = some st') :
    Engine.Clears .nddr e st.engine st'.engine ∧
      ∃ lists' s' held', DmaInside b m st' lists' s' held' := by
  obtain ⟨firmware, eot, nddr, confines, acknowledged⟩ := txDdRequest_spec run
  have toHost : e.lane = .ep2Tx ∨ e.lane = .ep5Tx := by
    cases e with
    | ep2Tx => exact .inl rfl
    | ep5Tx => exact .inr rfl
    | ep2Rx | ep5Rx => cases isIn
  obtain ⟨lists', s', held', after, others, sent⟩ :=
    inside.firmware.epTxInt toHost firmware
  have clears : Engine.Clears .nddr e st.engine st'.engine := ⟨eot, nddr⟩
  refine ⟨clears, lists', s', held', after, fun calm => ?_⟩
  refine (inside.receiving calm).update e (fun out => ?_) fun e' different =>
    .of_serve different confines clears acknowledged (congrFun sent _)
      (others _ (Endpoint.lane_inj.ne different))
  rw [isIn] at out
  cases out

/-- `ep_rx_DD_request` activates a descriptor if the queue has room. -/
theorem rxDdRequest (inside : DmaInside b m st lists s held)
    (out : e.lane.isOut = true)
    (due : bus = .calm → st.engine.eotIntSt e = false ∧ st.engine.nddrIntSt e = true) :
    Engine.Clears .nddr e st.engine
        (st.setEp e (epRxDdRequest (b.edi e) (st.ep e))).engine ∧
      DmaInside b m (st.setEp e (epRxDdRequest (b.edi e) (st.ep e))) lists s
        held := by
  obtain ⟨ep, isEp⟩ : ∃ ep, ep = epRxDdRequest (b.edi e) (st.ep e) := ⟨_, rfl⟩
  rw [← isEp]
  have queue := inside.firmware.hosts.queue _ ⟨e.lane, rfl⟩
  have sound := inside.firmware.net.lane e.lane
  rw [sound.capacity] at queue
  have kernel : ep.kernel = st.kernel := by
    rw [isEp, epRxDdRequest]
    split <;> rfl
  have eot : ep.eotIntSt = st.engine.eotIntSt e := by
    rw [isEp, epRxDdRequest]
    split <;> rfl
  have nddr : ep.nddrIntSt = false := by
    rw [isEp, epRxDdRequest]
    split <;> rfl
  have ram : ep.ram = if (st.kernel.dque (b.queue e.lane)).fifoFull then
      st.engine.ram
      else activateFrom (b.edi e) 8 st.engine.ram e.epDmaAddr.pDD := by
    rw [isEp, epRxDdRequest]
    split <;> rename_i full
    · exact (if_pos full).symm
    · exact (if_neg full).symm
  have confines : e.Confines st.engine.ram ep.ram := by
    rw [ram]
    split
    · exact .refl e _
    · have activates := @activateFrom_confines e st.engine.ram _ b 0 8 (by decide)
      rwa [EpDmaAddr.dd_zero] at activates
  have firmware : (st.setEp e ep).toFirmware = st.toFirmware := by
    rw [DmaFirmware.setEp, kernel]
  have clears : Engine.Clears .nddr e st.engine (st.setEp e ep).engine := by
    refine ⟨?_, ?_⟩
    · rw [DmaFirmware.setEp, eot]
      exact Function.update_eq_self _ _
    · rw [DmaFirmware.setEp, nddr]
  refine ⟨clears, firmware ▸ inside.firmware, fun calm => ?_⟩
  refine (inside.receiving calm).update e (fun _ => ?_) fun e' different =>
    .of_serve different confines clears rfl rfl rfl
  obtain ⟨nothing, request⟩ := due calm
  obtain ⟨c, receives⟩ := inside.receiving calm e out
  have retired := receives.requested request
  have before := receives.delivered
  rw [DmaFirmware.arrived, if_neg (by simp [nothing])] at before
  have cleared : (st.setEp e ep).engine.eotIntSt e = false := by
    rw [clears.1, nothing]
  have served : (st.setEp e ep).engine.nddrIntSt e = false := by
    rw [clears.2, Function.update_self]
  -- A descriptor is active only if the queue is not full.
  obtain ⟨c', descriptors, room⟩ : ∃ c', Descriptors (b.edi e) ep.ram c' ∧
      (ddRetired ep.ram (e.epDmaAddr.dd c') = false →
        (s.items (b.queue e.lane)).length < e.lane.size (.dma bus) - 1) := by
    rw [ram]
    split
    · refine ⟨c, receives.descriptors, fun active => ?_⟩
      rw [retired] at active
      cases active
    · next free =>
        obtain ⟨next, descriptors⟩ :=
          receives.descriptors.activate retired (show 2 ≤ 8 by decide)
        refine ⟨next, descriptors, fun _ => ?_⟩
        have room := e.lane.room_ne_zero (.dma bus)
        have full := queue.fifoFull_iff (by omega)
        have bounded := queue.shape.length_items_le
        rw [queue.items, queue.capacity] at bounded
        exact Nat.lt_of_le_of_ne bounded fun equal => free (full.mpr equal)
  refine ⟨c', descriptors, ?_, ?_, ?_, ?_⟩
  · rintro (active | transferred)
    · exact room active
    · rw [cleared] at transferred
      cases transferred
  · rw [cleared]
    simp
  · rw [served]
    simp
  · rw [DmaFirmware.arrived, if_neg (by simp [cleared])]
    exact before

theorem serve (inside : DmaInside b m st lists s held)
    (due : bus = .calm → e.lane.isOut = true → st.engine.Due dma e)
    (run : b.dmaServe fuel e dma st = some st') :
    Engine.Clears dma e st.engine st'.engine ∧
      ∃ lists' s' held', DmaInside b m st' lists' s' held' := by
  cases dma with
  | eot =>
      rw [Board.dmaServe] at run
      split at run
      · next out => exact inside.rxEndOfTransfer out (fun calm => due calm out) run
      · next isIn =>
          cases run
          have clears : Engine.Clears .eot e st.engine
              (st.setEp e { st.ep e with eotIntSt := false }).engine :=
            ⟨rfl, Function.update_eq_self _ _⟩
          refine ⟨clears, lists, s, held, inside.firmware, fun calm => ?_⟩
          exact (inside.receiving calm).update e (fun out => absurd out isIn)
            fun e' different =>
              .of_serve different (.refl e _) clears rfl rfl rfl
  | nddr =>
      rw [Board.dmaServe] at run
      split at run
      · next out =>
          cases run
          obtain ⟨clears, after⟩ :=
            inside.rxDdRequest out fun calm => due calm out
          exact ⟨clears, lists, s, held, after⟩
      · next isIn =>
          exact inside.txDdRequest (Bool.eq_false_iff.mpr isIn) run

end DmaInside

/-- The bits that a part of the routine finds: a transfer waits for it only if its bit
has been read, and no transfer waits when the requests are served. -/
def Engine.Read (dma : DmaInt) (epIntStatus : Endpoint → Bool) (es : List Endpoint)
    (engine : Engine) : Prop :=
  ∀ e : Endpoint, e.lane.isOut = true →
    match dma with
    | .eot => engine.eotIntSt e = true ↔ epIntStatus e = true ∧ e ∈ es
    | .nddr => engine.eotIntSt e = false ∧
        (epIntStatus e = true → e ∈ es → engine.nddrIntSt e = true)

section Reads

variable {epIntStatus : Endpoint → Bool} {es : List Endpoint}
variable {engine engine' : Engine}

theorem Engine.Read.due (read : engine.Read dma epIntStatus (e :: es))
    (out : e.lane.isOut = true) (set : epIntStatus e = true) :
    engine.Due dma e := by
  have here := read e out
  cases dma with
  | eot => exact here.mpr ⟨set, by simp⟩
  | nddr => exact ⟨here.1, here.2 set (by simp)⟩

theorem Engine.Read.clear (read : engine.Read dma epIntStatus (e :: es))
    (fresh : e ∉ es) (clears : Engine.Clears dma e engine engine') :
    engine'.Read dma epIntStatus es := by
  intro e' out
  have before := read e' out
  cases dma with
  | eot =>
      rw [clears.1]
      by_cases same : e' = e
      · subst same
        simp [fresh]
      · simpa [Function.update_of_ne same, same] using before
  | nddr =>
      rw [clears.1, clears.2]
      refine ⟨before.1, fun set member => ?_⟩
      have other : e' ≠ e := by
        rintro rfl
        exact fresh member
      rw [Function.update_of_ne other]
      exact before.2 set (by simp [member])

theorem Engine.Read.skip (read : engine.Read dma epIntStatus (e :: es))
    (clear : epIntStatus e ≠ true) : engine.Read dma epIntStatus es := by
  intro e' out
  have before := read e' out
  cases dma with
  | eot =>
      by_cases same : e' = e
      · subst same
        simpa [clear] using before
      · simpa [same] using before
  | nddr => exact ⟨before.1, fun set member => before.2 set (by simp [member])⟩

end Reads

namespace DmaInside

variable {int : DmaInterrupt} {engine : Option Engine}

theorem meddle (inside : DmaInside b m st lists s held)
    (calm : bus = .calm → engine = none) :
    DmaInside b m (st.meddled engine) lists s held := by
  refine ⟨inside.firmware, fun isCalm => ?_⟩
  rw [calm isCalm]
  exact inside.receiving isCalm

theorem dmaServes {epIntStatus : Endpoint → Bool} {es : List Endpoint}
    (inside : DmaInside b m st lists s held) (calm : bus = .calm → int.Calm)
    (distinct : es.Nodup)
    (read : bus = .calm → st.engine.Read dma epIntStatus es)
    (run : b.dmaServes fuel int dma epIntStatus es st = some st') :
    (∃ lists' s' held', DmaInside b m st' lists' s' held') ∧
      (bus = .calm → st'.engine.Read dma epIntStatus []) := by
  induction es generalizing st lists s held with
  | nil =>
      cases run
      exact ⟨⟨lists, s, held, inside⟩, read⟩
  | cons e es ih =>
      obtain ⟨fresh, distinct⟩ := List.nodup_cons.mp distinct
      obtain ⟨st₁, served, run⟩ := Option.bind_eq_some_iff.mp run
      have before : DmaInside b m (st.meddled (int.serves dma e)) lists s held :=
        inside.meddle fun isCalm => (calm isCalm).serves dma e
      have same : bus = .calm → st.meddled (int.serves dma e) = st := by
        intro isCalm
        rw [(calm isCalm).serves]
        rfl
      split at served
      · next set =>
          have due : bus = .calm → e.lane.isOut = true →
              (st.meddled (int.serves dma e)).engine.Due dma e := by
            intro isCalm out
            rw [same isCalm]
            exact (read isCalm).due out set
          obtain ⟨clears, _, _, _, inside₁⟩ := before.serve due served
          refine ih inside₁ distinct (fun isCalm => ?_) run
          rw [same isCalm] at clears
          exact (read isCalm).clear fresh clears
      · next clear =>
          cases served
          refine ih before distinct (fun isCalm => ?_) run
          rw [same isCalm]
          exact (read isCalm).skip clear

theorem dmaIntFunc (inside : DmaInside b m st lists s held)
    (calm : bus = .calm → int.Calm)
    (transferred : bus = .calm → dma = .nddr →
      ∀ e : Endpoint, e.lane.isOut = true → st.engine.eotIntSt e = false)
    (run : b.dmaIntFunc fuel int dma st = some st') :
    (∃ lists' s' held', DmaInside b m st' lists' s' held') ∧
      (bus = .calm → dma = .eot →
        ∀ e : Endpoint, e.lane.isOut = true → st'.engine.eotIntSt e = false) := by
  have all : ∀ e : Endpoint, e ∈ [Endpoint.ep2Rx, .ep2Tx, .ep5Rx, .ep5Tx] := by
    intro e
    cases e <;> decide
  have before : DmaInside b m (st.meddled (int.reads dma)) lists s held :=
    inside.meddle fun isCalm => (calm isCalm).reads dma
  obtain ⟨after, done⟩ := before.dmaServes calm (by decide)
    (fun isCalm e out => by
      rw [(calm isCalm).reads]
      cases dma with
      | eot => exact ⟨fun set => ⟨set, all e⟩, And.left⟩
      | nddr => exact ⟨transferred isCalm rfl e out, fun set _ => set⟩) run
  refine ⟨after, fun isCalm isEot e out => ?_⟩
  subst isEot
  simpa [Engine.Read] using done isCalm e out

end DmaInside

/-! ### A bus reset -/

/-- The descriptors of all endpoints from the host are in order after they have been
initialised. -/
theorem dmaInit_spec {build : Build} (b : Board build) (ram : Word → Word)
    (out : e.lane.isOut = true) : Descriptors (b.edi e) (dmaInit ram) 0 := by
  have last := tnUsbDmaTxInit_confines .ep5Tx
  unfold dmaInit
  cases e with
  | ep2Rx =>
      -- The other endpoints are initialised after EP2.
      have first := @tnUsbDmaRxInit_spec (b.edi .ep2Rx) (show 0 < 8 by decide) ram
      refine (first.kept fun address zone => ?_).1
      rw [(last _).other (by decide) zone,
        (tnUsbDmaRxInit_confines .ep5Rx _).other (by decide) zone]
      exact (tnUsbDmaTxInit_confines .ep2Tx _).other (by decide) zone
  | ep5Rx =>
      have third := @tnUsbDmaRxInit_spec (b.edi .ep5Rx) (show 0 < 8 by decide)
        (tnUsbDmaTxInit Endpoint.ep2Tx.table
          (tnUsbDmaRxInit Endpoint.ep2Rx.table ram))
      exact (third.kept fun address zone => (last _).other (by decide) zone).1
  | ep2Tx | ep5Tx => cases out

/-- After the initialisation the endpoints from the host lose nothing, if their queues
have room and no transfer has been waiting. -/
theorem Board.Receiving.init {build : Build} {b : Board build}
    (cleared : st'.engine = ⟨dmaInit st.engine.ram, fun _ => false, fun _ => false⟩)
    (acknowledged : st'.acknowledged = st.acknowledged)
    (sent : st'.sent = st.sent)
    (room : ∀ e : Endpoint, e.lane.isOut = true →
      (s.items (b.queue e.lane)).length < e.lane.size build - 1)
    (delivered : ∀ e : Endpoint, e.lane.isOut = true →
      List.Forall₂ Carries (st.acknowledged e) (st.sent e.lane)) :
    b.Receiving st' s := by
  intro e out
  refine ⟨0, ?_, fun _ => room e out, ?_, ?_, ?_⟩
  · rw [cleared]
    exact dmaInit_spec b _ out
  · rw [cleared]
    exact nofun
  · rw [cleared]
    exact nofun
  · rw [acknowledged, sent, DmaFirmware.arrived, cleared]
    simpa using delivered e out

namespace DmaInside

variable {usb : UsbInterrupt}

theorem tnUsbIntReset (inside : DmaInside b m st lists s held)
    (quiet : bus = .calm → b.Quiet st) :
    DmaInside b m st.tnUsbIntReset lists s held := by
  have firmware := inside.firmware
  refine ⟨⟨firmware.mode, firmware.context, firmware.hosts, firmware.net,
    firmware.copied⟩, fun calm => ?_⟩
  refine @Board.Receiving.init st _ _ _ _ rfl rfl rfl (fun e out => ?_)
    fun e out => ?_
  · have queue := firmware.hosts.queue _ ⟨e.lane, rfl⟩
    rw [(firmware.net.lane e.lane).capacity] at queue
    have room := e.lane.room_ne_zero (.dma bus)
    have full := queue.fifoFull_iff (by omega)
    have bounded := queue.shape.length_items_le
    rw [queue.items, queue.capacity] at bounded
    refine Nat.lt_of_le_of_ne bounded fun equal => ?_
    exact absurd ((full.mpr equal).symm.trans (quiet calm e out).2) (by decide)
  · obtain ⟨c, receives⟩ := inside.receiving calm e out
    have before := receives.delivered
    rwa [DmaFirmware.arrived, if_neg (by simp [(quiet calm e out).1]),
      List.append_nil] at before

theorem quiet_reset {build : Build} {b : Board build} (quiet : b.Quiet st) :
    b.Quiet st.tnUsbIntReset :=
  fun e out => ⟨rfl, (quiet e out).2⟩

theorem devStatusFunc (inside : DmaInside b m st lists s held)
    (quiet : bus = .calm → usb.resets = true → b.Quiet st) :
    DmaInside b m (st.devStatusFunc usb) lists s held := by
  unfold DmaFirmware.devStatusFunc
  split
  · next devInt =>
      have next : ∀ {st₁ : DmaFirmware} (status : Word),
          status = devStatusRst ∨ status = devStatusConCh →
          DmaInside b m st₁ lists s held →
          (bus = .calm → usb.resets = true → b.Quiet st₁) →
          DmaInside b m (if usb.devStatus &&& status ≠ 0 then st₁.tnUsbIntReset
              else st₁) lists s held ∧
            (bus = .calm → usb.resets = true →
              b.Quiet (if usb.devStatus &&& status ≠ 0 then st₁.tnUsbIntReset
                else st₁)) := by
        intro st₁ status isStatus inside quiet
        split
        · next set =>
            have resets : usb.resets = true := by
              refine decide_eq_true ⟨devInt, ?_⟩
              rcases isStatus with rfl | rfl
              · exact .inl set
              · exact .inr set
            exact ⟨inside.tnUsbIntReset fun calm => quiet calm resets,
              fun calm _ => quiet_reset (quiet calm resets)⟩
        · exact ⟨inside, quiet⟩
      obtain ⟨inside₁, quiet₁⟩ := next devStatusRst (.inl rfl) inside quiet
      exact (next devStatusConCh (.inr rfl) inside₁ quiet₁).1
  · exact inside

theorem tnUsbDmaIntFunc {int : DmaInterrupt} (inside : DmaInside b m st lists s held)
    (calm : bus = .calm → int.Calm ∧ (int.usb.resets = true → b.Quiet st))
    (run : b.tnUsbDmaIntFunc fuel int st = some st') :
    ∃ lists' s' held', DmaInside b m st' lists' s' held' := by
  obtain ⟨device, _, run⟩ := Option.bind_eq_some_iff.mp run
  obtain ⟨st₁, run₁, run₂⟩ := Option.bind_eq_some_iff.mp run
  have before : DmaInside b m (st.devStatusFunc int.usb) lists s held :=
    inside.devStatusFunc fun isCalm => (calm isCalm).2
  have entered : DmaInside b m ((st.devStatusFunc int.usb).setFirmware
      { st.devStatusFunc int.usb with device := device }) lists s held :=
    ⟨before.firmware.setDevice device, fun isCalm =>
      (before.receiving isCalm).kept fun _ _ =>
        ⟨fun _ _ => rfl, rfl, id, rfl, rfl, Nat.le_refl _⟩⟩
  obtain ⟨⟨_, _, _, inside₁⟩, transferred⟩ := entered.dmaIntFunc
    (fun isCalm => (calm isCalm).1) (fun _ isNddr => by cases isNddr) run₁
  exact (inside₁.dmaIntFunc (fun isCalm => (calm isCalm).1)
    (fun isCalm _ => transferred isCalm rfl) run₂).1

end DmaInside

end Serving

/-! ## The steps -/

section Step

variable {bus : Bus} {b : Board (.dma bus)} {st st' : DmaFirmware} {lists : Lists}
variable {s : Shared} {held : Lane → Held} {e : Endpoint}

namespace DmaSound

theorem transfer (sound : DmaSound b st lists s held) (out : e.lane.isOut = true)
    (packet : UsbPacket) (position : Word) {status : Word} (enabled : Bool)
    (active : ddRetired st.engine.ram ((st.ep e).current (b.edi e)) = false)
    (retires : status &&& 1 ≠ 0) :
    DmaSound b ((st.setEp e ((st.ep e).transfer (b.edi e) packet position status
      enabled)).acknowledge e packet) lists s held := by
  refine ⟨sound.firmware, fun calm => ?_⟩
  obtain ⟨c, receives⟩ := sound.receiving calm e out
  have current : (st.ep e).current (b.edi e) = e.epDmaAddr.dd c :=
    receives.descriptors.current
  have confines : e.Confines (st.ep e).ram ((st.ep e).transfer (b.edi e) packet
      position status enabled).ram := DmaEp.transfer_confines
    receives.descriptors active packet position status enabled
  rw [current] at active
  obtain ⟨descriptors, retired, arrived⟩ := @DmaEp.transfer_spec (b.edi e) c
    (st.ep e) receives.descriptors active packet position _ retires enabled
  have nothing : st.engine.eotIntSt e = false := by
    by_contra waits
    rw [receives.transferred (by simpa using waits)] at active
    cases active
  have before := receives.delivered
  rw [DmaFirmware.arrived, if_neg (by simp [nothing]), List.append_nil] at before
  refine (sound.receiving calm).update e (fun _ => ⟨c, descriptors,
    fun _ => receives.room (.inl active), fun _ => retired, fun _ => retired, ?_⟩)
    fun e' different => ⟨fun _ => confines.other different.symm, ?_, ?_, ?_, rfl,
      Nat.le_refl _⟩
  · have waits : (st.setEp e ((st.ep e).transfer (b.edi e) packet position status
        enabled)).engine.eotIntSt e = true := Function.update_self _ _ _
    simp only [DmaFirmware.acknowledge, Function.update_self,
      DmaFirmware.arrived, waits, if_true]
    exact List.rel_append before (.cons arrived .nil)
  · exact Function.update_of_ne different _ _
  · intro requested
    rwa [← Function.update_of_ne different _ st.engine.nddrIntSt]
  · exact Function.update_of_ne different _ _

theorem request (sound : DmaSound b st lists s held)
    (retired : e.lane.isOut = true →
      ddRetired st.engine.ram ((st.ep e).current (b.edi e)) = true) :
    DmaSound b (st.setEp e { st.ep e with nddrIntSt := true }) lists s held := by
  have eot : Function.update st.engine.eotIntSt e (st.engine.eotIntSt e) =
      st.engine.eotIntSt := Function.update_eq_self _ _
  refine ⟨sound.firmware, fun calm => ?_⟩
  refine (sound.receiving calm).update e (fun out => ?_) fun e' different =>
    ⟨fun _ _ => rfl, congrFun eot e', ?_, rfl, rfl, Nat.le_refl _⟩
  · obtain ⟨c, receives⟩ := sound.receiving calm e out
    have current : (st.ep e).current (b.edi e) = e.epDmaAddr.dd c :=
      receives.descriptors.current
    have retired := retired out
    rw [current] at retired
    have same : (st.setEp e { st.ep e with nddrIntSt := true }).engine.eotIntSt =
        st.engine.eotIntSt := eot
    refine ⟨c, receives.descriptors, ?_, ?_, fun _ => retired, ?_⟩
    · rw [same]
      exact receives.room
    · rw [same]
      exact receives.transferred
    · rw [DmaFirmware.arrived, same]
      exact receives.delivered
  · intro requested
    rwa [← Function.update_of_ne different _ st.engine.nddrIntSt]

theorem complete (sound : DmaSound b st lists s held) (isIn : e.lane.isOut = false)
    {ram : Word → Word}
    (zone : ∀ address, ram address ≠ st.engine.ram address → e.InZone address) :
    DmaSound b (st.setEp e { st.ep e with ram := ram, eotIntSt := true }) lists s
      held := by
  refine ⟨sound.firmware, fun calm => ?_⟩
  refine (sound.receiving calm).update e (fun out => ?_) fun e' different =>
    ⟨fun _ => Endpoint.Confines.other zone different.symm,
      Function.update_of_ne different _ _, ?_, rfl, rfl, Nat.le_refl _⟩
  · rw [isIn] at out
    cases out
  · intro requested
    rwa [← Function.update_of_ne different _ st.engine.nddrIntSt]

theorem step (sound : DmaSound b st lists s held) (step : DmaFirmwareStep b st st') :
    ∃ lists' s' held', DmaSound b st' lists' s' held' := by
  have unchanged : ∀ st₁ : DmaFirmware, st₁.engine = st.engine →
      st₁.acknowledged = st.acknowledged → ∀ s' : Shared,
      b.Drains s s' → (∀ c, c.isOut = true → st₁.sent c = st.sent c) →
      bus = .calm → b.Receiving st₁ s' := by
    intro st₁ engine acknowledged s' drains sent calm
    refine (sound.receiving calm).kept fun e out => ⟨fun _ _ => ?_, ?_, ?_, ?_,
      sent _ out, drains _ out⟩
    · rw [engine]
    · rw [engine]
    · rw [engine]
      exact id
    · rw [acknowledged]
  cases step with
  | @common firmware step =>
      obtain ⟨lists', s', held', after, drains, sent⟩ :=
        sound.firmware.common step
      exact ⟨lists', s', held', after,
        unchanged (st.setFirmware firmware) rfl rfl s' drains sent⟩
  | transfer out packet position status enabled active retires =>
      exact ⟨lists, s, held,
        sound.transfer out packet position enabled active retires⟩
  | request retired => exact ⟨lists, s, held, sound.request retired⟩
  | complete isIn ram zone => exact ⟨lists, s, held, sound.complete isIn zone⟩
  | wild wild engine =>
      refine ⟨lists, s, held, sound.firmware, fun calm => ?_⟩
      cases wild.symm.trans calm
  | interrupt fuel int calm run =>
      have entered : DmaInside b st.kernel.enterIrq.mode
          (st.setKernel st.kernel.enterIrq) lists s held :=
        ⟨sound.firmware.enter, unchanged (st.setKernel st.kernel.enterIrq) rfl rfl s
          (fun _ _ => Nat.le_refl _) fun _ _ => rfl⟩
      obtain ⟨lists', s', held', after⟩ := entered.tnUsbDmaIntFunc calm run
      refine ⟨lists', s', held', after.firmware.leave sound.firmware.atTask,
        fun isCalm => ?_⟩
      exact (after.receiving isCalm).kept fun _ _ =>
        ⟨fun _ _ => rfl, rfl, id, rfl, rfl, Nat.le_refl _⟩

end DmaSound

end Step

theorem DmaFirmwareRun.sound {bus : Bus} {b : Board (.dma bus)} {st : DmaFirmware}
    (run : DmaFirmwareRun b st) : ∃ lists s held, DmaSound b st lists s held := by
  induction run with
  | @start k k₁ k₂ pbuf descriptors mem ram fuel fresh start init =>
      obtain ⟨lists, s, sound, empty⟩ := Firmware.atStart_sound fresh start init
      refine ⟨lists, s, _, sound, fun _ => ?_⟩
      refine @Board.Receiving.init
        { toFirmware := .atStart k₂ (.atStart pbuf descriptors mem)
          engine := ⟨ram, fun _ => false, fun _ => false⟩
          acknowledged := fun _ => [] } _ _ _ _ rfl rfl rfl (fun e _ => ?_)
        fun _ _ => .nil
      have room := e.lane.room_ne_zero (.dma bus)
      rw [empty, List.length_nil]
      omega
  | next before step ih =>
      obtain ⟨lists, s, held, sound⟩ := ih
      exact sound.step step

end UsbBulk
