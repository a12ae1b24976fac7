import UsbBulk.Usb.DescriptorTable

/-!
# SET_CONFIGURATION

The scan jumps over the configurations that the request does not select, and goes
through the selected one descriptor by descriptor.  In a well-formed table it
configures the endpoints of the interfaces without alternate setting, and reads
nothing behind the table as long as the descriptors have the fields it reads.
-/

namespace UsbBulk

/-! ## What the table says -/

namespace UsbDescriptor

/-- `bConfigurationValue`. -/
def configurationValue (d : UsbDescriptor) : Byte := d.bytes[5]?.getD 0

/-- `bAlternateSetting`. -/
def alternateSetting (d : UsbDescriptor) : Byte := d.bytes[3]?.getD 0

end UsbDescriptor

/-- The interface that the next descriptor belongs to: the last one so far. -/
def lastInterface (descriptors : List UsbDescriptor) : Option UsbDescriptor :=
  (descriptors.filter fun d => d.kind = usbDescrTypeInterface).getLast?

namespace UsbBlock

/-- The block is the configuration of this value. -/
def Configures (block : UsbBlock) (value : Byte) : Prop :=
  block.first.kind = usbDescrTypeConfiguration ∧
    block.first.configurationValue = value

/-- Where the inner descriptor `i` is, counted from the start of the block. -/
def innerOffset (block : UsbBlock) (i : Nat) : Nat :=
  block.first.bytes.length + ((block.inner.take i).flatMap (·.bytes)).length

/-- The inner descriptor `i` is an endpoint, and its interface has alternate
setting 0. -/
def endpointInUse (block : UsbBlock) (i : Nat) : Bool :=
  block.inner[i]?.map (·.kind) = some usbDescrTypeEndpoint ∧
    (lastInterface (block.inner.take i)).map (·.alternateSetting) = some 0

/-- Where the endpoints of the configuration are, in the order of the table. -/
def endpointOffsets (block : UsbBlock) : List Nat :=
  ((List.range block.inner.length).filter block.endpointInUse).map
    block.innerOffset

end UsbBlock

/-- A configuration has a value; interfaces and endpoints occur inside
configurations only, and an endpoint after an interface. -/
structure NestedBlock (block : UsbBlock) : Prop where
  value : block.first.kind = usbDescrTypeConfiguration →
    block.first.configurationValue ≠ 0
  outside : block.first.kind ≠ usbDescrTypeInterface ∧
    block.first.kind ≠ usbDescrTypeEndpoint
  owned : ∀ i d, block.inner[i]? = some d → d.kind = usbDescrTypeEndpoint →
    (lastInterface (block.inner.take i)).isSome

/-- No two configurations have the same value. -/
structure NestedTable (blocks : List UsbBlock) : Prop where
  nested : ∀ block ∈ blocks, NestedBlock block
  distinct : blocks.Pairwise fun block block' =>
    ∀ value, block.Configures value → ¬ block'.Configures value

/-- Interfaces and endpoints have the fields that the request reads. -/
structure HasFields (block : UsbBlock) : Prop where
  interface : ∀ d ∈ block.inner,
    d.kind = usbDescrTypeInterface → 4 ≤ d.bytes.length
  endpoint : ∀ d ∈ block.inner,
    d.kind = usbDescrTypeEndpoint → 6 ≤ d.bytes.length

structure WellFormedBlock (block : UsbBlock) : Prop
    extends NestedBlock block, HasFields block

structure WellFormedTable (blocks : List UsbBlock) : Prop
    extends NestedTable blocks where
  fields : ∀ block ∈ blocks, HasFields block

theorem WellFormedTable.wellFormed {blocks : List UsbBlock}
    (table : WellFormedTable blocks) :
    ∀ block ∈ blocks, WellFormedBlock block :=
  fun block member => ⟨table.nested block member, table.fields block member⟩

/-- The addresses of the table, its closing byte included. -/
def InTable (base : Word) (blocks : List UsbBlock) (address : Word) : Prop :=
  ∃ i < (tableBytes blocks).length, address = base + BitVec.ofNat 32 i

/-! ## What the scan reads -/

/-- What `tn_usb_config_ep` reads: `bEndpointAddress` and `wMaxPacketSize`. -/
def configEpReads (ptr : Word) : List Word := [ptr + 2, ptr + 4, ptr + 4 + 1]

/-- The addresses that the loop of `usb_SET_CONFIGURATION` reads. -/
def scanReads : Nat → (Word → Byte) → Byte → Byte → Word → List Word
  | 0, _, _, _, _ => []
  | fuel + 1, mem, value, aset, ptr =>
      if mem ptr = 0 then [ptr]
      else
        let next := ptr + (mem ptr).setWidth 32
        let kind := mem (ptr + 1)
        if kind = usbDescrTypeConfiguration then
          if mem (ptr + 5) = value then
            ptr :: (ptr + 1) :: (ptr + 5) :: scanReads fuel mem value aset next
          else
            ptr :: (ptr + 1) :: (ptr + 5) :: (ptr + 2) :: (ptr + 2 + 1) ::
              scanReads fuel mem value aset
                (ptr + BitVec.ofNat 32 (readWord16 mem (ptr + 2)))
        else if kind = usbDescrTypeInterface then
          ptr :: (ptr + 1) :: (ptr + 3) ::
            scanReads fuel mem value (mem (ptr + 3)) next
        else if kind = usbDescrTypeEndpoint ∧ aset = 0 then
          ptr :: (ptr + 1) ::
            (configEpReads ptr ++ scanReads fuel mem value aset next)
        else ptr :: (ptr + 1) :: scanReads fuel mem value aset next

/-! ## The scan from place to place -/

/-- Where the loop stands. -/
structure ScanPoint where
  device : UsbDevice
  ptr : Word
  aset : Byte
  rc : Bool

namespace ScanPoint

def scan (fuel : Nat) (point : ScanPoint) : Option (UsbDevice × Bool) :=
  scanConfigurations fuel point.device point.ptr point.aset point.rc

def reads (fuel : Nat) (point : ScanPoint) : List Word :=
  scanReads fuel point.device.mem point.device.setup.valueLow point.aset
    point.ptr

/-- The loop comes from one place to the other and reads `inside` only. -/
def Goes (inside : Word → Prop) (point point' : ScanPoint) : Prop :=
  ∃ steps, ∀ fuel, point.scan (fuel + steps) = point'.scan fuel ∧
    ∀ address ∈ point.reads (fuel + steps),
      inside address ∨ address ∈ point'.reads fuel

variable {inside : Word → Prop} {point point' point'' : ScanPoint}

theorem Goes.refl (point : ScanPoint) : Goes inside point point :=
  ⟨0, fun _ => ⟨rfl, fun _ read => .inr read⟩⟩

theorem Goes.trans (first : Goes inside point point')
    (second : Goes inside point' point'') : Goes inside point point'' := by
  obtain ⟨steps, first⟩ := first
  obtain ⟨steps', second⟩ := second
  refine ⟨steps' + steps, fun fuel => ?_⟩
  obtain ⟨scan, reads⟩ := first (fuel + steps')
  obtain ⟨scan', reads'⟩ := second fuel
  rw [← Nat.add_assoc]
  refine ⟨scan.trans scan', fun address read => ?_⟩
  rcases reads address read with within | later
  · exact .inl within
  · exact reads' address later

theorem Goes.step {addresses : List Word}
    (within : ∀ address ∈ addresses, inside address)
    (scan : ∀ fuel, point.scan (fuel + 1) = point'.scan fuel)
    (reads : ∀ fuel, point.reads (fuel + 1) =
      addresses ++ point'.reads fuel) : Goes inside point point' := by
  refine ⟨1, fun fuel => ⟨scan fuel, fun address read => ?_⟩⟩
  rw [reads fuel, List.mem_append] at read
  exact read.imp_left (within address)

end ScanPoint

theorem ScanPoint.Goes.ends {inside : Word → Prop} {point point' : ScanPoint}
    (goes : Goes inside point point')
    (closed : point'.device.mem point'.ptr = 0) (last : inside point'.ptr) :
    ∃ fuel, point.scan fuel = some (point'.device, point'.rc) ∧
      ∀ address ∈ point.reads fuel, inside address := by
  obtain ⟨steps, goes⟩ := goes
  obtain ⟨scan, reads⟩ := goes 1
  refine ⟨1 + steps, ?_, fun address read => ?_⟩
  · rw [scan, ScanPoint.scan, scanConfigurations, if_pos closed]
  · rcases reads address read with within | later
    · exact within
    · rw [ScanPoint.reads, scanReads, if_pos closed,
        List.mem_singleton] at later
      exact later ▸ last

/-! ## One descriptor -/

section Descriptor

open ScanPoint

variable {inside : Word → Prop} {u : UsbDevice} {ptr : Word} {aset : Byte}
  {rc : Bool} {d : UsbDescriptor}

/-- The bytes from `ptr` on are inside. -/
def Covers (inside : Word → Prop) (ptr : Word) (bytes : List Byte) : Prop :=
  ∀ i < bytes.length, inside (ptr + BitVec.ofNat 32 i)

theorem Covers.left {bytes bytes' : List Byte}
    (covers : Covers inside ptr (bytes ++ bytes')) :
    Covers inside ptr bytes :=
  fun i below => covers i (by rw [List.length_append]; omega)

theorem Covers.right {bytes bytes' : List Byte}
    (covers : Covers inside ptr (bytes ++ bytes')) :
    Covers inside (ptr + BitVec.ofNat 32 bytes.length) bytes' := by
  intro i below
  rw [address_add]
  exact covers _ (by rw [List.length_append]; omega)

theorem Covers.at_start {byte : Byte} {bytes : List Byte}
    (covers : Covers inside ptr (byte :: bytes)) : inside ptr := by
  have start := covers 0 (by simp)
  rwa [show ptr + BitVec.ofNat 32 0 = ptr from BitVec.add_zero ptr] at start

theorem Covers.first (covers : Covers inside ptr d.bytes) :
    inside ptr ∧ inside (ptr + 1) := by
  have long := d.long
  have start := covers 0 (by omega)
  rw [show ptr + BitVec.ofNat 32 0 = ptr from BitVec.add_zero ptr] at start
  exact ⟨start, covers 1 (by omega)⟩

theorem UsbDescriptor.configurationValue_eq (laid : Laid u.mem ptr d.bytes)
    (room : 6 ≤ d.bytes.length) : u.mem (ptr + 5) = d.configurationValue := by
  have value : u.mem (ptr + 5) = d.bytes[5] := laid.get (i := 5) (by omega)
  rw [value, configurationValue, List.getElem?_eq_getElem (by omega)]
  rfl

theorem UsbDescriptor.configurationValue_room
    (value : d.configurationValue ≠ 0) : 6 ≤ d.bytes.length := by
  by_contra short
  rw [configurationValue, List.getElem?_eq_none (by omega)] at value
  exact value rfl

theorem UsbDescriptor.alternateSetting_eq (laid : Laid u.mem ptr d.bytes)
    (room : 4 ≤ d.bytes.length) : u.mem (ptr + 3) = d.alternateSetting := by
  have value : u.mem (ptr + 3) = d.bytes[3] := laid.get (i := 3) (by omega)
  rw [value, alternateSetting, List.getElem?_eq_getElem (by omega)]
  rfl

/-- The device when the loop has found the configuration. -/
def UsbDevice.configured (u : UsbDevice) : UsbDevice :=
  { u with configuration := u.setup.valueLow }.note (.configureDevice true)

theorem goes_selected (laid : Laid u.mem ptr d.bytes)
    (covers : Covers inside ptr d.bytes)
    (configuration : d.kind = usbDescrTypeConfiguration)
    (room : 6 ≤ d.bytes.length)
    (selects : d.configurationValue = u.setup.valueLow) :
    Goes inside ⟨u, ptr, aset, rc⟩
      ⟨u.configured, ptr + BitVec.ofNat 32 d.bytes.length, aset, true⟩ := by
  have nonzero := d.nonzero laid
  have kind := (d.kind_eq laid).trans configuration
  have value := (d.configurationValue_eq laid room).trans selects
  rw [← d.next laid]
  apply @Goes.step _ _ _ [ptr, ptr + 1, ptr + 5]
  · simp only [List.mem_cons, List.not_mem_nil, or_false, forall_eq_or_imp,
      forall_eq]
    exact ⟨covers.first.1, covers.first.2, covers 5 (by omega)⟩
  · intro fuel
    rw [scan, scanConfigurations, if_neg nonzero]
    dsimp only
    rw [if_pos kind, if_pos value]
    rfl
  · intro fuel
    rw [reads, scanReads, if_neg nonzero]
    dsimp only
    rw [if_pos kind, if_pos value]
    rfl

theorem goes_other (laid : Laid u.mem ptr d.bytes)
    (covers : Covers inside ptr d.bytes)
    (configuration : d.kind = usbDescrTypeConfiguration)
    (room : 6 ≤ d.bytes.length)
    (other : d.configurationValue ≠ u.setup.valueLow) :
    Goes inside ⟨u, ptr, aset, rc⟩
      ⟨u, ptr + BitVec.ofNat 32 d.totalLength, aset, rc⟩ := by
  have nonzero := d.nonzero laid
  have kind := (d.kind_eq laid).trans configuration
  have value : u.mem (ptr + 5) ≠ u.setup.valueLow := by
    rwa [d.configurationValue_eq laid room]
  rw [← d.totalLength_eq laid (by omega)]
  apply @Goes.step _ _ _ [ptr, ptr + 1, ptr + 5, ptr + 2, ptr + 2 + 1]
  · simp only [List.mem_cons, List.not_mem_nil, or_false, forall_eq_or_imp,
      forall_eq]
    rw [show ptr + 2 + 1 = ptr + 3 from BitVec.add_assoc ptr 2 1]
    exact ⟨covers.first.1, covers.first.2, covers 5 (by omega),
      covers 2 (by omega), covers 3 (by omega)⟩
  · intro fuel
    rw [scan, scanConfigurations, if_neg nonzero]
    dsimp only
    rw [if_pos kind, if_neg value]
    rfl
  · intro fuel
    rw [reads, scanReads, if_neg nonzero]
    dsimp only
    rw [if_pos kind, if_neg value]
    rfl

theorem goes_interface (laid : Laid u.mem ptr d.bytes)
    (covers : Covers inside ptr d.bytes)
    (interface : d.kind = usbDescrTypeInterface)
    (room : 4 ≤ d.bytes.length) :
    Goes inside ⟨u, ptr, aset, rc⟩
      ⟨u, ptr + BitVec.ofNat 32 d.bytes.length, d.alternateSetting, rc⟩ := by
  have nonzero := d.nonzero laid
  have kind := (d.kind_eq laid).trans interface
  have plain : u.mem (ptr + 1) ≠ usbDescrTypeConfiguration := by
    rw [kind]
    decide
  rw [← d.next laid, ← d.alternateSetting_eq laid room]
  apply @Goes.step _ _ _ [ptr, ptr + 1, ptr + 3]
  · simp only [List.mem_cons, List.not_mem_nil, or_false, forall_eq_or_imp,
      forall_eq]
    exact ⟨covers.first.1, covers.first.2, covers 3 (by omega)⟩
  · intro fuel
    rw [scan, scanConfigurations, if_neg nonzero]
    dsimp only
    rw [if_neg plain, if_pos kind]
    rfl
  · intro fuel
    rw [reads, scanReads, if_neg nonzero]
    dsimp only
    rw [if_neg plain, if_pos kind]
    rfl

/-- The state behind a descriptor that is no configuration and no interface. -/
def afterPlain (u : UsbDevice) (ptr : Word) (aset : Byte) (d : UsbDescriptor) :
    UsbDevice :=
  if d.kind = usbDescrTypeEndpoint ∧ aset = 0 then u.note (.configEp ptr)
  else u

theorem goes_plain (laid : Laid u.mem ptr d.bytes)
    (covers : Covers inside ptr d.bytes)
    (plain : d.kind ≠ usbDescrTypeConfiguration)
    (noInterface : d.kind ≠ usbDescrTypeInterface)
    (room : d.kind = usbDescrTypeEndpoint → 6 ≤ d.bytes.length) :
    Goes inside ⟨u, ptr, aset, rc⟩
      ⟨afterPlain u ptr aset d, ptr + BitVec.ofNat 32 d.bytes.length, aset,
        rc⟩ := by
  have nonzero := d.nonzero laid
  have kind := d.kind_eq laid
  rw [← d.next laid]
  apply @Goes.step _ _ _ (ptr :: (ptr + 1) ::
    if d.kind = usbDescrTypeEndpoint ∧ aset = 0 then configEpReads ptr else [])
  · simp only [List.mem_cons, forall_eq_or_imp]
    refine ⟨covers.first.1, covers.first.2, ?_⟩
    split
    case isTrue used =>
        have room := room used.1
        simp only [configEpReads, List.mem_cons, List.not_mem_nil, or_false,
          forall_eq_or_imp, forall_eq]
        rw [show ptr + 4 + 1 = ptr + 5 from BitVec.add_assoc ptr 4 1]
        exact ⟨covers 2 (by omega), covers 4 (by omega), covers 5 (by omega)⟩
    case isFalse unused => simp
  · intro fuel
    rw [scan, scanConfigurations, if_neg nonzero]
    dsimp only
    rw [kind, if_neg plain, if_neg noInterface, scan, afterPlain]
    by_cases endpoint : d.kind = usbDescrTypeEndpoint
    · simp only [endpoint, ↓reduceIte, true_and]
    · simp only [endpoint, ↓reduceIte, false_and]
  · intro fuel
    rw [reads, scanReads, if_neg nonzero]
    dsimp only
    rw [kind, if_neg plain, if_neg noInterface, reads, afterPlain]
    split_ifs <;> rfl

end Descriptor

/-! ## One block -/

section Block

open ScanPoint

variable {inside : Word → Prop} {u : UsbDevice} {ptr : Word} {aset : Byte}
  {rc : Bool} {block : UsbBlock}

theorem goes_block (laid : Laid u.mem ptr block.bytes)
    (covers : Covers inside ptr block.bytes)
    (wellFormed : WellFormedBlock block)
    (other : ¬ block.Configures u.setup.valueLow) :
    Goes inside ⟨u, ptr, aset, rc⟩
      ⟨u, ptr + BitVec.ofNat 32 block.bytes.length, aset, rc⟩ := by
  have first : Laid u.mem ptr block.first.bytes := (laid_append.mp laid).1
  have counted := block.counted
  rw [UsbBlock.bytes, List.length_append, List.length_flatMap]
  by_cases kind : block.first.kind = usbDescrTypeConfiguration
  · rw [if_pos kind] at counted
    rw [← counted.2]
    exact goes_other first covers.left kind
      (block.first.configurationValue_room (wellFormed.value kind))
      fun selects => other ⟨kind, selects⟩
  · rw [if_neg kind] at counted
    have goes := @goes_plain _ _ _ aset rc _ first covers.left kind
      wellFormed.outside.1 fun endpoint => absurd endpoint wellFormed.outside.2
    rw [afterPlain, if_neg fun used => wellFormed.outside.2 used.1] at goes
    rw [counted]
    exact goes

theorem lastInterface_concat (descriptors : List UsbDescriptor)
    (d : UsbDescriptor) :
    lastInterface (descriptors ++ [d]) =
      if d.kind = usbDescrTypeInterface then some d
      else lastInterface descriptors := by
  rw [lastInterface, List.filter_append]
  split
  case isTrue interface =>
      rw [List.filter_cons_of_pos (by simpa using interface)]
      simp
  case isFalse other =>
      rw [List.filter_cons_of_neg (by simpa using other), List.filter_nil,
        List.append_nil, lastInterface]

/-- The device when the endpoints among the first `i` inner descriptors are
configured. -/
def UsbBlock.afterEndpoints (block : UsbBlock) (u : UsbDevice) (ptr : Word)
    (i : Nat) : UsbDevice :=
  { u with
    log := u.log ++ ((List.range i).filter block.endpointInUse).map fun j =>
      .configEp (ptr + BitVec.ofNat 32 (block.innerOffset j)) }

theorem UsbBlock.afterEndpoints_succ (i : Nat) :
    block.afterEndpoints u ptr (i + 1) =
      if block.endpointInUse i then
        (block.afterEndpoints u ptr i).note
          (.configEp (ptr + BitVec.ofNat 32 (block.innerOffset i)))
      else block.afterEndpoints u ptr i := by
  rw [afterEndpoints, List.range_succ, List.filter_append]
  split
  case isTrue used =>
      rw [List.filter_cons_of_pos used, List.map_append, ← List.append_assoc]
      rfl
  case isFalse unused =>
      rw [List.filter_cons_of_neg unused, List.filter_nil, List.append_nil]
      rfl

/-- The alternate setting that the loop has seen before inner descriptor `i`. -/
def UsbBlock.settingAt (block : UsbBlock) (i : Nat) : Byte :=
  ((lastInterface (block.inner.take i)).map (·.alternateSetting)).getD 0

theorem goes_inner_step {i : Nat} {d : UsbDescriptor}
    (here : block.inner[i]? = some d)
    (laid : Laid u.mem (ptr + BitVec.ofNat 32 (block.innerOffset i)) d.bytes)
    (covers : Covers inside (ptr + BitVec.ofNat 32 (block.innerOffset i))
      d.bytes)
    (interface : d.kind = usbDescrTypeInterface → 4 ≤ d.bytes.length)
    (endpoint : d.kind = usbDescrTypeEndpoint → 6 ≤ d.bytes.length)
    (owned : d.kind = usbDescrTypeEndpoint →
      (lastInterface (block.inner.take i)).isSome) :
    Goes inside
      ⟨block.afterEndpoints u ptr i,
        ptr + BitVec.ofNat 32 (block.innerOffset i), block.settingAt i, rc⟩
      ⟨block.afterEndpoints u ptr (i + 1),
        ptr + BitVec.ofNat 32 (block.innerOffset (i + 1)),
        block.settingAt (i + 1), rc⟩ := by
  have below : i < block.inner.length := (List.getElem?_eq_some_iff.mp here).1
  have more : block.inner.take (i + 1) = block.inner.take i ++ [d] := by
    rw [List.take_add_one, here]
    rfl
  have offset : block.innerOffset (i + 1) =
      block.innerOffset i + d.bytes.length := by
    rw [UsbBlock.innerOffset, UsbBlock.innerOffset, more,
      List.flatMap_append, List.length_append, List.flatMap_singleton,
      Nat.add_assoc]
  have setting : block.settingAt (i + 1) =
      if d.kind = usbDescrTypeInterface then d.alternateSetting
      else block.settingAt i := by
    rw [UsbBlock.settingAt, more, lastInterface_concat]
    split <;> rfl
  have used : block.endpointInUse i =
      decide (d.kind = usbDescrTypeEndpoint ∧ block.settingAt i = 0) := by
    rw [UsbBlock.endpointInUse, here, Option.map_some, UsbBlock.settingAt,
      decide_eq_decide, Option.some_inj]
    refine and_congr_right fun endpoint => ?_
    obtain ⟨d', last⟩ := Option.isSome_iff_exists.mp (owned endpoint)
    rw [last, Option.map_some, Option.some_inj, Option.getD_some]
  rw [offset, ← address_add, setting, UsbBlock.afterEndpoints_succ, used]
  by_cases kind : d.kind = usbDescrTypeInterface
  · have noEndpoint : ¬ (d.kind = usbDescrTypeEndpoint ∧
        block.settingAt i = 0) :=
      fun endpoint => absurd (kind.symm.trans endpoint.1) (by decide)
    rw [if_pos kind, decide_eq_false noEndpoint]
    exact goes_interface laid covers kind (interface kind)
  · have goes := @goes_plain _ (block.afterEndpoints u ptr i) _
      (block.settingAt i) rc _ laid covers
      (block.plain d (List.mem_of_getElem? here)) kind endpoint
    rw [if_neg kind]
    simp only [decide_eq_true_eq]
    exact goes

theorem goes_inner (laid : Laid u.mem ptr block.bytes)
    (covers : Covers inside ptr block.bytes)
    (wellFormed : WellFormedBlock block)
    {i : Nat} (most : i ≤ block.inner.length) :
    Goes inside ⟨u, ptr + BitVec.ofNat 32 block.first.bytes.length, 0, rc⟩
      ⟨block.afterEndpoints u ptr i,
        ptr + BitVec.ofNat 32 (block.innerOffset i), block.settingAt i, rc⟩ := by
  induction i with
  | zero =>
      have none : block.afterEndpoints u ptr 0 = u := by
        rw [UsbBlock.afterEndpoints]
        simp
      rw [none]
      exact Goes.refl _
  | succ i ih =>
      have here := List.getElem?_eq_getElem (show i < block.inner.length by
        omega)
      have split : block.inner.flatMap (·.bytes) =
          (block.inner.take i).flatMap (·.bytes) ++
            (block.inner[i].bytes ++
              (block.inner.drop (i + 1)).flatMap (·.bytes)) := by
        rw [← List.flatMap_cons, ← List.drop_eq_getElem_cons,
          ← List.flatMap_append, List.take_append_drop]
      rw [UsbBlock.bytes, split, ← List.append_assoc, laid_append,
        laid_append] at laid
      rw [UsbBlock.bytes, split, ← List.append_assoc] at covers
      have place : (block.first.bytes ++
          (block.inner.take i).flatMap (·.bytes)).length =
            block.innerOffset i := List.length_append
      rw [place] at laid
      have covered := covers.right.left
      rw [place] at covered
      exact (ih (by omega)).trans (goes_inner_step here
        (laid_append.mp laid.2).1 covered
        (wellFormed.interface _ (List.getElem_mem _))
        (wellFormed.endpoint _ (List.getElem_mem _))
        (wellFormed.owned i _ here))

theorem UsbBlock.innerOffset_length (block : UsbBlock) :
    block.innerOffset block.inner.length = block.bytes.length := by
  rw [innerOffset, List.take_length, bytes, List.length_append]

theorem goes_configuration (laid : Laid u.mem ptr block.bytes)
    (covers : Covers inside ptr block.bytes)
    (wellFormed : WellFormedBlock block)
    (selects : block.Configures u.setup.valueLow) :
    Goes inside ⟨u, ptr, 0, rc⟩
      ⟨block.afterEndpoints u.configured ptr block.inner.length,
        ptr + BitVec.ofNat 32 block.bytes.length,
        block.settingAt block.inner.length, true⟩ := by
  have first : Laid u.mem ptr block.first.bytes := (laid_append.mp laid).1
  have goes := @goes_selected _ _ _ 0 rc _ first covers.left selects.1
    (block.first.configurationValue_room (wellFormed.value selects.1)) selects.2
  have inner := @goes_inner _ u.configured _ true _ laid covers wellFormed _
    (Nat.le_refl _)
  rw [← block.innerOffset_length]
  exact goes.trans inner

end Block

/-! ## The table -/

section Table

open ScanPoint

variable {blocks : List UsbBlock} {base : Word} {u : UsbDevice}

theorem covers_table (base : Word) (blocks : List UsbBlock) :
    Covers (InTable base blocks) base (tableBytes blocks) :=
  fun i below => ⟨i, below, rfl⟩

theorem goes_blocks {inside : Word → Prop} {ptr : Word} {aset : Byte}
    {rc : Bool} (wellFormed : ∀ block ∈ blocks, WellFormedBlock block)
    (laid : Laid u.mem ptr (blocks.flatMap (·.bytes)))
    (covers : Covers inside ptr (blocks.flatMap (·.bytes)))
    (others : ∀ block ∈ blocks, ¬ block.Configures u.setup.valueLow) :
    Goes inside ⟨u, ptr, aset, rc⟩
      ⟨u, ptr + BitVec.ofNat 32 (blocks.flatMap (·.bytes)).length, aset,
        rc⟩ := by
  induction blocks generalizing ptr with
  | nil =>
      rw [List.flatMap_nil, List.length_nil, BitVec.add_zero]
      exact Goes.refl _
  | cons block blocks ih =>
      rw [List.flatMap_cons, laid_append] at laid
      rw [List.flatMap_cons] at covers
      rw [List.flatMap_cons, List.length_append, ← address_add]
      have first := @goes_block _ _ _ aset rc _ laid.1 covers.left
        (wellFormed block (.head _)) (others block (.head _))
      exact first.trans (ih (fun block' member => wellFormed _ (.tail _ member))
        laid.2 covers.right fun block' member => others _ (.tail _ member))

/-- The scan of a table in which no configuration is selected. -/
theorem scan_unknown (wellFormed : WellFormedTable blocks)
    (laid : Laid u.mem base (tableBytes blocks))
    (others : ∀ block ∈ blocks, ¬ block.Configures u.setup.valueLow) :
    ∃ fuel, scanConfigurations fuel u base 0 false = some (u, false) ∧
      ∀ address ∈ scanReads fuel u.mem u.setup.valueLow 0 base,
        InTable base blocks address := by
  have covers := covers_table base blocks
  rw [tableBytes] at covers
  have parts := laid_append.mp laid
  have last := covers.right.at_start
  exact (@goes_blocks _ _ _ _ 0 false wellFormed.wellFormed parts.1
    covers.left others).ends parts.2.1 last

/-- The scan of a table in which a configuration is selected. -/
theorem scan_selected {before after : List UsbBlock} {block : UsbBlock}
    (wellFormed : WellFormedTable (before ++ block :: after))
    (laid : Laid u.mem base (tableBytes (before ++ block :: after)))
    (selects : block.Configures u.setup.valueLow) :
    ∃ fuel, scanConfigurations fuel u base 0 false =
        some (block.afterEndpoints u.configured
          (base + BitVec.ofNat 32 (before.flatMap (·.bytes)).length)
          block.inner.length, true) ∧
      ∀ address ∈ scanReads fuel u.mem u.setup.valueLow 0 base,
        InTable base (before ++ block :: after) address := by
  have covers := covers_table base (before ++ block :: after)
  rw [tableBytes, List.flatMap_append, List.flatMap_cons, List.append_assoc,
    List.append_assoc] at covers laid
  rw [laid_append, laid_append, laid_append] at laid
  obtain ⟨laidBefore, laidBlock, laidAfter, closed, -⟩ := laid
  have formed := wellFormed.wellFormed
  simp only [List.forall_mem_append, List.forall_mem_cons] at formed
  have distinct := wellFormed.distinct
  rw [List.pairwise_append, List.pairwise_cons] at distinct
  have others : ∀ block' ∈ before, ¬ block'.Configures u.setup.valueLow :=
    fun block' member selects' =>
      distinct.2.2 block' member block (.head _) _ selects' selects
  have later : ∀ block' ∈ after, ¬ block'.Configures u.setup.valueLow :=
    fun block' member => distinct.2.1.1 block' member _ selects
  have toBlock := @goes_blocks _ _ _ _ 0 false formed.1 laidBefore covers.left
    others
  have throughBlock := @goes_configuration _ _ _ false _ laidBlock
    covers.right.left formed.2.1 selects
  have toEnd := @goes_blocks _ (block.afterEndpoints u.configured
    (base + BitVec.ofNat 32 (before.flatMap (·.bytes)).length)
    block.inner.length) _ _ (block.settingAt block.inner.length) true
    formed.2.2 laidAfter covers.right.right.left later
  exact ((toBlock.trans throughBlock).trans toEnd).ends closed
    covers.right.right.right.at_start

end Table

/-! ## The request -/

/-- What a request for this value does to the device, and its answer. -/
structure SetsConfiguration (base : Word) (blocks : List UsbBlock)
    (value : Byte) (u u' : UsbDevice) (rc : Bool) : Prop where
  /-- The endpoints of the configuration are configured, each once, in the order
  of the table. -/
  selected : ∀ before block after, blocks = before ++ block :: after →
    block.Configures value → rc = true ∧
      u' = { u with
        configuration := value
        log := u.log ++ .configureDevice true ::
          block.endpointOffsets.map fun offset => .configEp (base +
            BitVec.ofNat 32 ((before.flatMap (·.bytes)).length + offset)) }
  unconfigured : value = 0 → rc = true ∧
    u' = { u with configuration := 0, log := u.log ++ [.configureDevice false] }
  unknown : value ≠ 0 → (∀ block ∈ blocks, ¬ block.Configures value) →
    rc = false ∧ u' = u

/-- The states reached through requests and bus resets. -/
inductive ConfigurationRun (pbuf descriptors : Word) (mem : Word → Byte) :
    UsbDevice → Prop where
  | start : ConfigurationRun pbuf descriptors mem
      (.atStart pbuf descriptors mem)
  | request {u u' : UsbDevice} {rc : Bool} (fuel : Nat) (usp : UsbSetupPacket)
      (run : ConfigurationRun pbuf descriptors mem u)
      (answered : usbSetConfiguration fuel { u with setup := usp } =
        some (u', rc)) : ConfigurationRun pbuf descriptors mem u'
  | reset {u : UsbDevice} (run : ConfigurationRun pbuf descriptors mem u) :
      ConfigurationRun pbuf descriptors mem (tnUsbResetData u)

/-- The configuration is one of the table, or there is none. -/
structure ConfigurationKnown (descriptors : Word) (mem : Word → Byte)
    (blocks : List UsbBlock) (u : UsbDevice) : Prop where
  mem : u.mem = mem
  descriptors : u.descriptors = descriptors
  known : u.configuration = 0 ∨ ∃ block ∈ blocks,
    block.Configures u.configuration

theorem scanConfigurations_mono {fuel : Nat} (more : Nat) {u : UsbDevice}
    {ptr : Word} {aset : Byte} {rc : Bool} {result : UsbDevice × Bool}
    (done : scanConfigurations fuel u ptr aset rc = some result) :
    scanConfigurations (fuel + more) u ptr aset rc = some result := by
  induction fuel generalizing u ptr aset rc with
  | zero => cases done
  | succ fuel ih =>
      rw [Nat.succ_add]
      rw [scanConfigurations] at done ⊢
      split at done
      case isTrue closed => rwa [if_pos closed]
      case isFalse goesOn =>
          rw [if_neg goesOn]
          dsimp only at done ⊢
          split_ifs at done ⊢ <;> exact ih done

theorem usbSetConfiguration_deterministic {fuel fuel' : Nat} {u : UsbDevice}
    {result result' : UsbDevice × Bool}
    (done : usbSetConfiguration fuel u = some result)
    (done' : usbSetConfiguration fuel' u = some result') :
    result = result' := by
  rw [usbSetConfiguration] at done done'
  split at done
  case isTrue selects =>
      rw [if_pos selects] at done'
      obtain ⟨scanned, found, done⟩ := Option.bind_eq_some_iff.mp done
      obtain ⟨scanned', found', done'⟩ := Option.bind_eq_some_iff.mp done'
      have longer := scanConfigurations_mono fuel' found
      have longer' := scanConfigurations_mono fuel found'
      rw [Nat.add_comm, longer, Option.some_inj] at longer'
      rw [longer'] at done
      exact Option.some_inj.mp (done.symm.trans done')
  case isFalse address =>
      rw [if_neg address] at done'
      exact Option.some_inj.mp (done.symm.trans done')

/-- What the routine reads of the table. -/
def configurationReads (fuel : Nat) (u : UsbDevice) : List Word :=
  if u.setup.valueLow ≠ 0 then
    scanReads fuel u.mem u.setup.valueLow 0 u.descriptors
  else []

section Request

variable {blocks : List UsbBlock} {u : UsbDevice}

theorem UsbBlock.afterEndpoints_configured (block : UsbBlock) (u : UsbDevice)
    (base : Word) (offset : Nat) :
    block.afterEndpoints u.configured (base + BitVec.ofNat 32 offset)
        block.inner.length =
      { u with
        configuration := u.setup.valueLow
        log := u.log ++ .configureDevice true ::
          block.endpointOffsets.map fun inner =>
            .configEp (base + BitVec.ofNat 32 (offset + inner)) } := by
  rw [afterEndpoints, endpointOffsets, UsbDevice.configured, List.map_map]
  simp only [UsbDevice.note, address_add, List.append_assoc,
    List.singleton_append, Function.comp_def]

theorem usbSetConfiguration_zero (fuel : Nat) (zero : u.setup.valueLow = 0) :
    usbSetConfiguration fuel u =
      some ({ u with configuration := 0 }.note (.configureDevice false),
        true) := by
  rw [usbSetConfiguration, if_neg (not_not_intro zero)]
  simp [UsbDevice.note, zero]

theorem usbSetConfiguration_selected {before after : List UsbBlock}
    {block : UsbBlock} (split : blocks = before ++ block :: after)
    (wellFormed : WellFormedTable blocks)
    (laid : Laid u.mem u.descriptors (tableBytes blocks))
    (nonzero : u.setup.valueLow ≠ 0)
    (selects : block.Configures u.setup.valueLow) :
    ∃ fuel, usbSetConfiguration fuel u = some ({ u with
        configuration := u.setup.valueLow
        log := u.log ++ .configureDevice true ::
          block.endpointOffsets.map fun offset => .configEp (u.descriptors +
            BitVec.ofNat 32 ((before.flatMap (·.bytes)).length + offset)) },
        true) ∧
      ∀ address ∈ configurationReads fuel u,
        InTable u.descriptors blocks address := by
  subst split
  obtain ⟨fuel, scanned, reads⟩ := scan_selected wellFormed laid selects
  rw [UsbBlock.afterEndpoints_configured] at scanned
  refine ⟨fuel, ?_, ?_⟩
  · rw [usbSetConfiguration, if_pos nonzero, scanned]
    rfl
  · rwa [configurationReads, if_pos nonzero]

/-- A request for a value that is not in the table. -/
theorem usbSetConfiguration_unknown (wellFormed : WellFormedTable blocks)
    (laid : Laid u.mem u.descriptors (tableBytes blocks))
    (nonzero : u.setup.valueLow ≠ 0)
    (others : ∀ block ∈ blocks, ¬ block.Configures u.setup.valueLow)
    (known : u.configuration = 0 ∨ ∃ block ∈ blocks,
      block.Configures u.configuration) :
    ∃ fuel, usbSetConfiguration fuel u = some (u, false) ∧
      ∀ address ∈ configurationReads fuel u,
        InTable u.descriptors blocks address := by
  obtain ⟨fuel, scanned, reads⟩ := scan_unknown wellFormed laid others
  have differs : u.configuration ≠ u.setup.valueLow := by
    intro same
    rcases known with zero | ⟨block, member, configures⟩
    · exact nonzero (same.symm.trans zero)
    · exact others block member (same ▸ configures)
  refine ⟨fuel, ?_, ?_⟩
  · rw [usbSetConfiguration, if_pos nonzero, scanned]
    simp [differs]
  · rwa [configurationReads, if_pos nonzero]

theorem usbSetConfiguration_answers (wellFormed : WellFormedTable blocks)
    (laid : Laid u.mem u.descriptors (tableBytes blocks))
    (known : u.configuration = 0 ∨ ∃ block ∈ blocks,
      block.Configures u.configuration) :
    ∃ fuel u' rc, usbSetConfiguration fuel u = some (u', rc) ∧
      SetsConfiguration u.descriptors blocks u.setup.valueLow u u' rc ∧
      ∀ address ∈ configurationReads fuel u,
        InTable u.descriptors blocks address := by
  by_cases zero : u.setup.valueLow = 0
  · refine ⟨0, _, true, usbSetConfiguration_zero 0 zero, ?_, ?_⟩
    · constructor
      case selected =>
          rintro before block after rfl ⟨kind, value⟩
          have member : block ∈ before ++ block :: after := by simp
          exact absurd (value.trans zero)
            ((wellFormed.nested block member).value kind)
      case unconfigured => exact fun _ => ⟨rfl, rfl⟩
      case unknown => exact fun nonzero => absurd zero nonzero
    · rw [configurationReads, if_neg (not_not_intro zero)]
      simp
  · by_cases found : ∃ block ∈ blocks, block.Configures u.setup.valueLow
    · obtain ⟨block, member, selects⟩ := found
      obtain ⟨before, after, split⟩ := List.append_of_mem member
      obtain ⟨fuel, answered, reads⟩ := usbSetConfiguration_selected split
        wellFormed laid zero selects
      refine ⟨fuel, _, true, answered, ?_, reads⟩
      constructor
      case selected =>
          intro before' block' after' split' selects'
          obtain ⟨fuel', answered', -⟩ := usbSetConfiguration_selected split'
            wellFormed laid zero selects'
          have same := usbSetConfiguration_deterministic answered answered'
          exact ⟨rfl, (Prod.ext_iff.mp same).1⟩
      case unconfigured => exact fun unset => absurd unset zero
      case unknown => exact fun _ others => absurd selects (others block member)
    · have others : ∀ block ∈ blocks, ¬ block.Configures u.setup.valueLow :=
        fun block member selects => found ⟨block, member, selects⟩
      obtain ⟨fuel, answered, reads⟩ := usbSetConfiguration_unknown wellFormed
        laid zero others known
      refine ⟨fuel, u, false, answered, ?_, reads⟩
      constructor
      case selected =>
          rintro before block after rfl selects
          exact absurd selects (others block (by simp))
      case unconfigured => exact fun unset => absurd unset zero
      case unknown => exact fun _ _ => ⟨rfl, rfl⟩

end Request

/-! ## Runs -/

section Run

variable {blocks : List UsbBlock} {pbuf descriptors : Word} {mem : Word → Byte}
  {u : UsbDevice}

theorem SetsConfiguration.known {u' : UsbDevice} {base : Word} {value : Byte}
    {rc : Bool} (sets : SetsConfiguration base blocks value u u' rc)
    (known : ConfigurationKnown descriptors mem blocks u) :
    ConfigurationKnown descriptors mem blocks u' := by
  by_cases zero : value = 0
  · obtain ⟨-, rfl⟩ := sets.unconfigured zero
    exact ⟨known.mem, known.descriptors, .inl rfl⟩
  · by_cases found : ∃ block ∈ blocks, block.Configures value
    · obtain ⟨block, member, selects⟩ := found
      obtain ⟨before, after, split⟩ := List.append_of_mem member
      obtain ⟨-, rfl⟩ := sets.selected before block after split selects
      exact ⟨known.mem, known.descriptors, .inr ⟨block, member, selects⟩⟩
    · obtain ⟨-, rfl⟩ := sets.unknown zero fun block member selects =>
        found ⟨block, member, selects⟩
      exact known

theorem ConfigurationRun.known (wellFormed : WellFormedTable blocks)
    (laid : Laid mem descriptors (tableBytes blocks))
    (run : ConfigurationRun pbuf descriptors mem u) :
    ConfigurationKnown descriptors mem blocks u := by
  induction run with
  | start => exact ⟨rfl, rfl, .inl rfl⟩
  | @request u u' rc fuel usp run answered known =>
      obtain ⟨rfl, rfl, value⟩ := known
      obtain ⟨fuel', u'', rc', answered', sets, -⟩ :=
        @usbSetConfiguration_answers _ { u with setup := usp } wellFormed laid
          value
      obtain ⟨rfl, -⟩ := Prod.ext_iff.mp
        (usbSetConfiguration_deterministic answered' answered)
      exact sets.known ⟨rfl, rfl, value⟩
  | reset run known => exact ⟨known.mem, known.descriptors, .inl rfl⟩

end Run

/-! ## The table of the firmware -/

example : (abDescriptors.map (·.endpointOffsets)) =
    [[], [18, 25, 32, 39], [], [], [], []] := by decide +kernel

end UsbBulk
