import Mathlib.Algebra.GroupWithZero.Nat
import UsbBulk.ByteMemory
import UsbBulk.Usb.Requests

/-!
# The descriptor table

A well-formed table is a list of blocks.  A block is a configuration descriptor
with the descriptors that its `wTotalLength` counts, or one descriptor of another
kind.  Laid out in memory and closed by a zero byte, it is scanned to the end, and
the search for a descriptor finds the one that the request selects.
-/

namespace UsbBulk

/-! ## Bytes in memory -/

/-- The bytes are in memory from an address on. -/
def Laid (mem : Word → Byte) : Word → List Byte → Prop
  | _, [] => True
  | address, byte :: bytes => mem address = byte ∧ Laid mem (address + 1) bytes

instance Laid.decide (mem : Word → Byte) :
    (address : Word) → (bytes : List Byte) → Decidable (Laid mem address bytes)
  | _, [] => inferInstanceAs (Decidable True)
  | address, byte :: bytes =>
      haveI := Laid.decide mem (address + 1) bytes
      inferInstanceAs (Decidable (mem address = byte ∧ _))

theorem laid_append {mem : Word → Byte} {address : Word}
    {bytes bytes' : List Byte} :
    Laid mem address (bytes ++ bytes') ↔
      Laid mem address bytes ∧
        Laid mem (address + BitVec.ofNat 32 bytes.length) bytes' := by
  induction bytes generalizing address with
  | nil => simp [Laid]
  | cons byte bytes ih =>
      simp only [List.cons_append, Laid, ih, List.length_cons, address_succ,
        and_assoc]

theorem Laid.get {mem : Word → Byte} {address : Word} {bytes : List Byte}
    (laid : Laid mem address bytes) {i : Nat} (below : i < bytes.length) :
    mem (address + BitVec.ofNat 32 i) = bytes[i] := by
  induction bytes generalizing address i with
  | nil => exact absurd below (Nat.not_lt_zero i)
  | cons byte bytes ih =>
      cases i with
      | zero => simpa using laid.1
      | succ i =>
          rw [← address_succ]
          exact ih laid.2 (by simpa using below)

theorem Laid.read {mem : Word → Byte} {address : Word}
    {bytes : List Byte} (laid : Laid mem address bytes) :
    readBytes mem address bytes.length = bytes := by
  apply List.ext_getElem
  · simp [readBytes]
  · intro i _ below
    simp [readBytes, laid.get below]

theorem Laid.congr {mem mem' : Word → Byte} {address : Word}
    {bytes : List Byte}
    (same : ∀ i < bytes.length, mem' (address + BitVec.ofNat 32 i) =
      mem (address + BitVec.ofNat 32 i))
    (laid : Laid mem address bytes) : Laid mem' address bytes := by
  induction bytes generalizing address with
  | nil => trivial
  | cons byte bytes ih =>
      refine ⟨?_, ih (fun i below => ?_) laid.2⟩
      · have first := same 0 (by simp)
        simp only [BitVec.add_zero] at first
        exact first.trans laid.1
      · rw [address_succ]
        exact same (i + 1) (by simpa using below)

/-- A memory with these bytes from an address on, and zeros elsewhere. -/
def imageAt (base : Word) (bytes : List Byte) (address : Word) : Byte :=
  bytes[(address - base).toNat]?.getD 0

theorem laid_imageAt (base : Word) (bytes : List Byte)
    (fits : bytes.length ≤ 2 ^ 32) : Laid (imageAt base bytes) base bytes := by
  suffices ∀ skipped rest, skipped ++ rest = bytes →
      Laid (imageAt base bytes) (base + BitVec.ofNat 32 skipped.length) rest by
    simpa using this [] bytes rfl
  intro skipped rest split
  induction rest generalizing skipped with
  | nil => trivial
  | cons byte rest ih =>
      have length := congrArg List.length split
      simp only [List.length_append, List.length_cons] at length
      constructor
      · have offset : (base + BitVec.ofNat 32 skipped.length - base).toNat =
            skipped.length := by
          rw [BitVec.add_comm, BitVec.add_sub_cancel, BitVec.toNat_ofNat]
          omega
        rw [imageAt, offset, ← split]
        simp
      · have next := ih (skipped ++ [byte]) (by simpa using split)
        rw [List.length_append, ← address_add] at next
        exact next

/-! ## Descriptors and blocks -/

/-- A descriptor: `bLength`, `bDescriptorType`, and the rest. -/
structure UsbDescriptor where
  bytes : List Byte
  long : 2 ≤ bytes.length
  sized : (bytes[0]).toNat = bytes.length

namespace UsbDescriptor

def kind (d : UsbDescriptor) : Byte := d.bytes.get ⟨1, d.long⟩

/-- `wTotalLength`. -/
def totalLength (d : UsbDescriptor) : Nat :=
  (d.bytes[2]?.getD 0).toNat + 256 * (d.bytes[3]?.getD 0).toNat

end UsbDescriptor

/-- A configuration descriptor with the descriptors it counts, or a descriptor
of another kind alone. -/
structure UsbBlock where
  first : UsbDescriptor
  inner : List UsbDescriptor
  plain : ∀ d ∈ inner, d.kind ≠ usbDescrTypeConfiguration
  counted : if first.kind = usbDescrTypeConfiguration then
      4 ≤ first.bytes.length ∧ first.totalLength =
        first.bytes.length + (inner.map (·.bytes.length)).sum
    else inner = []

namespace UsbBlock

theorem plain_nil : ∀ d ∈ ([] : List UsbDescriptor),
    d.kind ≠ usbDescrTypeConfiguration :=
  List.forall_mem_nil _

def bytes (block : UsbBlock) : List Byte :=
  block.first.bytes ++ block.inner.flatMap (·.bytes)

/-- The descriptors, each with what a request for it is answered with. -/
def entries (block : UsbBlock) : List (UsbDescriptor × List Byte) :=
  (block.first, block.bytes) :: block.inner.map fun d => (d, d.bytes)

end UsbBlock

def tableBytes (blocks : List UsbBlock) : List Byte :=
  blocks.flatMap (·.bytes) ++ [0]

def tableEntries (blocks : List UsbBlock) : List (UsbDescriptor × List Byte) :=
  blocks.flatMap (·.entries)

/-- The entries with their offsets in the table. -/
def withOffsets : Nat → List (UsbDescriptor × List Byte) →
    List (Nat × UsbDescriptor × List Byte)
  | _, [] => []
  | offset, entry :: entries =>
      (offset, entry) :: withOffsets (offset + entry.1.bytes.length) entries

/-- Where the descriptor of this kind and index is, counted from `offset`, and
what a request for it is answered with. -/
def selectEntry (offset : Nat) (entries : List (UsbDescriptor × List Byte))
    (reqType : Byte) (index : Nat) : Option (Nat × List Byte) :=
  ((withOffsets offset entries).filter fun entry =>
    entry.2.1.kind = reqType)[index]?.map fun entry => (entry.1, entry.2.2)

/-! ## Descriptors in memory -/

section Memory

variable {mem : Word → Byte} {ptr : Word} {d : UsbDescriptor}

theorem UsbDescriptor.toNat_eq (laid : Laid mem ptr d.bytes) :
    (mem ptr).toNat = d.bytes.length := by
  have first := laid.get (Nat.lt_of_lt_of_le Nat.zero_lt_two d.long)
  rw [show ptr + BitVec.ofNat 32 0 = ptr from BitVec.add_zero ptr] at first
  rw [first]
  exact d.sized

theorem UsbDescriptor.nonzero (laid : Laid mem ptr d.bytes) : mem ptr ≠ 0 := by
  intro zero
  have length := d.toNat_eq laid
  have long := d.long
  rw [zero] at length
  change 0 = d.bytes.length at length
  omega

/-- `ptr += *ptr`. -/
theorem UsbDescriptor.next (laid : Laid mem ptr d.bytes) :
    ptr + (mem ptr).setWidth 32 = ptr + BitVec.ofNat 32 d.bytes.length := by
  rw [← d.toNat_eq laid, BitVec.ofNat_toNat]

theorem UsbDescriptor.kind_eq (laid : Laid mem ptr d.bytes) :
    mem (ptr + 1) = d.kind :=
  laid.get d.long

theorem UsbDescriptor.totalLength_eq (laid : Laid mem ptr d.bytes)
    (room : 4 ≤ d.bytes.length) :
    readWord16 mem (ptr + 2) = d.totalLength := by
  have low : mem (ptr + 2) = d.bytes[2] := laid.get (i := 2) (by omega)
  have high : mem (ptr + 2 + 1) = d.bytes[3] := by
    rw [BitVec.add_assoc]
    exact laid.get (i := 3) (by omega)
  rw [readWord16, low, high, totalLength,
    List.getElem?_eq_getElem (by omega), List.getElem?_eq_getElem (by omega)]
  rfl

/-- The length of the answer, as `usb_GET_DESCRIPTOR` reads it. -/
theorem UsbBlock.descriptorLength_eq (block : UsbBlock)
    (laid : Laid mem ptr block.first.bytes) :
    descriptorLength mem block.first.kind ptr = block.bytes.length := by
  have counted := block.counted
  rw [descriptorLength, UsbBlock.bytes, List.length_append,
    List.length_flatMap]
  split at counted
  case isTrue configuration =>
      rw [if_pos configuration, UsbDescriptor.totalLength_eq laid counted.1]
      exact counted.2
  case isFalse other =>
      rw [if_neg other, UsbDescriptor.toNat_eq laid, counted]
      rfl

/-! ## The search -/

/-- The entries are in memory from `ptr` on, closed by a zero byte. -/
def Listed (mem : Word → Byte) : Word → List (UsbDescriptor × List Byte) → Prop
  | ptr, [] => mem ptr = 0
  | ptr, entry :: entries =>
      Laid mem ptr entry.1.bytes ∧ Laid mem ptr entry.2 ∧
      descriptorLength mem entry.1.kind ptr = entry.2.length ∧
      Listed mem (ptr + BitVec.ofNat 32 entry.1.bytes.length) entries

theorem findDescriptor_spec (base : Word) (offset : Nat) (reqType : Byte)
    (reqIndex : Nat) {entries : List (UsbDescriptor × List Byte)}
    {fuel ind : Nat}
    (listed : Listed mem (base + BitVec.ofNat 32 offset) entries)
    (enough : entries.length < fuel) (notYet : ind ≤ reqIndex) :
    match selectEntry offset entries reqType (reqIndex - ind) with
    | none => findDescriptor mem reqType reqIndex fuel
        (base + BitVec.ofNat 32 offset) ind = some none
    | some (position, content) =>
        findDescriptor mem reqType reqIndex fuel
          (base + BitVec.ofNat 32 offset) ind =
            some (some (base + BitVec.ofNat 32 position)) ∧
        Laid mem (base + BitVec.ofNat 32 position) content ∧
        descriptorLength mem reqType (base + BitVec.ofNat 32 position) =
          content.length := by
  induction entries generalizing offset fuel ind with
  | nil =>
      obtain ⟨fuel, rfl⟩ := Nat.exists_eq_succ_of_ne_zero
        (Nat.ne_of_gt enough)
      have closed : mem (base + BitVec.ofNat 32 offset) = 0 := listed
      simp only [selectEntry, withOffsets, List.filter_nil,
        List.getElem?_nil, Option.map_none]
      rw [findDescriptor, if_pos closed]
  | cons entry entries ih =>
      obtain ⟨fuel, rfl⟩ := Nat.exists_eq_succ_of_ne_zero
        (Nat.ne_of_gt (Nat.lt_of_le_of_lt (Nat.zero_le _) enough))
      obtain ⟨laid, content, length, rest⟩ := listed
      have more : entries.length < fuel := by simpa using enough
      rw [address_add] at rest
      rw [findDescriptor, if_neg (UsbDescriptor.nonzero laid)]
      dsimp only
      rw [UsbDescriptor.next laid, UsbDescriptor.kind_eq laid, address_add]
      by_cases matched : entry.1.kind = reqType
      · rw [if_pos matched]
        by_cases here : ind = reqIndex
        · rw [if_pos here]
          subst here matched
          simp only [selectEntry, withOffsets, decide_true,
            List.filter_cons_of_pos, Nat.sub_self, List.getElem?_cons_zero,
            Option.map_some]
          exact ⟨trivial, content, length⟩
        · rw [if_neg here]
          have later := ih _ rest more (show ind + 1 ≤ reqIndex by omega)
          have index : reqIndex - ind = reqIndex - (ind + 1) + 1 := by omega
          simpa [selectEntry, withOffsets, matched, index] using later
      · rw [if_neg matched]
        have later := ih _ rest more notYet
        simpa [selectEntry, withOffsets, matched] using later

theorem listed_inner {inner : List UsbDescriptor}
    {entries : List (UsbDescriptor × List Byte)}
    (plain : ∀ d ∈ inner, d.kind ≠ usbDescrTypeConfiguration)
    (laid : Laid mem ptr (inner.flatMap (·.bytes)))
    (listed : Listed mem
      (ptr + BitVec.ofNat 32 (inner.flatMap (·.bytes)).length) entries) :
    Listed mem ptr (inner.map (fun d => (d, d.bytes)) ++ entries) := by
  induction inner generalizing ptr with
  | nil => simpa using listed
  | cons d inner ih =>
      rw [List.flatMap_cons, laid_append] at laid
      rw [List.flatMap_cons, List.length_append, ← address_add] at listed
      refine ⟨laid.1, laid.1, ?_, ih (fun d' member => ?_) laid.2 listed⟩
      · rw [descriptorLength, if_neg (plain d (.head inner))]
        exact UsbDescriptor.toNat_eq laid.1
      · exact plain d' (.tail d member)

theorem listed_block {block : UsbBlock}
    {entries : List (UsbDescriptor × List Byte)}
    (laid : Laid mem ptr block.bytes)
    (listed : Listed mem (ptr + BitVec.ofNat 32 block.bytes.length) entries) :
    Listed mem ptr (block.entries ++ entries) := by
  have parts := laid
  rw [UsbBlock.bytes, laid_append] at parts
  rw [UsbBlock.bytes, List.length_append, ← address_add] at listed
  exact ⟨parts.1, laid, UsbBlock.descriptorLength_eq block parts.1,
    listed_inner block.plain parts.2 listed⟩

theorem listed_of_laid {blocks : List UsbBlock}
    (laid : Laid mem ptr (tableBytes blocks)) :
    Listed mem ptr (tableEntries blocks) := by
  induction blocks generalizing ptr with
  | nil => exact laid.1
  | cons block blocks ih =>
      rw [tableBytes, List.flatMap_cons, List.append_assoc, laid_append] at laid
      rw [tableEntries, List.flatMap_cons]
      exact listed_block laid.1 (ih laid.2)

/-- The search in a table finds the entry that is selected. -/
theorem findDescriptor_table (reqType : Byte) (reqIndex : Nat)
    {blocks : List UsbBlock} {fuel : Nat}
    (laid : Laid mem ptr (tableBytes blocks))
    (enough : (tableEntries blocks).length < fuel) :
    match selectEntry 0 (tableEntries blocks) reqType reqIndex with
    | none => findDescriptor mem reqType reqIndex fuel ptr 0 = some none
    | some (position, content) =>
        findDescriptor mem reqType reqIndex fuel ptr 0 =
            some (some (ptr + BitVec.ofNat 32 position)) ∧
        Laid mem (ptr + BitVec.ofNat 32 position) content ∧
        descriptorLength mem reqType (ptr + BitVec.ofNat 32 position) =
          content.length := by
  have origin : ptr + BitVec.ofNat 32 0 = ptr := BitVec.add_zero ptr
  have search := findDescriptor_spec ptr 0 reqType reqIndex
    (origin.symm ▸ listed_of_laid laid) enough (Nat.zero_le reqIndex)
  rwa [origin] at search

/-! ## The scan of `usb_SET_CONFIGURATION` -/

/-- The scan from `ptr` on comes to an end, whatever it has seen before. -/
def ScanEnds (mem : Word → Byte) (ptr : Word) : Prop :=
  ∀ (u : UsbDevice) (aset : Byte) (rc : Bool), u.mem = mem →
    ∃ fuel result, scanConfigurations fuel u ptr aset rc = some result

theorem ScanEnds.descriptor (laid : Laid mem ptr d.bytes)
    (next : ScanEnds mem (ptr + BitVec.ofNat 32 d.bytes.length))
    (jump : d.kind = usbDescrTypeConfiguration →
      ScanEnds mem (ptr + BitVec.ofNat 32 (readWord16 mem (ptr + 2)))) :
    ScanEnds mem ptr := by
  intro u aset rc same
  subst same
  -- One step goes on somewhere with some state of the same memory.
  suffices ∃ u' ptr' aset' rc', u'.mem = u.mem ∧ ScanEnds u.mem ptr' ∧
      ∀ fuel, scanConfigurations (fuel + 1) u ptr aset rc =
        scanConfigurations fuel u' ptr' aset' rc' by
    obtain ⟨u', ptr', aset', rc', same, ends, step⟩ := this
    obtain ⟨fuel, result, done⟩ := ends u' aset' rc' same
    exact ⟨fuel + 1, result, (step fuel).trans done⟩
  have nonzero := d.nonzero laid
  have kind := d.kind_eq laid
  rw [← d.next laid] at next
  by_cases configuration : d.kind = usbDescrTypeConfiguration
  · by_cases selects : u.mem (ptr + 5) = u.setup.valueLow
    · refine ⟨{ u with configuration := u.setup.valueLow }.note
        (.configureDevice true), _, aset, true, rfl, next, fun fuel => ?_⟩
      rw [scanConfigurations, if_neg nonzero]
      dsimp only
      rw [kind, if_pos configuration, if_pos selects]
    · refine ⟨u, _, aset, rc, rfl, jump configuration, fun fuel => ?_⟩
      rw [scanConfigurations, if_neg nonzero]
      dsimp only
      rw [kind, if_pos configuration, if_neg selects]
  · by_cases interface : d.kind = usbDescrTypeInterface
    · refine ⟨u, _, u.mem (ptr + 3), rc, rfl, next, fun fuel => ?_⟩
      rw [scanConfigurations, if_neg nonzero]
      dsimp only
      rw [kind, if_neg configuration, if_pos interface]
    · by_cases endpoint : d.kind = usbDescrTypeEndpoint
      · refine ⟨if aset = 0 then u.note (.configEp ptr) else u, _, aset, rc, ?_,
          next, fun fuel => ?_⟩
        · split <;> rfl
        · rw [scanConfigurations, if_neg nonzero]
          dsimp only
          rw [kind, if_neg configuration, if_neg interface, if_pos endpoint]
      · refine ⟨u, _, aset, rc, rfl, next, fun fuel => ?_⟩
        rw [scanConfigurations, if_neg nonzero]
        dsimp only
        rw [kind, if_neg configuration, if_neg interface, if_neg endpoint]

theorem scanEnds_inner {inner : List UsbDescriptor}
    (plain : ∀ d ∈ inner, d.kind ≠ usbDescrTypeConfiguration)
    (laid : Laid mem ptr (inner.flatMap (·.bytes)))
    (ends : ScanEnds mem
      (ptr + BitVec.ofNat 32 (inner.flatMap (·.bytes)).length)) :
    ScanEnds mem ptr := by
  induction inner generalizing ptr with
  | nil => simpa using ends
  | cons d inner ih =>
      rw [List.flatMap_cons, laid_append] at laid
      rw [List.flatMap_cons, List.length_append, ← address_add] at ends
      apply ScanEnds.descriptor laid.1
      · exact ih (fun d' member => plain d' (.tail d member)) laid.2 ends
      · exact fun configuration =>
          absurd configuration (plain d (.head inner))

theorem scanEnds_block {block : UsbBlock} (laid : Laid mem ptr block.bytes)
    (ends : ScanEnds mem (ptr + BitVec.ofNat 32 block.bytes.length)) :
    ScanEnds mem ptr := by
  have parts := laid
  have length := UsbBlock.descriptorLength_eq block
    (laid_append.mp parts).1
  rw [UsbBlock.bytes, laid_append] at parts
  apply ScanEnds.descriptor parts.1
  · apply scanEnds_inner block.plain parts.2
    rwa [address_add, ← List.length_append]
  · intro configuration
    rw [descriptorLength, if_pos configuration] at length
    rwa [length]

/-- The scan of a table in memory comes to an end. -/
theorem scanEnds_of_laid {blocks : List UsbBlock}
    (laid : Laid mem ptr (tableBytes blocks)) : ScanEnds mem ptr := by
  induction blocks generalizing ptr with
  | nil =>
      intro u aset rc same
      subst same
      refine ⟨1, (u, rc), ?_⟩
      rw [scanConfigurations, if_pos laid.1]
  | cons block blocks ih =>
      rw [tableBytes, List.flatMap_cons, List.append_assoc, laid_append] at laid
      exact scanEnds_block laid.1 (ih laid.2)

theorem usbSetConfiguration_ends {u : UsbDevice} {blocks : List UsbBlock}
    (laid : Laid u.mem u.descriptors (tableBytes blocks)) :
    ∃ fuel answer, usbSetConfiguration fuel u = some answer := by
  by_cases selects : u.setup.valueLow ≠ 0
  · obtain ⟨fuel, ⟨u', rc⟩, done⟩ := scanEnds_of_laid laid u 0 false rfl
    refine ⟨fuel, (u', rc || u'.configuration = u'.setup.valueLow), ?_⟩
    rw [usbSetConfiguration, if_pos selects, done]
    rfl
  · refine ⟨0, ?_⟩
    rw [usbSetConfiguration, if_neg selects]
    exact ⟨_, rfl⟩

theorem usbGetDescriptor_ends {u : UsbDevice} {blocks : List UsbBlock}
    (laid : Laid u.mem u.descriptors (tableBytes blocks)) :
    ∃ fuel answer, usbGetDescriptor fuel u = some answer := by
  refine ⟨(tableEntries blocks).length + 1, ?_⟩
  have search := findDescriptor_table u.setup.valueHigh
    u.setup.valueLow.toNat laid (Nat.lt_succ_self _)
  rw [usbGetDescriptor]
  dsimp only
  split
  · split at search
    · rw [search]
      exact ⟨_, rfl⟩
    · rw [search.1]
      exact ⟨_, rfl⟩
  · exact ⟨_, rfl⟩

theorem dispatchRequest_ends {u : UsbDevice} {blocks : List UsbBlock}
    (laid : Laid u.mem u.descriptors (tableBytes blocks)) :
    ∃ fuel answer, dispatchRequest fuel u = some answer := by
  by_cases set : u.setup.command = usbCmdStdDevOut ∧
      u.setup.bRequest = setConfiguration
  · obtain ⟨fuel, answer, done⟩ := usbSetConfiguration_ends laid
    refine ⟨fuel, answer, ?_⟩
    rw [dispatchRequest, if_pos set.1, set.2]
    exact done
  · by_cases get : u.setup.command = usbCmdStdDevIn ∧
        u.setup.bRequest = getDescriptor
    · obtain ⟨fuel, answer, done⟩ := usbGetDescriptor_ends laid
      refine ⟨fuel, answer, ?_⟩
      rw [dispatchRequest, get.1, get.2]
      exact done
    · refine ⟨0, ?_⟩
      rw [dispatchRequest]
      split
      case isTrue out =>
          rw [if_neg fun configuration : u.setup.bRequest = setConfiguration =>
            set ⟨out, configuration⟩]
          split_ifs <;> exact ⟨_, rfl⟩
      case isFalse =>
          split
          case isTrue inward =>
              rw [if_neg fun descriptor : u.setup.bRequest = getDescriptor =>
                get ⟨inward, descriptor⟩]
              split_ifs <;> exact ⟨_, rfl⟩
          case isFalse => split_ifs <;> exact ⟨_, rfl⟩

end Memory

/-! ## The table of the firmware -/

def deviceDescriptor : UsbDescriptor where
  bytes := [18, 1, 0x10, 0x01, 0, 0, 0, 64, 0x37, 0x12, 0xCD, 0xAB, 0x00, 0x01,
    1, 2, 3, 1]
  long := by decide
  sized := by decide

/-- A bulk endpoint of this address. -/
def endpointDescriptor (address : Byte) : UsbDescriptor where
  bytes := [7, 5, address, 2, 64, 0, 0]
  long := by simp
  sized := by simp

def interfaceDescriptor : UsbDescriptor where
  bytes := [9, 4, 0, 0, 4, 0, 0, 0, 0]
  long := by decide
  sized := by decide

def configurationDescriptor : UsbDescriptor where
  bytes := [9, 2, 46, 0, 1, 1, 0, 0xA0, 50]
  long := by decide
  sized := by decide

/-- A string descriptor of these characters. -/
def stringDescriptor (characters : List Byte)
    (short : 2 * characters.length + 2 < 256) : UsbDescriptor where
  bytes := BitVec.ofNat 8 (2 * characters.length + 2) :: 3 ::
    characters.flatMap fun character => [character, 0]
  long := by simp
  sized := by
    have length : (characters.flatMap fun character => [character, 0]).length =
        2 * characters.length := by
      simp [List.length_flatMap]
      omega
    simp only [List.getElem_cons_zero, BitVec.toNat_ofNat, List.length_cons,
      length]
    omega

/-- A descriptor that is not a configuration, alone. -/
def UsbBlock.alone (d : UsbDescriptor)
    (other : d.kind ≠ usbDescrTypeConfiguration) : UsbBlock where
  first := d
  inner := []
  plain := plain_nil
  counted := by simp [other]

def abDescriptors : List UsbBlock :=
  [.alone deviceDescriptor (by decide),
   { first := configurationDescriptor
     inner := [interfaceDescriptor, endpointDescriptor 2,
      endpointDescriptor 0x82, endpointDescriptor 5, endpointDescriptor 0x85]
     plain := by decide
     counted := by decide },
   .alone ⟨[4, 3, 0x09, 0x04], by decide, by decide⟩ (by decide),
   .alone (stringDescriptor [0x4C, 0x50, 0x43, 0x32, 0x31, 0x34, 0x78, 0x20,
      0x55, 0x53, 0x42] (by decide)) (by decide),
   .alone (stringDescriptor [0x54, 0x4E, 0x4B, 0x65, 0x72, 0x6E, 0x65, 0x6C,
      0x20, 0x55, 0x53, 0x42] (by decide)) (by decide),
   .alone (stringDescriptor [0x30, 0x30, 0x30, 0x30, 0x31, 0x31] (by decide))
      (by decide)]

end UsbBulk
