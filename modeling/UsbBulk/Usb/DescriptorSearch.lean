import UsbBulk.Usb.DescriptorTable

/-!
# `GET_DESCRIPTOR` on any table

Here a table is any list of descriptors closed by a zero byte; nothing is asked of
`wTotalLength`.  The addresses that the search reads are followed as well.
-/

namespace UsbBulk

/-- The descriptors side by side, and the zero byte after them. -/
def descriptorTable (table : List UsbDescriptor) : List Byte :=
  table.flatMap (·.bytes) ++ [0]

/-- How many descriptors of a type there are. -/
def countKind (reqType : Byte) (table : List UsbDescriptor) : Nat :=
  table.countP fun d => d.kind = reqType

/-- The table ends with a configuration descriptor of two bytes. -/
def EndsInStub (table : List UsbDescriptor) : Prop :=
  ∃ before d, table = before ++ [d] ∧ d.kind = usbDescrTypeConfiguration ∧
    d.bytes.length = 2

section Search

variable {mem : Word → Byte} {ptr : Word} {reqType : Byte} {reqIndex : Nat}
variable {d : UsbDescriptor} {table : List UsbDescriptor}

theorem descriptorTable_cons (d : UsbDescriptor) (table : List UsbDescriptor) :
    descriptorTable (d :: table) = d.bytes ++ descriptorTable table := by
  rw [descriptorTable, List.flatMap_cons, List.append_assoc]
  rfl

theorem descriptorTable_append (before table : List UsbDescriptor) :
    descriptorTable (before ++ table) =
      before.flatMap (·.bytes) ++ descriptorTable table := by
  rw [descriptorTable, List.flatMap_append, List.append_assoc]
  rfl

/-- Where the descriptor of a type and index stands in a table. -/
structure Selects (reqType : Byte) (reqIndex : Nat)
    (table before : List UsbDescriptor) (d : UsbDescriptor)
    (after : List UsbDescriptor) : Prop where
  split : table = before ++ d :: after
  kind : d.kind = reqType
  count : countKind reqType before = reqIndex

theorem Selects.more {before after : List UsbDescriptor}
    (selects : Selects reqType reqIndex table before d after) :
    reqIndex < countKind reqType table := by
  have count := selects.count
  rw [selects.split, countKind, List.countP_append, List.countP_cons,
    if_pos (by simpa using selects.kind)]
  rw [countKind] at count
  omega

theorem descriptorTable_pos (table : List UsbDescriptor) :
    0 < (descriptorTable table).length := by
  rw [descriptorTable, List.length_append]
  exact Nat.succ_pos _

theorem two_le_descriptorTable (d : UsbDescriptor)
    (table : List UsbDescriptor) :
    2 ≤ (descriptorTable (d :: table)).length := by
  rw [descriptorTable_cons, List.length_append]
  exact Nat.le_trans d.long (Nat.le_add_right _ _)

theorem Selects.laid {before after : List UsbDescriptor}
    (selects : Selects reqType reqIndex table before d after)
    (laid : Laid mem ptr (descriptorTable table)) :
    Laid mem (ptr + BitVec.ofNat 32 (before.flatMap (·.bytes)).length)
      (d.bytes ++ descriptorTable after) := by
  rw [selects.split, descriptorTable_append, laid_append,
    descriptorTable_cons] at laid
  exact laid.2

/-- A selected configuration descriptor has two more bytes in the table. -/
theorem Selects.room {before after : List UsbDescriptor}
    (selects : Selects reqType reqIndex table before d after)
    (whole : ¬EndsInStub table) (configuration :
      d.kind = usbDescrTypeConfiguration) :
    3 < (d.bytes ++ descriptorTable after).length := by
  have long := d.long
  rw [List.length_append]
  cases after with
  | nil =>
      have notTwo : d.bytes.length ≠ 2 := fun two =>
        whole ⟨before, d, selects.split, configuration, two⟩
      have closed := descriptorTable_pos []
      omega
  | cons d' after =>
      have two := two_le_descriptorTable d' after
      omega

end Search

end UsbBulk
