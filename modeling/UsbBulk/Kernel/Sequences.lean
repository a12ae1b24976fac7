import UsbBulk.Kernel.Utils

/-!
# The primitives of `tn_utils.c` as operations on sequences

A list primitive replaces one sequence of a family and leaves the links of all
others alone.  The storage of a data queue is a queue of bounded length.
-/

namespace UsbBulk

/-! ## Lists -/

section Lists

variable {Head Entry : Type} {links links' : Links (Node Head Entry)}
variable {live : Head → Prop} {lists lists' : Head → List Entry}
variable {list : Head} {item : Entry}

/-- One list of the family has become `members`, and no link of another one has
changed. -/
structure Becomes [DecidableEq Head] (links links' : Links (Node Head Entry))
    (live : Head → Prop) (lists : Head → List Entry) (list : Head)
    (members : List Entry) : Prop where
  represents : Represents links' live (Function.update lists list members)
  elsewhere : ∀ other, live other → other ≠ list →
    ∀ node ∈ Node.head other :: (lists other).map Node.entry,
      links'.next node = links.next node ∧ links'.prev node = links.prev node

variable [DecidableEq Head] {members : List Entry}

/-- The links of a list that stays as it is are determined by it. -/
theorem Becomes.of_represents (before : Represents links live lists)
    (after : Represents links' live lists')
    (same : lists' = Function.update lists list members) :
    Becomes links links' live lists list members := by
  subst same
  refine ⟨after, fun other alive different node member => ?_⟩
  have ring := after.ring other alive
  rw [Function.update_of_ne different] at ring
  obtain ⟨next, prev⟩ := (before.ring other alive).unique ring
  exact ⟨next node member, prev node (by simpa [or_comm] using member)⟩

variable [DecidableEq Entry]

theorem drop_eq_update (represents : Represents links live lists)
    (member : item ∈ lists list) :
    drop lists item =
      Function.update lists list ((lists list).erase item) := by
  funext other
  by_cases same : other = list
  · subst same
    rw [Function.update_self]
    rfl
  · rw [Function.update_of_ne same]
    exact drop_of_absent fun there => same (represents.disjoint there member)

/-- The list primitives on a family of disjoint well-formed lists. -/
theorem queue_primitives (represents : Represents links live lists)
    (alive : live list) :
    (∀ item, (∀ other, item ∉ lists other) →
      Becomes links (queueAddHead links (.head list) (.entry item)) live lists
          list (item :: lists list) ∧
        Becomes links (queueAddTail links (.head list) (.entry item)) live
          lists list (lists list ++ [item])) ∧
    (∀ item rest, lists list = item :: rest → ∃ links',
      queueRemoveHead links (.head list) = (links', some (.entry item)) ∧
        Becomes links links' live lists list rest) ∧
    (∀ item front, lists list = front ++ [item] → ∃ links',
      queueRemoveTail links (.head list) = (links', some (.entry item)) ∧
        Becomes links links' live lists list front) ∧
    (lists list = [] → queueRemoveHead links (.head list) = (links, none) ∧
      queueRemoveTail links (.head list) = (links, none)) ∧
    (∀ item ∈ lists list,
      Becomes links (queueRemoveEntry links (.entry item)) live lists list
        ((lists list).erase item)) ∧
    (isQueueEmpty links (.head list) = true ↔ lists list = []) ∧
    ∀ item fuel, (lists list).length < fuel →
      queueContainsEntry links (.head list) (.entry item) fuel
        (links.next (.head list)) = some (decide (item ∈ lists list)) := by
  have removed : ∀ item ∈ lists list,
      Becomes links (queueRemoveEntry links (.entry item)) live lists list
        ((lists list).erase item) := fun item member =>
    .of_represents represents (represents.removeEntry member)
      (drop_eq_update represents member)
  refine ⟨fun item fresh => ⟨?_, ?_⟩, fun item rest split => ?_,
    fun item front split => ?_, fun empty => ⟨?_, ?_⟩, removed,
    represents.isQueueEmpty_iff alive, fun item fuel enough =>
      represents.containsEntry_iff alive fuel enough⟩
  · exact .of_represents represents (represents.addHead alive fresh) rfl
  · exact .of_represents represents (represents.addTail alive fresh) rfl
  · refine ⟨_, represents.removeHead_eq split, ?_⟩
    have rest_eq : rest = (lists list).erase item := by simp [split]
    rw [rest_eq]
    exact removed item (by simp [split])
  · refine ⟨_, represents.removeTail_eq split, ?_⟩
    have absent : item ∉ front := by
      have nodup := represents.nodup list
      rw [split] at nodup
      exact fun inFront =>
        (List.nodup_append.mp nodup).2.2 item inFront item (by simp) rfl
    have front_eq : front = (lists list).erase item := by
      simp [split, List.erase_append, absent]
    rw [front_eq]
    exact removed item (by simp [split])
  · exact if_pos ((represents.next_head_eq_iff alive).mpr empty)
  · exact if_pos ((represents.prev_head_eq_iff alive).mpr empty)

end Lists

/-- Two lists, one of them with an entry, and an entry in neither. -/
theorem queue_primitives_example :
    let links : Links (Node Bool Nat) :=
      queueAddTail ⟨id, id⟩ (.head true) (.entry 1)
    let lists : Bool → List Nat := fun list => if list then [1] else []
    Becomes links (queueAddTail links (.head true) (.entry 2))
        (fun _ => True) lists true [1, 2] ∧
      Becomes links (queueRemoveEntry links (.entry 1)) (fun _ => True) lists
        true [] := by
  intro links lists
  have empty : Represents (⟨id, id⟩ : Links (Node Bool Nat)) (fun _ => True)
      fun _ => [] :=
    ⟨fun _ _ => ⟨rfl, rfl⟩, fun _ _ => rfl, fun _ => List.nodup_nil,
      fun absurd => by cases absurd⟩
  have one : Represents links (fun _ => True) lists := by
    have added := @Represents.addTail _ _ _ _ _ _ _ true 1 empty trivial
      fun _ => List.not_mem_nil
    convert added using 1
    funext list
    cases list <;> rfl
  obtain ⟨add, _, _, _, remove, _, _⟩ :=
    @queue_primitives _ _ links _ lists true _ _ one trivial
  exact ⟨(add 2 fun list => by cases list <;> decide).2, remove 1 (by decide)⟩

/-! ## Data queue storage -/

/-- A call of one of the two functions for the storage. -/
inductive FifoCall where
  | write (dataPtr : Word)
  | read

/-- The queue after a call, for at most `capacity` elements. -/
def FifoCall.onQueue (capacity : Nat) (items : List Word) :
    FifoCall → List Word
  | .write dataPtr =>
      if items.length < capacity then items ++ [dataPtr] else items
  | .read => items.tail

def FifoCall.onStorage (dque : Dque) : FifoCall → Dque
  | .write dataPtr => (dqueFifoWrite dque dataPtr).1
  | .read => (dqueFifoRead dque).1

/-- Only cells of the array have been written. -/
def Dque.Confined (before after : Dque) : Prop :=
  ∀ index, ¬(0 ≤ index ∧ index < before.numEntries) →
    after.cell index = before.cell index

section Storage

variable {dque : Dque}

theorem Dque.Valid.initial (cells : Int → Word) (array : dque.dataFifo = some cells)
    (positive : 1 ≤ dque.numEntries) (tail : dque.tailCnt = 0)
    (header : dque.headerCnt = 0) : dque.Valid ∧ dque.items = [] := by
  refine ⟨⟨by omega, fun some => ?_, fun _ => by rw [array]; rfl⟩, ?_⟩
  · rw [tail, header]
    exact .initial some
  · unfold Dque.items
    rw [if_neg (by omega), tail, header]
    exact RingBuffer.contents_initial _ _ _

theorem dqueFifoWrite_cells {dataPtr : Word}
    (stored : (dqueFifoWrite dque dataPtr).2 = .noErr) :
    (dqueFifoWrite dque dataPtr).1.dataFifo = dque.dataFifo.map fun cells =>
      Function.update cells dque.headerCnt dataPtr := by
  unfold dqueFifoWrite at stored ⊢
  split at stored
  · cases stored
  split at stored
  · cases stored
  next some notFull =>
    rw [if_neg some, if_neg notFull]
    dsimp only
    split <;> rfl

theorem Dque.Valid.write (valid : dque.Valid) (positive : 1 ≤ dque.numEntries)
    (dataPtr : Word) :
    let after := (dqueFifoWrite dque dataPtr).1
    after.Valid ∧ Dque.SameShape dque after ∧ Dque.Confined dque after ∧
      after.items = (FifoCall.write dataPtr).onQueue dque.capacity dque.items ∧
      ((dqueFifoWrite dque dataPtr).2 = .noErr ↔
        dque.items.length < dque.capacity) := by
  intro after
  have bounded := valid.bounded (by omega)
  by_cases room : dque.items.length = dque.capacity
  · obtain ⟨same, refused⟩ := Dque.write_full valid dataPtr room
    have same : after = dque := same
    rw [same]
    refine ⟨valid, ⟨rfl, rfl⟩, fun _ _ => rfl, ?_, ?_⟩
    · rw [FifoCall.onQueue, if_neg (by omega)]
    · exact ⟨fun stored => absurd stored refused, fun below => by omega⟩
  · obtain ⟨stored, items, valid', shape⟩ := Dque.write_room valid dataPtr room
    have below : dque.items.length < dque.capacity :=
      Nat.lt_of_le_of_ne valid.length_items_le room
    refine ⟨valid', shape, fun index outside => ?_, ?_, fun _ => below,
      fun _ => stored⟩
    · have elsewhere : index ≠ dque.headerCnt := by
        rintro rfl
        exact outside ⟨bounded.header_nonneg, bounded.header_lt⟩
      simp only [after, Dque.cell, dqueFifoWrite_cells stored]
      cases dque.dataFifo with
      | none => rfl
      | some cells => exact Function.update_of_ne elsewhere _ _
    · rw [FifoCall.onQueue, if_pos below]
      exact items

theorem dqueFifoRead_shape :
    (dqueFifoRead dque).1.dataFifo = dque.dataFifo ∧
      Dque.SameShape dque (dqueFifoRead dque).1 := by
  unfold dqueFifoRead
  split
  · exact ⟨rfl, rfl, rfl⟩
  split
  · exact ⟨rfl, rfl, rfl⟩
  dsimp only
  split <;> exact ⟨rfl, rfl, rfl⟩

theorem Dque.Valid.read (valid : dque.Valid) :
    let after := (dqueFifoRead dque).1
    after.Valid ∧ Dque.SameShape dque after ∧ Dque.Confined dque after ∧
      after.items = FifoCall.read.onQueue dque.capacity dque.items := by
  intro after
  obtain ⟨cells, shape⟩ := @dqueFifoRead_shape dque
  have confined : Dque.Confined dque after := fun index _ => by
    simp only [after, Dque.cell, cells]
  cases stored : dque.items with
  | nil =>
      have same : after = dque := (Dque.read_empty valid stored).1
      refine ⟨same ▸ valid, shape, confined, ?_⟩
      rw [same, stored]
      rfl
  | cons first rest =>
      obtain ⟨_, items, valid', _⟩ := Dque.read_cons valid stored
      exact ⟨valid', shape, confined, items⟩

theorem Dque.Valid.run (valid : dque.Valid) (positive : 1 ≤ dque.numEntries)
    (calls : List FifoCall) :
    let after := calls.foldl FifoCall.onStorage dque
    after.Valid ∧ Dque.SameShape dque after ∧ Dque.Confined dque after ∧
      after.items =
        calls.foldl (FifoCall.onQueue dque.capacity) dque.items := by
  induction calls generalizing dque with
  | nil => exact ⟨valid, ⟨rfl, rfl⟩, fun _ _ => rfl, rfl⟩
  | cons call calls ih =>
      have step : (call.onStorage dque).Valid ∧
          Dque.SameShape dque (call.onStorage dque) ∧
          Dque.Confined dque (call.onStorage dque) ∧
          (call.onStorage dque).items =
            call.onQueue dque.capacity dque.items := by
        cases call with
        | write dataPtr =>
            obtain ⟨valid', shape, confined, items, _⟩ :=
              valid.write positive dataPtr
            exact ⟨valid', shape, confined, items⟩
        | read => exact valid.read
      obtain ⟨valid', shape, confined, items⟩ := step
      obtain ⟨last, shapes, confines, queue⟩ :=
        ih valid' (shape.numEntries ▸ positive)
      rw [shape.capacity, items] at queue
      refine ⟨last, shape.trans shapes, fun index outside => ?_, queue⟩
      exact (confines index (by rwa [shape.numEntries])).trans
        (confined index outside)

/-- From an empty storage on the two functions behave as a queue for
`num_entries - 1` elements, and use no cell outside the array. -/
theorem dqueFifo_refines {cells : Int → Word}
    (array : dque.dataFifo = some cells) (positive : 1 ≤ dque.numEntries)
    (tail : dque.tailCnt = 0) (header : dque.headerCnt = 0)
    (calls : List FifoCall) :
    let capacity := (dque.numEntries - 1).toNat
    let after := calls.foldl FifoCall.onStorage dque
    let items := calls.foldl (FifoCall.onQueue capacity) []
    (0 ≤ after.headerCnt ∧ after.headerCnt < dque.numEntries) ∧
      (0 ≤ after.tailCnt ∧ after.tailCnt < dque.numEntries) ∧
      Dque.Confined dque after ∧
      (∀ dataPtr, items.length < capacity →
        (dqueFifoWrite after dataPtr).2 = .noErr ∧
          (dqueFifoWrite after dataPtr).1.dataFifo =
            after.dataFifo.map fun cells =>
              Function.update cells after.headerCnt dataPtr) ∧
      (∀ dataPtr, ¬items.length < capacity →
        (dqueFifoWrite after dataPtr).2 ≠ .noErr ∧
          (dqueFifoWrite after dataPtr).1 = after) ∧
      (∀ first rest, items = first :: rest →
        (dqueFifoRead after).2 = (.noErr, some first) ∧
          first = after.cell after.tailCnt) ∧
      (items = [] → (dqueFifoRead after).1 = after ∧
        (dqueFifoRead after).2.1 ≠ .noErr ∧ (dqueFifoRead after).2.2 = none) := by
  intro capacity after items
  obtain ⟨valid, empty⟩ := Dque.Valid.initial cells array positive tail header
  obtain ⟨valid', shape, confined, stored⟩ := valid.run positive calls
  rw [empty] at stored
  have stored : after.items = items := stored
  have entries : after.numEntries = dque.numEntries := shape.numEntries
  have some : 1 ≤ after.numEntries := entries ▸ positive
  have bounded := valid'.bounded (show 0 < after.numEntries by omega)
  have room : after.capacity = capacity := shape.capacity
  refine ⟨⟨bounded.header_nonneg, entries ▸ bounded.header_lt⟩,
    ⟨bounded.tail_nonneg, entries ▸ bounded.tail_lt⟩, confined,
    fun dataPtr below => ?_, fun dataPtr full => ?_,
    fun first rest split => ?_, fun empty => ?_⟩
  · rw [← stored, ← room] at below
    have succeeds := (valid'.write some dataPtr).2.2.2.2.mpr below
    exact ⟨succeeds, dqueFifoWrite_cells succeeds⟩
  · rw [← stored, ← room] at full
    have length := valid'.length_items_le
    obtain ⟨same, refused⟩ := Dque.write_full valid' dataPtr
      (Nat.le_antisymm length (Nat.le_of_not_lt full))
    exact ⟨refused, same⟩
  · rw [← stored] at split
    obtain ⟨answer, -⟩ := Dque.read_cons valid' split
    refine ⟨answer, ?_⟩
    have notEmpty : after.tailCnt ≠ after.headerCnt := by
      intro counters
      unfold Dque.items at split
      rw [if_neg (by omega),
        (bounded.empty_iff after.cell).mp counters] at split
      cases split
    have contents := bounded.contents_read after.cell notEmpty
    unfold Dque.items at split
    rw [if_neg (by omega), contents] at split
    exact (List.cons.inj split).1.symm
  · rw [← stored] at empty
    exact Dque.read_empty valid' empty

/-- Three writes to an array of three cells. -/
theorem dqueFifo_refines_example :
    let dque : Dque := ⟨some fun _ => 0, 3, 0, 0, 0⟩
    let after := [FifoCall.write 5, .write 6].foldl FifoCall.onStorage dque
    (dqueFifoWrite after 7).2 ≠ .noErr ∧ (dqueFifoWrite after 7).1 = after ∧
      (dqueFifoRead after).2 = (.noErr, some 5) := by
  intro dque after
  obtain ⟨_, _, _, _, full, first, _⟩ := @dqueFifo_refines dque _ rfl
    (by decide) rfl rfl [.write 5, .write 6]
  obtain ⟨refused, same⟩ := full 7 (by decide)
  exact ⟨refused, same, (first 5 [6] rfl).1⟩

end Storage

end UsbBulk
