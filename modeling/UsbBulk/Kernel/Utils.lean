import UsbBulk.Kernel.State
import UsbBulk.RingBuffer

/-!
# List primitives and the data queue storage (`tn_utils.c`)

The bodies follow the source statement by statement.  Each list primitive is
then identified with one of the surgeries of `CircularList`, which is what the
proofs about the kernel use.
-/

namespace UsbBulk

section Queues

variable {N : Type} [DecidableEq N]

def queueReset (links : Links N) (que : N) : Links N :=
  let links := links.setNext que que
  links.setPrev que (links.next que)

def isQueueEmpty (links : Links N) (que : N) : Bool :=
  links.next que = que && links.prev que = que

def queueAddHead (links : Links N) (que entry : N) : Links N :=
  let links := links.setNext entry (links.next que)
  let links := links.setPrev entry que
  let links := links.setPrev (links.next entry) entry
  links.setNext que entry

def queueAddTail (links : Links N) (que entry : N) : Links N :=
  let links := links.setNext entry que
  let links := links.setPrev entry (links.prev que)
  let links := links.setNext (links.prev entry) entry
  links.setPrev que entry

def queueRemoveHead (links : Links N) (que : N) : Links N × Option N :=
  if links.next que = que then
    (links, none)
  else
    let entry := links.next que
    let links := links.setPrev (links.next entry) que
    let links := links.setNext que (links.next entry)
    (links, some entry)

def queueRemoveTail (links : Links N) (que : N) : Links N × Option N :=
  if links.prev que = que then
    (links, none)
  else
    let entry := links.prev que
    let links := links.setNext (links.prev entry) que
    let links := links.setPrev que (links.prev entry)
    (links, some entry)

def queueRemoveEntry (links : Links N) (entry : N) : Links N :=
  let links := links.setNext (links.prev entry) (links.next entry)
  links.setPrev (links.next entry) (links.prev entry)

/-- The loop of `queue_contains_entry`, for at most `fuel` nodes. -/
def queueContainsEntry (links : Links N) (que entry : N) :
    Nat → N → Option Bool
  | 0, _ => none
  | fuel + 1, currQue =>
      if currQue = entry then some true
      else if links.next currQue = que then some false
      else queueContainsEntry links que entry fuel (links.next currQue)

theorem queueReset_eq (links : Links N) (que : N) :
    queueReset links que = links.isolate que := by
  simp [queueReset, Links.isolate]

theorem queueAddHead_eq (links : Links N) (que entry : N) :
    queueAddHead links que entry = links.splice que entry (links.next que) := by
  simp [queueAddHead, Links.splice, Links.setNext, Links.setPrev]

theorem queueAddTail_eq (links : Links N) (que entry : N) :
    queueAddTail links que entry = links.splice (links.prev que) entry que := by
  simp [queueAddTail, Links.splice, Links.setNext, Links.setPrev]

theorem queueRemoveEntry_eq (links : Links N) (entry : N) :
    queueRemoveEntry links entry = links.unlink entry := by
  have unchanged : Function.update links.next (links.prev entry)
      (links.next entry) entry = links.next entry := by
    by_cases self : entry = links.prev entry
    · rw [← self, Function.update_self]
    · rw [Function.update_of_ne self]
  simp [queueRemoveEntry, Links.unlink, Links.setNext, Links.setPrev, unchanged]

end Queues

namespace Represents

variable {Head Entry : Type} [DecidableEq Head] [DecidableEq Entry]
variable {links : Links (Node Head Entry)} {live : Head → Prop}
variable {lists : Head → List Entry} {list : Head} {item : Entry}

theorem isQueueEmpty_iff (represents : Represents links live lists)
    (alive : live list) :
    isQueueEmpty links (.head list) = true ↔ lists list = [] := by
  simp [isQueueEmpty, represents.next_head_eq_iff alive,
    represents.prev_head_eq_iff alive]

theorem addTail (represents : Represents links live lists)
    (alive : live list) (fresh : ∀ list, item ∉ lists list) :
    Represents (queueAddTail links (.head list) (.entry item)) live
      (pushLast lists list item) := by
  rw [queueAddTail_eq]
  exact represents.spliceLast alive fresh

theorem addHead (represents : Represents links live lists)
    (alive : live list) (fresh : ∀ list, item ∉ lists list) :
    Represents (queueAddHead links (.head list) (.entry item)) live
      (pushFirst lists list item) := by
  rw [queueAddHead_eq]
  exact represents.spliceFirst alive fresh

theorem removeEntry (represents : Represents links live lists)
    (member : item ∈ lists list) :
    Represents (queueRemoveEntry links (.entry item)) live
      (drop lists item) := by
  rw [queueRemoveEntry_eq]
  exact represents.unlink member

/-- Removing the head of a list is unlinking its first entry. -/
theorem removeHead_eq (represents : Represents links live lists)
    {rest : List Entry} (split : lists list = item :: rest) :
    queueRemoveHead links (.head list) =
      (queueRemoveEntry links (.entry item), some (.entry item)) := by
  have member : item ∈ lists list := by simp [split]
  have alive := represents.live_of_mem member
  have next := represents.next_head alive
  have prev : links.prev (.entry item) = .head list := by
    have ring := represents.ring list alive
    rw [split, List.map_cons] at ring
    exact ring.2.1
  rw [split, List.map_cons, List.headD_cons] at next
  simp [queueRemoveHead, next, queueRemoveEntry_eq, Links.unlink,
    Links.setNext, Links.setPrev, prev]

/-- Removing the tail of a list is unlinking its last entry. -/
theorem removeTail_eq (represents : Represents links live lists)
    {front : List Entry} (split : lists list = front ++ [item]) :
    queueRemoveTail links (.head list) =
      (queueRemoveEntry links (.entry item), some (.entry item)) := by
  have prev := represents.prev_head split
  have next : links.next (.entry item) = .head list :=
    represents.next_entry split
  simp [queueRemoveTail, prev, queueRemoveEntry_eq, Links.unlink,
    Links.setNext, Links.setPrev, next]

theorem resetEntry (represents : Represents links live lists)
    (fresh : ∀ list, item ∉ lists list) :
    Represents (queueReset links (.entry item)) live lists := by
  rw [queueReset_eq]
  exact represents.isolate_entry fresh

theorem resetHead (represents : Represents links live lists) (list : Head)
    (empty : lists list = []) :
    Represents (queueReset links (.head list))
      (fun other => other = list ∨ live other) lists := by
  rw [queueReset_eq]
  exact represents.isolate_head empty

/-- The search decides membership within one step for each entry left. -/
theorem containsEntry_suffix (represents : Represents links live lists)
    {front back : List Entry} {current : Entry}
    (split : lists list = front ++ current :: back) (fuel : Nat)
    (enough : back.length < fuel) :
    queueContainsEntry links (.head list) (.entry item) fuel
        (.entry current) =
      some (decide (item ∈ current :: back)) := by
  induction back generalizing front current fuel with
  | nil =>
      obtain ⟨fuel, rfl⟩ : ∃ rest, fuel = rest + 1 :=
        ⟨fuel - 1, by simp at enough; omega⟩
      have next := represents.next_entry split
      by_cases same : current = item
      · simp [queueContainsEntry, same]
      · simp [queueContainsEntry, same, Ne.symm same, next]
  | cons following back ih =>
      obtain ⟨fuel, rfl⟩ : ∃ rest, fuel = rest + 1 :=
        ⟨fuel - 1, by simp at enough; omega⟩
      have next := represents.next_entry split
      by_cases same : current = item
      · simp [queueContainsEntry, same]
      · have splitAfter :
            lists list = (front ++ [current]) ++ following :: back := by
          simpa using split
        have rest := ih splitAfter fuel (by simp at enough ⊢; omega)
        simp [queueContainsEntry, same, Ne.symm same, next, rest]

/-- The search started at the head, as the source starts it. -/
theorem containsEntry_iff (represents : Represents links live lists)
    (alive : live list) (fuel : Nat) (enough : (lists list).length < fuel) :
    queueContainsEntry links (.head list) (.entry item) fuel
        (links.next (.head list)) =
      some (decide (item ∈ lists list)) := by
  have next := represents.next_head alive
  cases split : lists list with
  | nil =>
      obtain ⟨fuel, rfl⟩ : ∃ rest, fuel = rest + 1 :=
        ⟨fuel - 1, by simp [split] at enough; omega⟩
      rw [split, List.map_nil, List.headD_nil] at next
      simp [next, queueContainsEntry]
  | cons first rest =>
      rw [split, List.map_cons, List.headD_cons] at next
      rw [next]
      have splitHere : lists list = [] ++ first :: rest := split
      exact represents.containsEntry_suffix splitHere fuel
        (by simp [split] at enough; omega)

theorem addTail_single {links : Links (Node Unit Entry)}
    {members : List Entry}
    (represents : Represents links (fun _ => True) fun _ : Unit => members)
    (fresh : item ∉ members) :
    Represents (queueAddTail links (.head ()) (.entry item))
      (fun _ => True) fun _ => members ++ [item] := by
  have added := @addTail Unit _ _ _ _ _ _ () _ represents trivial
    fun _ => fresh
  have same : pushLast (fun _ : Unit => members) () item =
      fun _ => members ++ [item] := by
    funext list
    exact pushLast_same
  rwa [same] at added

omit [DecidableEq Entry] in
theorem next_head_single {links : Links (Node Unit Entry)}
    {members : List Entry}
    (represents : Represents links (fun _ => True) fun _ : Unit => members) :
    links.next (.head ()) = (members.map Node.entry).headD (.head ()) :=
  @next_head Unit _ _ _ _ () represents trivial

theorem isQueueEmpty_single {links : Links (Node Unit Entry)}
    {members : List Entry}
    (represents : Represents links (fun _ => True) fun _ : Unit => members) :
    isQueueEmpty links (.head ()) = true ↔ members = [] :=
  @isQueueEmpty_iff Unit _ _ _ _ _ _ () represents trivial

omit [DecidableEq Entry] in
theorem next_entry_single {links : Links (Node Unit Entry)}
    {members front back : List Entry}
    (represents : Represents links (fun _ => True) fun _ : Unit => members)
    (split : members = front ++ item :: back) :
    links.next (.entry item) = (back.map Node.entry).headD (.head ()) :=
  @next_entry Unit _ _ _ _ () _ represents _ _ split

theorem removeEntry_next_single {links : Links (Node Unit Entry)}
    {members : List Entry}
    (represents : Represents links (fun _ => True) fun _ : Unit => members)
    (member : item ∈ members) :
    (queueRemoveEntry links (.entry item)).next (.entry item) =
      links.next (.entry item) := by
  rw [queueRemoveEntry_eq]
  exact @unlink_next Unit _ _ _ _ () _ _ _ represents member

theorem removeEntry_single {links : Links (Node Unit Entry)}
    {members : List Entry}
    (represents : Represents links (fun _ => True) fun _ : Unit => members)
    (member : item ∈ members) :
    Represents (queueRemoveEntry links (.entry item))
      (fun _ => True) fun _ => members.erase item :=
  @removeEntry Unit _ _ _ _ _ _ () _ represents member

theorem removeIfMember_single {links : Links (Node Unit Entry)}
    {members : List Entry}
    (represents : Represents links (fun _ => True) fun _ : Unit => members) :
    Represents (if item ∈ members then queueRemoveEntry links (.entry item)
      else links) (fun _ => True) fun _ => members.erase item := by
  split
  · next member => exact represents.removeEntry_single member
  · next absent =>
      rw [List.erase_of_not_mem absent]
      exact represents

theorem addTail_alone_single {links : Links (Node Unit Entry)}
    {members : List Entry}
    (represents : Represents links (fun _ => True) fun _ : Unit => members)
    {other : Entry} (different : other ≠ item) (absent : other ∉ members)
    (alone : links.Alone (.entry other)) :
    (queueAddTail links (.head ()) (.entry item)).Alone (.entry other) := by
  rw [queueAddTail_eq]
  exact @alone_spliceLast Unit _ _ _ _ () _ _ _ represents trivial _
    different absent alone

theorem removeEntry_alone_single {links : Links (Node Unit Entry)}
    {members : List Entry}
    (represents : Represents links (fun _ => True) fun _ : Unit => members)
    (member : item ∈ members) {other : Entry} (absent : other ∉ members)
    (alone : links.Alone (.entry other)) :
    (queueRemoveEntry links (.entry item)).Alone (.entry other) := by
  rw [queueRemoveEntry_eq]
  exact @alone_unlink Unit _ _ _ _ () _ _ _ represents member _ absent alone

end Represents

/-! ## Data queue storage -/

/-- `dque->data_fifo[index]`.  The array is `NULL` only together with
`num_entries = 0`, and then no index is ever used. -/
def Dque.cell (dque : Dque) (index : Int) : Word :=
  (dque.dataFifo.map fun cells => cells index).getD 0

def dqueFifoWrite (dque : Dque) (dataPtr : Word) : Dque × Terr :=
  if dque.numEntries ≤ 0 then (dque, .outOfMem)
  else if (dque.tailCnt = 0 ∧ dque.headerCnt = dque.numEntries - 1) ∨
      dque.headerCnt = dque.tailCnt - 1 then
    (dque, .overflow)
  else
    let dque := { dque with
      dataFifo := dque.dataFifo.map fun cells =>
        Function.update cells dque.headerCnt dataPtr }
    let dque := { dque with headerCnt := dque.headerCnt + 1 }
    if dque.headerCnt ≥ dque.numEntries then
      ({ dque with headerCnt := 0 }, .noErr)
    else (dque, .noErr)

def dqueFifoRead (dque : Dque) : Dque × Terr × Option Word :=
  if dque.numEntries ≤ 0 then (dque, .outOfMem, none)
  else if dque.tailCnt = dque.headerCnt then (dque, .underflow, none)
  else
    let value := dque.cell dque.tailCnt
    let dque := { dque with tailCnt := dque.tailCnt + 1 }
    if dque.tailCnt ≥ dque.numEntries then
      ({ dque with tailCnt := 0 }, .noErr, some value)
    else (dque, .noErr, some value)

/-- The counters are positions of the array, and only a queue without entries
has no array. -/
structure Dque.Valid (dque : Dque) : Prop where
  nonneg : 0 ≤ dque.numEntries
  bounded : 0 < dque.numEntries →
    RingBuffer.Bounded dque.numEntries dque.tailCnt dque.headerCnt
  array : 0 < dque.numEntries → dque.dataFifo.isSome

/-- The elements stored in the array, oldest first. -/
def Dque.items (dque : Dque) : List Word :=
  if dque.numEntries ≤ 0 then []
  else RingBuffer.contents dque.cell dque.numEntries dque.tailCnt
    dque.headerCnt

/-- The number of elements the array can hold: one cell always stays free. -/
def Dque.capacity (dque : Dque) : Nat := (dque.numEntries - 1).toNat

namespace Dque

variable {dque : Dque}

theorem Valid.length_items_le (valid : dque.Valid) :
    dque.items.length ≤ dque.capacity := by
  unfold items capacity
  split
  · simp
  · next positive =>
      have bounded := valid.bounded (by omega)
      have length := bounded.length_contents dque.cell
      have below := bounded.used_lt
      omega

/-- The capacity, the identity and the array's presence never change. -/
structure SameShape (before after : Dque) : Prop where
  numEntries : after.numEntries = before.numEntries
  idDque : after.idDque = before.idDque

theorem SameShape.capacity {before after : Dque}
    (same : SameShape before after) : after.capacity = before.capacity := by
  rw [Dque.capacity, Dque.capacity, same.numEntries]

theorem SameShape.trans {first second third : Dque}
    (same : SameShape first second) (same' : SameShape second third) :
    SameShape first third :=
  ⟨same'.numEntries.trans same.numEntries, same'.idDque.trans same.idDque⟩

theorem write_full (valid : dque.Valid) (value : Word)
    (full : dque.items.length = dque.capacity) :
    (dqueFifoWrite dque value).1 = dque ∧
      (dqueFifoWrite dque value).2 ≠ .noErr := by
  unfold dqueFifoWrite
  by_cases empty : dque.numEntries ≤ 0
  · simp [empty]
  · have bounded := valid.bounded (by omega)
    have length := bounded.length_contents dque.cell
    have test := bounded.full_iff.mpr (by
      unfold items capacity at full
      rw [if_neg empty] at full
      omega)
    simp [empty, test]

theorem write_room (valid : dque.Valid) (value : Word)
    (room : dque.items.length ≠ dque.capacity) :
    (dqueFifoWrite dque value).2 = .noErr ∧
      (dqueFifoWrite dque value).1.items = dque.items ++ [value] ∧
      (dqueFifoWrite dque value).1.Valid ∧
      SameShape dque (dqueFifoWrite dque value).1 := by
  have positive : ¬ dque.numEntries ≤ 0 := by
    intro empty
    apply room
    simp [items, capacity, empty]
    omega
  have bounded := valid.bounded (by omega)
  have length := bounded.length_contents dque.cell
  have notFull : RingBuffer.used dque.numEntries dque.tailCnt
      dque.headerCnt ≠ dque.numEntries - 1 := by
    intro full
    apply room
    unfold items capacity
    rw [if_neg positive]
    omega
  have test := mt bounded.full_iff.mp notFull
  obtain ⟨cells, array⟩ := Option.isSome_iff_exists.mp
    (valid.array (by omega))
  have written : dqueFifoWrite dque value =
      ({ dque with
          dataFifo := some (Function.update cells dque.headerCnt value)
          headerCnt := RingBuffer.advance dque.numEntries dque.headerCnt },
        .noErr) := by
    unfold dqueFifoWrite RingBuffer.advance
    rw [if_neg positive, if_neg test]
    by_cases wraps : dque.headerCnt + 1 ≥ dque.numEntries <;>
      simp [wraps, array]
  have cellEq : dque.cell = cells := by
    funext index
    simp [cell, array]
  rw [written]
  refine ⟨rfl, ?_, ⟨valid.nonneg, fun _ => bounded.advance_header,
    fun _ => rfl⟩, rfl, rfl⟩
  simp only [items, if_neg positive]
  exact cellEq ▸ bounded.contents_write cells value notFull

theorem read_empty (valid : dque.Valid) (empty : dque.items = []) :
    (dqueFifoRead dque).1 = dque ∧ (dqueFifoRead dque).2.1 ≠ .noErr ∧
      (dqueFifoRead dque).2.2 = none := by
  unfold dqueFifoRead
  by_cases none : dque.numEntries ≤ 0
  · simp [none]
  · have bounded := valid.bounded (by omega)
    unfold items at empty
    rw [if_neg none] at empty
    have counters := (bounded.empty_iff dque.cell).mpr empty
    simp [none, counters]

theorem read_cons (valid : dque.Valid) {first : Word} {rest : List Word}
    (stored : dque.items = first :: rest) :
    (dqueFifoRead dque).2 = (.noErr, some first) ∧
      (dqueFifoRead dque).1.items = rest ∧
      (dqueFifoRead dque).1.Valid ∧
      SameShape dque (dqueFifoRead dque).1 := by
  have positive : ¬ dque.numEntries ≤ 0 := by
    intro none
    simp [items, none] at stored
  have bounded := valid.bounded (by omega)
  have notEmpty : dque.tailCnt ≠ dque.headerCnt := by
    intro counters
    have empty := (bounded.empty_iff dque.cell).mp counters
    simp [items, positive, empty] at stored
  have read := bounded.contents_read dque.cell notEmpty
  have split : dque.cell dque.tailCnt = first ∧
      RingBuffer.contents dque.cell dque.numEntries
        (RingBuffer.advance dque.numEntries dque.tailCnt)
        dque.headerCnt = rest := by
    unfold items at stored
    rw [if_neg positive, read] at stored
    exact List.cons.inj stored
  have result : dqueFifoRead dque =
      ({ dque with
          tailCnt := RingBuffer.advance dque.numEntries dque.tailCnt },
        .noErr, some first) := by
    unfold dqueFifoRead RingBuffer.advance
    rw [if_neg positive, if_neg notEmpty, ← split.1]
    by_cases wraps : dque.tailCnt + 1 ≥ dque.numEntries <;> simp [wraps]
  rw [result]
  refine ⟨rfl, ?_, ⟨valid.nonneg, fun _ => bounded.advance_tail,
    valid.array⟩, rfl, rfl⟩
  simp only [items, if_neg positive]
  exact split.2

end Dque

end UsbBulk
