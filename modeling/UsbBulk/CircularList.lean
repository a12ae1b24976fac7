import Mathlib.Data.List.Basic
import Mathlib.Data.List.Nodup
import Mathlib.Logic.Function.Basic

/-!
# Circular doubly linked lists

A store of `prev`/`next` links over an arbitrary type of nodes, the two link
surgeries of intrusive lists (`splice` and `unlink`), and the rules saying what
each does to a ring of nodes and to a whole family of disjoint rings.

The family is indexed by list heads.  A head is a node that is never a member
of a list, so an empty list is a head linked to itself.  Only the heads that
have been initialized are part of the family; the links of the others are
arbitrary.
-/

namespace UsbBulk

/-- The two link fields of every node. -/
structure Links (N : Type) where
  prev : N → N
  next : N → N

namespace Links

variable {N : Type}

section Surgery

variable [DecidableEq N]

def setPrev (links : Links N) (node target : N) : Links N :=
  { links with prev := Function.update links.prev node target }

def setNext (links : Links N) (node target : N) : Links N :=
  { links with next := Function.update links.next node target }

/-- Link a node to itself. -/
def isolate (links : Links N) (node : N) : Links N :=
  (links.setNext node node).setPrev node node

/-- Put `entry` between two nodes. -/
def splice (links : Links N) (before entry after : N) : Links N where
  prev := Function.update (Function.update links.prev entry before) after entry
  next := Function.update (Function.update links.next entry after) before entry

/-- Let the two neighbours of `entry` point at each other.  The links of
`entry` itself are left stale. -/
def unlink (links : Links N) (entry : N) : Links N where
  prev := Function.update links.prev (links.next entry) (links.prev entry)
  next := Function.update links.next (links.prev entry) (links.next entry)

@[simp] theorem setPrev_prev (links : Links N) (node target : N) :
    (links.setPrev node target).prev =
      Function.update links.prev node target := rfl

@[simp] theorem setPrev_next (links : Links N) (node target : N) :
    (links.setPrev node target).next = links.next := rfl

@[simp] theorem setNext_next (links : Links N) (node target : N) :
    (links.setNext node target).next =
      Function.update links.next node target := rfl

@[simp] theorem setNext_prev (links : Links N) (node target : N) :
    (links.setNext node target).prev = links.prev := rfl

/-- The node is linked to itself. -/
def Alone (links : Links N) (node : N) : Prop :=
  links.next node = node ∧ links.prev node = node

theorem Alone.unlink {links : Links N} {node : N}
    (alone : links.Alone node) : links.unlink node = links := by
  obtain ⟨next, prev⟩ := alone
  have sameNext : Function.update links.next node node = links.next := by
    rw [Function.update_eq_self_iff, next]
  have samePrev : Function.update links.prev node node = links.prev := by
    rw [Function.update_eq_self_iff, prev]
  simp only [Links.unlink, next, prev, sameNext, samePrev]

theorem alone_isolate (links : Links N) (node : N) :
    (links.isolate node).Alone node := by
  simp [Alone, isolate]

theorem Alone.isolate {links : Links N} {node : N} (alone : links.Alone node)
    (other : N) : (links.isolate other).Alone node := by
  by_cases same : node = other
  · subst same
    exact alone_isolate links node
  · simpa [Alone, Links.isolate, same] using alone

end Surgery

/-! ## Segments and rings -/

/-- Following `next` from `first` visits exactly `middle` and then `last`, and
every `prev` link on the way leads back. -/
def Segment (links : Links N) : N → List N → N → Prop
  | first, [], last => links.next first = last ∧ links.prev last = first
  | first, node :: middle, last =>
      links.next first = node ∧ links.prev node = first ∧
        Segment links node middle last

theorem segment_append {links : Links N} {first node last : N}
    {front back : List N} :
    Segment links first (front ++ node :: back) last ↔
      Segment links first front node ∧ Segment links node back last := by
  induction front generalizing first with
  | nil => simp [Segment, and_assoc]
  | cons head front ih => simp [Segment, ih, and_assoc]

theorem Segment.prev_mem {links : Links N} {first last : N} {middle : List N}
    (segment : Segment links first middle last) :
    links.prev last ∈ first :: middle := by
  induction middle generalizing first with
  | nil => simp [segment.2]
  | cons node middle ih => exact List.mem_cons_of_mem _ (ih segment.2.2)

/-- A segment only depends on the `next` links it leaves by and on the `prev`
links it is entered by. -/
theorem Segment.congr {links links' : Links N} {first last : N}
    {middle : List N}
    (segment : Segment links first middle last)
    (sameNext : ∀ node ∈ first :: middle, links'.next node = links.next node)
    (samePrev : ∀ node ∈ middle ++ [last], links'.prev node = links.prev node) :
    Segment links' first middle last := by
  induction middle generalizing first with
  | nil =>
      exact ⟨(sameNext first (by simp)).trans segment.1,
        (samePrev last (by simp)).trans segment.2⟩
  | cons node middle ih =>
      obtain ⟨next, prev, rest⟩ := segment
      refine ⟨(sameNext first (by simp)).trans next,
        (samePrev node (by simp)).trans prev, ih rest ?_ ?_⟩
      · intro other member
        exact sameNext other (List.mem_cons_of_mem _ member)
      · intro other member
        exact samePrev other (List.mem_cons_of_mem _ member)

/-- The links of a segment are determined by its nodes. -/
theorem Segment.unique {links links' : Links N} {first last : N}
    {middle : List N} (segment : Segment links first middle last)
    (segment' : Segment links' first middle last) :
    (∀ node ∈ first :: middle, links'.next node = links.next node) ∧
      ∀ node ∈ middle ++ [last], links'.prev node = links.prev node := by
  induction middle generalizing first with
  | nil =>
      simpa using ⟨segment'.1.trans segment.1.symm,
        segment'.2.trans segment.2.symm⟩
  | cons node middle ih =>
      obtain ⟨next, prev, rest⟩ := segment
      obtain ⟨next', prev', rest'⟩ := segment'
      obtain ⟨sameNext, samePrev⟩ := ih rest rest'
      exact ⟨List.forall_mem_cons.mpr ⟨next'.trans next.symm, sameNext⟩,
        List.forall_mem_cons.mpr ⟨prev'.trans prev.symm, samePrev⟩⟩

/-- The walk from a node to another one leads through the same nodes each time. -/
theorem Segment.middle_unique {links : Links N} {first last : N}
    {middle middle' : List N} (segment : Segment links first middle last)
    (segment' : Segment links first middle' last) (inner : last ∉ middle)
    (inner' : last ∉ middle') : middle = middle' := by
  induction middle generalizing first middle' with
  | nil =>
      cases middle' with
      | nil => rfl
      | cons node' _ =>
          have same : last = node' := segment.1.symm.trans segment'.1
          exact absurd (same ▸ List.mem_cons_self) inner'
  | cons node middle ih =>
      cases middle' with
      | nil =>
          have same : last = node := segment'.1.symm.trans segment.1
          exact absurd (same ▸ List.mem_cons_self) inner
      | cons node' middle' =>
          obtain rfl : node = node' := segment.1.symm.trans segment'.1
          rw [ih segment.2.2 segment'.2.2
            (fun inside => inner (List.mem_cons_of_mem _ inside))
            fun inside => inner' (List.mem_cons_of_mem _ inside)]

/-- Redirect the end of a segment to another node. -/
theorem Segment.changeLast {links links' : Links N} {first last target : N}
    {middle : List N} (distinct : (first :: middle).Nodup)
    (segment : Segment links first middle last)
    (sameNext : ∀ node ∈ first :: middle, node ≠ links.prev last →
      links'.next node = links.next node)
    (samePrev : ∀ node ∈ middle, links'.prev node = links.prev node)
    (newNext : links'.next (links.prev last) = target)
    (newPrev : links'.prev target = links.prev last) :
    Segment links' first middle target := by
  induction middle generalizing first with
  | nil =>
      rw [segment.2] at newNext newPrev
      exact ⟨newNext, newPrev⟩
  | cons node middle ih =>
      obtain ⟨next, prev, rest⟩ := segment
      have firstNotLast : first ≠ links.prev last := by
        intro equality
        have member : first ∈ node :: middle := equality ▸ rest.prev_mem
        exact (List.nodup_cons.mp distinct).1 member
      refine ⟨(sameNext first (by simp) firstNotLast).trans next,
        (samePrev node (by simp)).trans prev,
        ih (List.nodup_cons.mp distinct).2 rest ?_ ?_⟩
      · intro other member
        exact sameNext other (List.mem_cons_of_mem _ member)
      · intro other member
        exact samePrev other (List.mem_cons_of_mem _ member)

/-- Start a segment from another node. -/
theorem Segment.changeFirst {links links' : Links N} {first last source : N}
    {middle : List N} (distinct : (middle ++ [last]).Nodup)
    (segment : Segment links first middle last)
    (sameNext : ∀ node ∈ middle, links'.next node = links.next node)
    (samePrev : ∀ node ∈ middle ++ [last], node ≠ links.next first →
      links'.prev node = links.prev node)
    (newNext : links'.next source = links.next first)
    (newPrev : links'.prev (links.next first) = source) :
    Segment links' source middle last := by
  cases middle with
  | nil =>
      rw [segment.1] at newNext newPrev
      exact ⟨newNext, newPrev⟩
  | cons node middle =>
      obtain ⟨next, _prev, rest⟩ := segment
      rw [next] at newNext newPrev
      refine ⟨newNext, newPrev, rest.congr sameNext ?_⟩
      intro other member
      have notNode : other ≠ node := by
        intro equality
        subst other
        exact (List.nodup_cons.mp distinct).1 member
      exact samePrev other (List.mem_cons_of_mem _ member) (next ▸ notNode)

/-- A circular list with the given head. -/
def Ring (links : Links N) (head : N) (members : List N) : Prop :=
  Segment links head members head

/-- What a walk reads at `node`: the next member, or the head after the last
one. -/
theorem Ring.next_of_append {links : Links N} {head node : N}
    {front back : List N} (ring : Ring links head (front ++ node :: back)) :
    links.next node = back.headD head := by
  obtain ⟨_, rest⟩ := segment_append.mp ring
  cases back with
  | nil => exact rest.1
  | cons following back => exact rest.1

theorem Ring.next_head {links : Links N} {head : N} {members : List N}
    (ring : Ring links head members) :
    links.next head = members.headD head := by
  cases members with
  | nil => exact ring.1
  | cons node members => exact ring.1

theorem Ring.prev_head_append {links : Links N} {head node : N}
    {front : List N} (ring : Ring links head (front ++ [node])) :
    links.prev head = node :=
  (segment_append.mp ring).2.2

theorem Ring.next_eq_head_iff {links : Links N} {head : N} {members : List N}
    (ring : Ring links head members) (absent : head ∉ members) :
    links.next head = head ↔ members = [] := by
  rw [ring.next_head]
  cases members with
  | nil => simp
  | cons node members =>
      have different : node ≠ head := fun equality =>
        absent (by simp [equality])
      simp [different]

theorem Ring.prev_eq_head_iff {links : Links N} {head : N} {members : List N}
    (ring : Ring links head members) (absent : head ∉ members) :
    links.prev head = head ↔ members = [] := by
  constructor
  · intro equality
    cases members with
    | nil => rfl
    | cons node members =>
        obtain ⟨_, _, rest⟩ := ring
        have member := rest.prev_mem
        rw [equality] at member
        exact (absent member).elim
  · rintro rfl
    exact ring.2

variable [DecidableEq N]

theorem ring_isolate (links : Links N) (head : N) :
    Ring (links.isolate head) head [] := by
  simp [Ring, Segment, Links.isolate]

/-- Splicing a fresh node before the head appends it. -/
theorem Ring.spliceLast {links : Links N} {head entry : N} {members : List N}
    (ring : Ring links head members)
    (distinct : (head :: members).Nodup) (fresh : entry ∉ head :: members) :
    Ring (links.splice (links.prev head) entry head) head
      (members ++ [entry]) := by
  have lastMember := ring.prev_mem
  have entryNotHead : entry ≠ head := fun equality => fresh (by simp [equality])
  have entryNotLast : entry ≠ links.prev head := fun equality =>
    fresh (equality ▸ lastMember)
  refine segment_append.mpr ⟨ring.changeLast distinct ?_ ?_ ?_ ?_, ?_, ?_⟩
  · intro node member notLast
    have notEntry : node ≠ entry := fun equality => fresh (equality ▸ member)
    simp [Links.splice, notLast, notEntry]
  · intro node member
    have notHead : node ≠ head := fun equality =>
      (List.nodup_cons.mp distinct).1 (equality ▸ member)
    have notEntry : node ≠ entry := fun equality =>
      fresh (List.mem_cons_of_mem _ (equality ▸ member))
    simp [Links.splice, notHead, notEntry]
  · simp [Links.splice]
  · simp [Links.splice, entryNotHead]
  · simp [Links.splice, entryNotLast]
  · simp [Links.splice]

/-- Splicing a fresh node after the head prepends it. -/
theorem Ring.spliceFirst {links : Links N} {head entry : N} {members : List N}
    (ring : Ring links head members)
    (distinct : (head :: members).Nodup) (fresh : entry ∉ head :: members) :
    Ring (links.splice head entry (links.next head)) head
      (entry :: members) := by
  have entryNotHead : entry ≠ head := fun equality => fresh (by simp [equality])
  have firstMember : links.next head ∈ head :: members := by
    rw [ring.next_head]
    cases members <;> simp
  have entryNotFirst : entry ≠ links.next head := fun equality =>
    fresh (equality ▸ firstMember)
  have swap : (members ++ [head]).Perm ([head] ++ members) :=
    List.perm_append_comm
  have rotated : (members ++ [head]).Nodup := swap.nodup_iff.mpr distinct
  refine ⟨?_, ?_, ring.changeFirst rotated ?_ ?_ ?_ ?_⟩
  · simp [Links.splice]
  · simp [Links.splice, entryNotFirst]
  · intro node member
    have notHead : node ≠ head := fun equality =>
      (List.nodup_cons.mp distinct).1 (equality ▸ member)
    have notEntry : node ≠ entry := fun equality =>
      fresh (List.mem_cons_of_mem _ (equality ▸ member))
    simp [Links.splice, notHead, notEntry]
  · intro node member notFirst
    have notEntry : node ≠ entry := fun equality =>
      fresh (by subst equality; simpa [or_comm] using member)
    simp [Links.splice, notFirst, notEntry]
  · simp [Links.splice, entryNotHead]
  · simp [Links.splice]

/-- Unlinking a member closes the ring over the gap. -/
theorem Ring.unlink {links : Links N} {head entry : N} {front back : List N}
    (ring : Ring links head (front ++ entry :: back))
    (distinct : (head :: (front ++ entry :: back)).Nodup) :
    Ring (links.unlink entry) head (front ++ back) := by
  obtain ⟨left, right⟩ := segment_append.mp ring
  have frontDistinct : (head :: front).Nodup :=
    distinct.sublist (by simp)
  have apart : ∀ node ∈ head :: front, node ∉ entry :: back := by
    have split : ((head :: front) ++ (entry :: back)).Nodup := by
      simpa using distinct
    intro node member other
    exact (List.nodup_append.mp split).2.2 node member node other rfl
  have lastMember := left.prev_mem
  have leftPart : ∀ target, target = links.next entry →
      Segment (links.unlink entry) head front target := by
    rintro target rfl
    refine left.changeLast frontDistinct ?_ ?_ ?_ ?_
    · intro node _member notLast
      simp [Links.unlink, notLast]
    · intro node member
      have notNext : node ≠ links.next entry := by
        intro equality
        cases back with
        | nil =>
            rw [right.1] at equality
            exact (List.nodup_cons.mp frontDistinct).1 (equality ▸ member)
        | cons following back =>
            rw [right.1] at equality
            exact apart node (List.mem_cons_of_mem _ member) (by simp [equality])
      simp [Links.unlink, notNext]
    · simp [Links.unlink]
    · simp [Links.unlink]
  cases back with
  | nil => simpa [Ring] using leftPart head right.1.symm
  | cons following back =>
      refine segment_append.mpr ⟨leftPart following right.1.symm, ?_⟩
      obtain ⟨next, _prev, rest⟩ := right
      have backDistinct : (following :: (back ++ [head])).Nodup := by
        have swap : ((following :: back) ++ [head]).Perm
            ([head] ++ following :: back) := List.perm_append_comm
        exact swap.nodup_iff.mpr (distinct.sublist (by simp))
      refine rest.congr ?_ ?_
      · intro node member
        have notLast : node ≠ links.prev entry := fun equality =>
          apart _ lastMember (List.mem_cons_of_mem _ (equality ▸ member))
        simp [Links.unlink, notLast]
      · intro node member
        have notNext : node ≠ links.next entry := by
          rw [next]
          intro equality
          exact (List.nodup_cons.mp backDistinct).1 (equality ▸ member)
        simp [Links.unlink, notNext]

omit [DecidableEq N] in
/-- Surgery on nodes outside a ring leaves the ring alone. -/
theorem Ring.congr {links links' : Links N} {head : N} {members : List N}
    (ring : Ring links head members)
    (sameNext : ∀ node ∈ head :: members, links'.next node = links.next node)
    (samePrev : ∀ node ∈ head :: members, links'.prev node = links.prev node) :
    Ring links' head members :=
  Segment.congr ring sameNext fun node member =>
    samePrev node (by simpa [or_comm] using member)

end Links

/-! ## Families of disjoint lists -/

/-- A node of a family of lists: the head of a list, or the link field of an
entry. -/
inductive Node (Head Entry : Type) where
  | head (list : Head)
  | entry (item : Entry)
  deriving DecidableEq

namespace Node

variable {Head Entry : Type}

theorem entry_injective : Function.Injective (entry : Entry → Node Head Entry) :=
  fun _ _ equality => by cases equality; rfl

end Node

/-- The links hold, for every initialized head, exactly the given list, and no
entry is in two lists or twice in one. -/
structure Represents {Head Entry : Type} (links : Links (Node Head Entry))
    (live : Head → Prop) (lists : Head → List Entry) : Prop where
  ring : ∀ list, live list →
    links.Ring (.head list) ((lists list).map .entry)
  dead : ∀ list, ¬ live list → lists list = []
  nodup : ∀ list, (lists list).Nodup
  disjoint : ∀ {list other item}, item ∈ lists list → item ∈ lists other →
    list = other

/-- Append an item to one list of a family. -/
def pushLast {Head Entry : Type} [DecidableEq Head]
    (lists : Head → List Entry) (list : Head) (item : Entry) :
    Head → List Entry :=
  Function.update lists list (lists list ++ [item])

/-- Prepend an item to one list of a family. -/
def pushFirst {Head Entry : Type} [DecidableEq Head]
    (lists : Head → List Entry) (list : Head) (item : Entry) :
    Head → List Entry :=
  Function.update lists list (item :: lists list)

/-- Drop an item from whichever list holds it. -/
def drop {Head Entry : Type} [DecidableEq Entry]
    (lists : Head → List Entry) (item : Entry) : Head → List Entry :=
  fun list => (lists list).erase item

section Lists

variable {Head Entry : Type}
variable {lists : Head → List Entry} {list other : Head} {item member : Entry}

theorem drop_of_absent [DecidableEq Entry] (absent : item ∉ lists list) :
    drop lists item list = lists list :=
  List.erase_of_not_mem absent

variable [DecidableEq Head]

@[simp] theorem pushLast_same :
    pushLast lists list item list = lists list ++ [item] := by
  simp [pushLast]

theorem pushLast_other (different : other ≠ list) :
    pushLast lists list item other = lists other := by
  simp [pushLast, different]

@[simp] theorem mem_pushLast :
    member ∈ pushLast lists list item other ↔
      member ∈ lists other ∨ (other = list ∧ member = item) := by
  by_cases same : other = list
  · subst same
    simp
  · simp [pushLast_other same, same]

@[simp] theorem mem_pushFirst :
    member ∈ pushFirst lists list item other ↔
      member ∈ lists other ∨ (other = list ∧ member = item) := by
  by_cases same : other = list
  · subst same
    simp [pushFirst, or_comm]
  · simp [pushFirst, same]

end Lists

namespace Represents

variable {Head Entry : Type} {links : Links (Node Head Entry)}
variable {live : Head → Prop} {lists : Head → List Entry}
variable {list : Head} {item : Entry}

/-- Before any head is initialized every list is empty. -/
theorem initial (links : Links (Node Head Entry)) :
    Represents links (fun _ => False) fun _ : Head => ([] : List Entry) where
  ring _ alive := alive.elim
  dead _ _ := rfl
  nodup _ := List.nodup_nil
  disjoint member := by simp at member

/-- A walk along the links of an initialized list finds its members. -/
theorem ring_iff (represents : Represents links live lists)
    (alive : live list) {members : List Entry} :
    links.Ring (.head list) (members.map .entry) ↔ members = lists list := by
  have ring := represents.ring list alive
  constructor
  · intro walk
    have same := walk.middle_unique ring (by simp) (by simp)
    exact List.map_injective_iff.mpr Node.entry_injective same
  · rintro rfl
    exact ring

theorem live_of_mem (represents : Represents links live lists)
    (member : item ∈ lists list) : live list := by
  by_contra dead
  simp [represents.dead list dead] at member

private theorem nodes_nodup (represents : Represents links live lists)
    (list : Head) :
    (Node.head list :: (lists list).map Node.entry).Nodup := by
  refine List.nodup_cons.mpr ⟨by simp, ?_⟩
  exact (represents.nodup list).map Node.entry_injective

private theorem nodes_disjoint (represents : Represents links live lists)
    {other : Head} {node : Node Head Entry} (different : other ≠ list)
    (member : node ∈ Node.head other :: (lists other).map Node.entry) :
    node ∉ Node.head list :: (lists list).map Node.entry := by
  intro both
  cases node with
  | head index =>
      simp only [List.mem_cons, List.mem_map, reduceCtorEq, and_false,
        exists_false, or_false, Node.head.injEq] at member both
      exact different (member.symm.trans both)
  | entry index =>
      have inOther : index ∈ lists other := by simpa using member
      have inList : index ∈ lists list := by simpa using both
      exact different (represents.disjoint inOther inList)

theorem prev_head_mem (represents : Represents links live lists)
    (alive : live list) :
    links.prev (.head list) ∈
      Node.head list :: (lists list).map Node.entry :=
  (represents.ring list alive).prev_mem

theorem next_head_mem (represents : Represents links live lists)
    (alive : live list) :
    links.next (.head list) ∈
      Node.head list :: (lists list).map Node.entry := by
  rw [(represents.ring list alive).next_head]
  cases (lists list).map Node.entry <;> simp

theorem next_head (represents : Represents links live lists)
    (alive : live list) :
    links.next (.head list) =
      ((lists list).map Node.entry).headD (.head list) :=
  (represents.ring list alive).next_head

theorem next_entry (represents : Represents links live lists)
    {front back : List Entry} (split : lists list = front ++ item :: back) :
    links.next (.entry item) = (back.map Node.entry).headD (.head list) := by
  have member : item ∈ lists list := by simp [split]
  have ring := represents.ring list (represents.live_of_mem member)
  rw [split, List.map_append, List.map_cons] at ring
  exact ring.next_of_append

theorem prev_head (represents : Represents links live lists)
    {front : List Entry} (split : lists list = front ++ [item]) :
    links.prev (.head list) = .entry item := by
  have member : item ∈ lists list := by simp [split]
  have ring := represents.ring list (represents.live_of_mem member)
  rw [split, List.map_append] at ring
  exact ring.prev_head_append

theorem next_head_eq_iff (represents : Represents links live lists)
    (alive : live list) :
    links.next (.head list) = .head list ↔ lists list = [] := by
  simpa using (represents.ring list alive).next_eq_head_iff (by simp)

theorem prev_head_eq_iff (represents : Represents links live lists)
    (alive : live list) :
    links.prev (.head list) = .head list ↔ lists list = [] := by
  simpa using (represents.ring list alive).prev_eq_head_iff (by simp)

variable [DecidableEq Head] [DecidableEq Entry]

/-- Appending an entry that is in no list. -/
theorem spliceLast (represents : Represents links live lists)
    (alive : live list) (fresh : ∀ list, item ∉ lists list) :
    Represents
      (links.splice (links.prev (.head list)) (.entry item) (.head list))
      live (pushLast lists list item) where
  ring other otherAlive := by
    by_cases same : other = list
    · subst same
      have outside : Node.entry item ∉
          Node.head other :: (lists other).map Node.entry := by
        simp [fresh other]
      simpa using (represents.ring other alive).spliceLast
        (represents.nodes_nodup other) outside
    · rw [pushLast_other same]
      refine (represents.ring other otherAlive).congr ?_ ?_ <;>
      · intro node member
        have outside := represents.nodes_disjoint same member
        have notItem : node ≠ .entry item := by
          rintro rfl
          exact fresh other (by simpa using member)
        have notHead : node ≠ .head list := by
          rintro rfl
          exact outside (by simp)
        have notLast : node ≠ links.prev (.head list) := by
          rintro rfl
          exact outside (represents.prev_head_mem alive)
        simp [Links.splice, notItem, notHead, notLast]
  dead other otherDead := by
    have different : other ≠ list := fun equality =>
      otherDead (equality ▸ alive)
    simp [pushLast, different, represents.dead other otherDead]
  nodup other := by
    by_cases same : other = list
    · subst same
      rw [pushLast_same]
      exact List.nodup_append.mpr ⟨represents.nodup other, by simp,
        fun other' inList item' isItem equality => by
          rw [equality, List.mem_singleton.mp isItem] at inList
          exact fresh other inList⟩
    · rw [pushLast_other same]
      exact represents.nodup other
  disjoint := by
    intro first second member inFirst inSecond
    rw [mem_pushLast] at inFirst inSecond
    rcases inFirst with inFirst | ⟨rfl, rfl⟩ <;>
      rcases inSecond with inSecond | ⟨rfl, equality⟩
    · exact represents.disjoint inFirst inSecond
    · exact (fresh _ (equality ▸ inFirst)).elim
    · exact (fresh _ inSecond).elim
    · rfl

/-- Prepending an entry that is in no list. -/
theorem spliceFirst (represents : Represents links live lists)
    (alive : live list) (fresh : ∀ list, item ∉ lists list) :
    Represents
      (links.splice (.head list) (.entry item) (links.next (.head list)))
      live (pushFirst lists list item) where
  ring other otherAlive := by
    by_cases same : other = list
    · subst same
      have outside : Node.entry item ∉
          Node.head other :: (lists other).map Node.entry := by
        simp [fresh other]
      simpa [pushFirst] using (represents.ring other alive).spliceFirst
        (represents.nodes_nodup other) outside
    · simp only [pushFirst, ne_eq, same, not_false_eq_true,
        Function.update_of_ne]
      refine (represents.ring other otherAlive).congr ?_ ?_ <;>
      · intro node member
        have outside := represents.nodes_disjoint same member
        have notItem : node ≠ .entry item := by
          rintro rfl
          exact fresh other (by simpa using member)
        have notHead : node ≠ .head list := by
          rintro rfl
          exact outside (by simp)
        have notFirst : node ≠ links.next (.head list) := by
          rintro rfl
          exact outside (represents.next_head_mem alive)
        simp [Links.splice, notItem, notHead, notFirst]
  dead other otherDead := by
    have different : other ≠ list := fun equality =>
      otherDead (equality ▸ alive)
    simp [pushFirst, different, represents.dead other otherDead]
  nodup other := by
    by_cases same : other = list
    · subst same
      simpa [pushFirst] using ⟨fresh other, represents.nodup other⟩
    · simpa [pushFirst, same] using represents.nodup other
  disjoint := by
    intro first second member inFirst inSecond
    rw [mem_pushFirst] at inFirst inSecond
    rcases inFirst with inFirst | ⟨rfl, rfl⟩ <;>
      rcases inSecond with inSecond | ⟨rfl, equality⟩
    · exact represents.disjoint inFirst inSecond
    · exact (fresh _ (equality ▸ inFirst)).elim
    · exact (fresh _ inSecond).elim
    · rfl

omit [DecidableEq Head] in
theorem mem_drop (represents : Represents links live lists) {member : Entry} :
    member ∈ UsbBulk.drop lists item list ↔
      member ≠ item ∧ member ∈ lists list :=
  (represents.nodup list).mem_erase_iff

/-- A node outside the list that the entry is unlinked from keeps its links. -/
private theorem unlink_outside (represents : Represents links live lists)
    (member : item ∈ lists list) {node : Node Head Entry}
    (outside : node ∉ Node.head list :: (lists list).map Node.entry) :
    (links.unlink (.entry item)).next node = links.next node ∧
      (links.unlink (.entry item)).prev node = links.prev node := by
  obtain ⟨front, back, split⟩ := List.append_of_mem member
  have ring := represents.ring list (represents.live_of_mem member)
  rw [split, List.map_append, List.map_cons] at ring
  have nextMember : links.next (.entry item) ∈
      Node.head list :: (lists list).map Node.entry := by
    rw [represents.next_entry split, split]
    cases back <;> simp
  have prevMember : links.prev (.entry item) ∈
      Node.head list :: (lists list).map Node.entry := by
    have before := (Links.segment_append.mp ring).1.prev_mem
    rw [split]
    simp only [List.mem_cons, List.map_append, List.mem_append] at before ⊢
    exact before.imp_right Or.inl
  have notNext : node ≠ links.next (.entry item) := by
    rintro rfl
    exact outside nextMember
  have notPrev : node ≠ links.prev (.entry item) := by
    rintro rfl
    exact outside prevMember
  simp [Links.unlink, notNext, notPrev]

/-- Unlinking an entry that is in some list. -/
theorem unlink (represents : Represents links live lists)
    (member : item ∈ lists list) :
    Represents (links.unlink (.entry item)) live (drop lists item) where
  ring other otherAlive := by
    by_cases same : other = list
    · subst same
      obtain ⟨front, back, split⟩ := List.append_of_mem member
      have ring := represents.ring other otherAlive
      have distinct := represents.nodes_nodup other
      rw [split, List.map_append, List.map_cons] at ring distinct
      have absent : item ∉ front := by
        have nodup := represents.nodup other
        rw [split] at nodup
        intro inFront
        exact (List.nodup_append.mp nodup).2.2 item inFront item
          (by simp) rfl
      simpa [UsbBulk.drop, split, List.erase_append, absent] using
        ring.unlink distinct
    · have absent : item ∉ lists other := fun inOther =>
        same (represents.disjoint inOther member)
      rw [drop_of_absent absent]
      refine (represents.ring other otherAlive).congr ?_ ?_ <;>
      · intro node inOther
        have outside := represents.unlink_outside member
          (represents.nodes_disjoint same (by
            simpa [or_comm] using inOther))
        simp [outside]
  dead other otherDead := by
    simp [UsbBulk.drop, represents.dead other otherDead]
  nodup other := (represents.nodup other).erase item
  disjoint inFirst inSecond :=
    represents.disjoint (List.mem_of_mem_erase inFirst)
      (List.mem_of_mem_erase inSecond)

/-- The stale `next` link of an entry still leads to its former successor. -/
theorem unlink_next (represents : Represents links live lists)
    (member : item ∈ lists list) :
    (links.unlink (.entry item)).next (.entry item) =
      links.next (.entry item) := by
  obtain ⟨front, back, split⟩ := List.append_of_mem member
  have ring := represents.ring list (represents.live_of_mem member)
  rw [split, List.map_append, List.map_cons] at ring
  have before := (Links.segment_append.mp ring).1.prev_mem
  have notSelf : Node.entry item ≠ links.prev (.entry item) := by
    intro self
    rw [← self] at before
    have inFront : item ∈ front := by simpa using before
    have nodup := represents.nodup list
    rw [split] at nodup
    exact (List.nodup_append.mp nodup).2.2 item inFront item (by simp) rfl
  simp [Links.unlink, notSelf]

omit [DecidableEq Head] [DecidableEq Entry] in
/-- An entry of a list is not linked to itself. -/
theorem not_alone (represents : Represents links live lists)
    (member : item ∈ lists list) : ¬ links.Alone (.entry item) := by
  obtain ⟨front, back, split⟩ := List.append_of_mem member
  rintro ⟨next, -⟩
  rw [represents.next_entry split] at next
  cases back with
  | nil => cases next
  | cons after back =>
      have nodup := represents.nodup list
      obtain rfl : after = item := by simpa using next
      simp [split, List.nodup_append] at nodup

/-- An entry in no list that is linked to itself stays so when an entry of a list
is unlinked. -/
theorem alone_unlink (represents : Represents links live lists)
    (member : item ∈ lists list) {other : Entry}
    (absent : other ∉ lists list) (alone : links.Alone (.entry other)) :
    (links.unlink (.entry item)).Alone (.entry other) := by
  have outside := represents.unlink_outside member
    (show Node.entry other ∉ Node.head list ::
      (lists list).map Node.entry by simp [absent])
  exact ⟨outside.1.trans alone.1, outside.2.trans alone.2⟩

/-- The same when another entry is appended. -/
theorem alone_spliceLast (represents : Represents links live lists)
    (alive : live list) {other : Entry} (different : other ≠ item)
    (absent : other ∉ lists list) (alone : links.Alone (.entry other)) :
    (links.splice (links.prev (.head list)) (.entry item)
      (.head list)).Alone (.entry other) := by
  have notLast : Node.entry other ≠ links.prev (.head list) := by
    intro equal
    have inList := represents.prev_head_mem alive
    rw [← equal] at inList
    simp [absent] at inList
  simpa [Links.Alone, Links.splice, different, notLast] using alone

/-- Linking an entry that is in no list to itself. -/
theorem isolate_entry (represents : Represents links live lists)
    (fresh : ∀ list, item ∉ lists list) :
    Represents (links.isolate (.entry item)) live lists where
  ring other otherAlive := by
    refine (represents.ring other otherAlive).congr ?_ ?_ <;>
    · intro node member
      have notItem : node ≠ .entry item := by
        rintro rfl
        exact fresh other (by simpa using member)
      simp [Links.isolate, notItem]
  dead := represents.dead
  nodup := represents.nodup
  disjoint := represents.disjoint

/-- Linking the head of an empty list to itself initializes it. -/
theorem isolate_head (represents : Represents links live lists)
    (empty : lists list = []) :
    Represents (links.isolate (.head list))
      (fun other => other = list ∨ live other) lists where
  ring other otherAlive := by
    by_cases same : other = list
    · subst same
      rw [empty]
      exact Links.ring_isolate links _
    · refine (represents.ring other (otherAlive.resolve_left same)).congr
        ?_ ?_ <;>
      · intro node member
        have notHead : node ≠ .head list := by
          rintro rfl
          exact represents.nodes_disjoint same member (by simp)
        simp [Links.isolate, notHead]
  dead other otherDead := represents.dead other (otherDead ∘ Or.inr)
  nodup := represents.nodup
  disjoint := represents.disjoint

end Represents

/-! ## The links are determined by the lists -/

section Determined

variable {Head Entry : Type} {links links' : Links (Node Head Entry)}
variable {live : Head → Prop} {lists : Head → List Entry} {item : Entry}

/-- A node that the lists go through: the head of a live list, or an entry. -/
def Linked (live : Head → Prop) (lists : Head → List Entry)
    (node : Node Head Entry) : Prop :=
  ∃ list, live list ∧ node ∈ Node.head list :: (lists list).map .entry

theorem Linked.ne_entry {node : Node Head Entry}
    (linked : Linked live lists node) (absent : ∀ list, item ∉ lists list) :
    node ≠ .entry item := by
  rintro rfl
  obtain ⟨list, _, member⟩ := linked
  exact absent list (by simpa using member)

/-- Other links hold the same lists if they agree on all nodes of the lists, and
only then. -/
theorem Represents.congr_iff (represents : Represents links live lists) :
    Represents links' live lists ↔ ∀ node, Linked live lists node →
      links'.next node = links.next node ∧
        links'.prev node = links.prev node := by
  constructor
  · rintro represents' node ⟨list, alive, member⟩
    obtain ⟨next, prev⟩ := (represents.ring list alive).unique
      (represents'.ring list alive)
    exact ⟨next node member, prev node (by simpa [or_comm] using member)⟩
  · intro same
    exact ⟨fun list alive => (represents.ring list alive).congr
      (fun node member => (same node ⟨list, alive, member⟩).1)
      fun node member => (same node ⟨list, alive, member⟩).2,
      represents.dead, represents.nodup, represents.disjoint⟩

end Determined

/-! ## Stale links -/

section Stale

variable {Head Entry : Type} [DecidableEq Head] [DecidableEq Entry]
variable {links : Links (Node Head Entry)} {live : Head → Prop}
variable {lists : Head → List Entry} {list : Head} {item : Entry}

/-- Unlink an entry and link it to itself. -/
def Links.discard (links : Links (Node Head Entry)) (item : Entry) :
    Links (Node Head Entry) :=
  (links.unlink (.entry item)).isolate (.entry item)

/-- What `discard` does to the other nodes. -/
theorem Links.discard_other {node : Node Head Entry}
    (other : node ≠ .entry item) :
    (links.discard item).next node =
        (if node = links.prev (.entry item) then links.next (.entry item)
        else links.next node) ∧
      (links.discard item).prev node =
        (if node = links.next (.entry item) then links.prev (.entry item)
        else links.prev node) := by
  simp [Links.discard, Links.isolate, Links.unlink, Function.update_apply, other]

/-- An entry that is in no list is unlinked by its stale links without damage if
its former neighbours, as far as they are in a list, are neighbours still. -/
theorem Represents.discard_iff (represents : Represents links live lists)
    (absent : ∀ list, item ∉ lists list) :
    Represents (links.discard item) live lists ↔
      (Linked live lists (links.prev (.entry item)) →
        links.next (links.prev (.entry item)) = links.next (.entry item)) ∧
      (Linked live lists (links.next (.entry item)) →
        links.prev (links.next (.entry item)) = links.prev (.entry item)) := by
  rw [represents.congr_iff]
  constructor
  · intro same
    refine ⟨fun linked => ?_, fun linked => ?_⟩
    · have next := (same _ linked).1
      rw [(Links.discard_other (linked.ne_entry absent)).1, if_pos rfl] at next
      exact next.symm
    · have prev := (same _ linked).2
      rw [(Links.discard_other (linked.ne_entry absent)).2, if_pos rfl] at prev
      exact prev.symm
  · rintro ⟨before, after⟩ node linked
    obtain ⟨next, prev⟩ :=
      @Links.discard_other _ _ _ _ links item node (linked.ne_entry absent)
    rw [next, prev]
    refine ⟨?_, ?_⟩
    · split
      · next same => rw [same, before (same ▸ linked)]
      · rfl
    · split
      · next same => rw [same, after (same ▸ linked)]
      · rfl

omit [DecidableEq Entry] in
theorem linked_pushLast {node : Node Head Entry} :
    Linked live (pushLast lists list item) node ↔
      Linked live lists node ∨ (live list ∧ node = .entry item) := by
  constructor
  · rintro ⟨other, alive, member⟩
    rcases List.mem_cons.mp member with rfl | entry
    · exact .inl ⟨other, alive, by simp⟩
    · obtain ⟨member, inList, rfl⟩ := List.mem_map.mp entry
      rcases mem_pushLast.mp inList with before | ⟨rfl, rfl⟩
      · exact .inl ⟨other, alive, by simpa using before⟩
      · exact .inr ⟨alive, rfl⟩
  · rintro (⟨other, alive, member⟩ | ⟨alive, rfl⟩)
    · refine ⟨other, alive, ?_⟩
      rcases List.mem_cons.mp member with rfl | entry
      · exact List.mem_cons_self
      · obtain ⟨member, inList, rfl⟩ := List.mem_map.mp entry
        exact List.mem_cons_of_mem _
          (List.mem_map_of_mem (mem_pushLast.mpr (.inl inList)))
    · exact ⟨list, alive, by simp⟩

/-- The same, if the entry is appended to a list afterwards: that repairs the last
link of the list. -/
theorem Represents.discard_append_iff (represents : Represents links live lists)
    (absent : ∀ list, item ∉ lists list) (alive : live list) :
    Represents ((links.discard item).splice
        ((links.discard item).prev (.head list)) (.entry item) (.head list))
        live (pushLast lists list item) ↔
      (Linked live lists (links.prev (.entry item)) →
        links.next (links.prev (.entry item)) = links.next (.entry item) ∨
          links.prev (.entry item) = links.prev (.head list)) ∧
      (Linked live lists (links.next (.entry item)) →
        links.prev (links.next (.entry item)) = links.prev (.entry item)) := by
  have appended := represents.spliceLast alive absent
  have headNe : Node.head list ≠ Node.entry item := by simp
  have headLinked : Linked live lists (.head list) := ⟨list, alive, by simp⟩
  have last := (@Links.discard_other _ _ _ _ links item _ headNe).2
  rw [appended.congr_iff]
  constructor
  · intro same
    -- The appended entry comes after the same node in both.
    have sameLast : (links.discard item).prev (.head list) =
        links.prev (.head list) := by
      simpa [Links.splice, headNe.symm] using (same (.entry item)
        (linked_pushLast.mpr (.inr ⟨alive, rfl⟩))).2
    refine ⟨fun linked => or_iff_not_imp_right.mpr fun notLast => ?_,
      fun linked => ?_⟩
    · have other := linked.ne_entry absent
      have next := (same _ (linked_pushLast.mpr (.inl linked))).1
      rw [sameLast] at next
      simpa [Links.splice, notLast, other, (Links.discard_other other).1]
        using next.symm
    · have other := linked.ne_entry absent
      by_cases atHead : links.next (.entry item) = .head list
      · rw [if_pos atHead.symm] at last
        rw [atHead, ← sameLast, last]
      · have prev := (same _ (linked_pushLast.mpr (.inl linked))).2
        simpa [Links.splice, atHead, other, (Links.discard_other other).2]
          using prev.symm
  · rintro ⟨before, after⟩ node linked
    have sameLast : (links.discard item).prev (.head list) =
        links.prev (.head list) := by
      rw [last]
      split
      · next same => rw [same, after (same ▸ headLinked)]
      · rfl
    rw [sameLast]
    rcases linked_pushLast.mp linked with linked | ⟨-, rfl⟩
    · have other := linked.ne_entry absent
      obtain ⟨next, prev⟩ := @Links.discard_other _ _ _ _ links item _ other
      simp only [Links.splice, Function.update_apply, other, if_false, next, prev]
      refine ⟨?_, ?_⟩
      · split
        · rfl
        · next notLast =>
          split
          · next same =>
            subst same
            exact ((before linked).resolve_right notLast).symm
          · rfl
      · split
        · rfl
        · split
          · next same =>
            subst same
            exact (after linked).symm
          · rfl
    · simp [Links.splice, Function.update_apply]

end Stale

end UsbBulk
