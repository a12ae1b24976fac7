import UsbBulk.Kernel.System

/-!
# The ready lists, the bitmap and the cached next task

What the three scheduling primitives do to these three representations of the
same thing, seen from the lists that the links hold.
-/

namespace UsbBulk

/-- The heads that exist: one ready list for each priority, and the wait lists
of the objects created so far. -/
def liveHead (live : WaitList → Prop) : QueueHead → Prop
  | .ready priority => priority < tnNumPriority
  | .wait list => live list

/-- `next` is the cached choice: a first-priority ready task, if there is any
ready task. -/
def BestReady (task : QueueHead → List TaskId) : Option TaskId → Prop
  | none => ∀ p, task (.ready p) = []
  | some next =>
      ∃ p, next ∈ task (.ready p) ∧ ∀ q < p, task (.ready q) = []

/-- A set bit for every ready list that is not empty. -/
def BitmapOf (task : QueueHead → List TaskId) (bmp : Word) : Prop :=
  ∀ p, bmp.getLsbD p = true ↔ task (.ready p) ≠ []

/-- The links, the bitmap and the cached task agree with the lists. -/
structure Scheduled (links : Links (Node QueueHead TaskId)) (bmp : Word)
    (next : Option TaskId) (live : WaitList → Prop)
    (task : QueueHead → List TaskId) : Prop where
  represents : Represents links (liveHead live) task
  bitmap : BitmapOf task bmp
  best : BestReady task next

section Bitmap

variable {task : QueueHead → List TaskId} {bmp : Word} {p : Nat}

theorem getLsbD_setBit (small : p < 32) (q : Nat) :
    (bmp ||| (1#32 <<< p)).getLsbD q = (bmp.getLsbD q || decide (q = p)) := by
  rw [BitVec.getLsbD_or, ← BitVec.twoPow_eq, BitVec.getLsbD_twoPow]
  by_cases same : q = p
  · simp [same, small]
  · simp [same, Ne.symm same]

theorem getLsbD_clearBit (q : Nat) :
    (bmp &&& ~~~ (1#32 <<< p)).getLsbD q =
      (bmp.getLsbD q && !decide (q = p)) := by
  rw [BitVec.getLsbD_and, BitVec.getLsbD_not, ← BitVec.twoPow_eq,
    BitVec.getLsbD_twoPow]
  by_cases below : q < 32
  · by_cases same : q = p
    · simp [same, same ▸ below]
    · simp [same, below, Ne.symm same]
  · simp [BitVec.getLsbD_of_ge bmp q (by omega)]

theorem BitmapOf.eq_zero_iff (bitmap : BitmapOf task bmp) :
    bmp = 0 ↔ ∀ p, task (.ready p) = [] := by
  constructor
  · intro zero p
    have bit := bitmap p
    rw [zero] at bit
    by_contra some
    simpa using bit.mpr some
  · intro none
    refine BitVec.eq_of_getLsbD_eq fun p _ => ?_
    have clear : bmp.getLsbD p ≠ true := fun set => (bitmap p).mp set (none p)
    simpa using clear

/-- The lowest set bit is the first priority with a ready task. -/
theorem BitmapOf.lowest (bitmap : BitmapOf task bmp)
    (lowest : LowestBit bmp p) :
    task (.ready p) ≠ [] ∧ ∀ q < p, task (.ready q) = [] := by
  refine ⟨(bitmap p).mp lowest.1, fun q below => ?_⟩
  by_contra some
  have set := (bitmap q).mpr some
  rw [lowest.2 q below] at set
  exact absurd set (by decide)

end Bitmap

section Primitives

variable {k : Kernel} {live : WaitList → Prop}
variable {task : QueueHead → List TaskId} {t : TaskId} {p : Nat}

/-- The first task of a ready list is what the source reads at its head. -/
theorem readyHead (represents : Represents k.taskLinks (liveHead live) task)
    (some : task (.ready p) ≠ []) :
    ∃ first ∈ task (.ready p),
      getTaskByTskQueue (k.taskLinks.next (.head (.ready p))) =
        Option.some first := by
  obtain ⟨first, rest, split⟩ := List.exists_cons_of_ne_nil some
  have member : first ∈ task (.ready p) := by simp [split]
  have alive := represents.live_of_mem member
  refine ⟨first, by simp [split], ?_⟩
  rw [represents.next_head alive, split]
  rfl

theorem findNextTaskToRun_spec
    (represents : Represents k.taskLinks (liveHead live) task)
    (bitmap : BitmapOf task k.tnReadyToRunBmp)
    (nonzero : k.tnReadyToRunBmp ≠ 0) :
    ∃ next, findNextTaskToRun k =
        some { k with tnNextTaskToRun := some next } ∧
      BestReady task (some next) := by
  obtain ⟨p, small, lowest⟩ := exists_lowestBit nonzero
  obtain ⟨ready, none⟩ := bitmap.lowest lowest
  obtain ⟨first, member, read⟩ := readyHead represents ready
  refine ⟨first, ?_, p, member, none⟩
  simp [findNextTaskToRun, ffsAsm_lowestBit small lowest, read]

/-- Removing a task of another list, or not the last one of its list, leaves a
bitmap of the smaller lists. -/
theorem BitmapOf.drop_of_some
    (represents : Represents k.taskLinks (liveHead live) task)
    {bmp : Word} (bitmap : BitmapOf task bmp)
    (member : t ∈ task (.ready p))
    (left : drop task t (.ready p) ≠ []) : BitmapOf (drop task t) bmp := by
  intro q
  rw [bitmap q]
  by_cases same : q = p
  · subst same
    exact ⟨fun _ => left, fun _ => List.ne_nil_of_mem member⟩
  · rw [drop_of_absent]
    intro other
    exact same (by simpa using represents.disjoint other member)

theorem BitmapOf.drop_of_none
    (represents : Represents k.taskLinks (liveHead live) task)
    {bmp : Word} (bitmap : BitmapOf task bmp)
    (member : t ∈ task (.ready p)) (left : drop task t (.ready p) = []) :
    BitmapOf (drop task t) (bmp &&& ~~~ (1#32 <<< p)) := by
  intro q
  rw [getLsbD_clearBit, Bool.and_eq_true, bitmap q]
  by_cases same : q = p
  · subst same
    simp [left]
  · rw [drop_of_absent]
    · simp [same]
    · intro other
      exact same (by simpa using represents.disjoint other member)

theorem BitmapOf.pushLast {bmp : Word} (bitmap : BitmapOf task bmp)
    (small : p < 32) :
    BitmapOf (pushLast task (.ready p) t) (bmp ||| (1#32 <<< p)) := by
  intro q
  rw [getLsbD_setBit small, Bool.or_eq_true, bitmap q]
  by_cases same : q = p
  · subst same
    simp
  · rw [pushLast_other (by simpa using same)]
    simp [same]

/-- The cached task stays the best one when another task leaves. -/
theorem BestReady.drop {next : TaskId} (best : BestReady task (some next))
    (represents : Represents k.taskLinks (liveHead live) task)
    (other : next ≠ t) : BestReady (drop task t) (some next) := by
  obtain ⟨q, member, none⟩ := best
  refine ⟨q, represents.mem_drop.mpr ⟨other, member⟩, fun r below => ?_⟩
  simp [UsbBulk.drop, none r below]

/-- When a task leaves and its list stays inhabited, the cached task is
replaced only if it was that task, by the new head of the list. -/
theorem BestReady.dropHead {first : TaskId}
    (best : BestReady task (some t))
    (represents : Represents k.taskLinks (liveHead live) task)
    (member : t ∈ task (.ready p))
    (inside : first ∈ UsbBulk.drop task t (.ready p)) :
    BestReady (UsbBulk.drop task t) (some first) := by
  obtain ⟨q, here, none⟩ := best
  have same : QueueHead.ready q = .ready p := represents.disjoint here member
  cases same
  exact ⟨p, inside, fun r below => by simp [UsbBulk.drop, none r below]⟩

/-- `task_to_non_runnable` takes a ready task out of its list. -/
theorem taskToNonRunnable_spec
    (scheduled : Scheduled k.taskLinks k.tnReadyToRunBmp k.tnNextTaskToRun
      live task)
    (member : t ∈ task (.ready (k.tcb t).priority)) :
    ∃ bmp next, taskToNonRunnable k t = some (k.setReady
        (queueRemoveEntry k.taskLinks (.entry t)) bmp next) ∧
      Scheduled (queueRemoveEntry k.taskLinks (.entry t)) bmp next live
        (drop task t) := by
  obtain ⟨represents, bitmap, best⟩ := scheduled
  have removed := represents.removeEntry member
  have alive := represents.live_of_mem member
  have empty := removed.isQueueEmpty_iff alive
  by_cases left : drop task t (.ready (k.tcb t).priority) = []
  · have cleared := bitmap.drop_of_none represents member left
    by_cases zero : k.tnReadyToRunBmp &&&
        ~~~ (1#32 <<< (k.tcb t).priority) = 0
    · refine ⟨_, none, ?_, removed, cleared, cleared.eq_zero_iff.mp zero⟩
      simp only [taskToNonRunnable]
      rw [if_pos (empty.mpr left), if_pos zero]
      rfl
    · obtain ⟨next, found, chosen⟩ := findNextTaskToRun_spec
        (k := k.setReady (queueRemoveEntry k.taskLinks (.entry t))
          (k.tnReadyToRunBmp &&& ~~~ (1#32 <<< (k.tcb t).priority))
          k.tnNextTaskToRun) removed cleared zero
      refine ⟨_, some next, ?_, removed, cleared, chosen⟩
      simp only [taskToNonRunnable]
      rw [if_pos (empty.mpr left), if_neg zero]
      exact found
  · have kept := bitmap.drop_of_some represents member left
    cases cached : k.tnNextTaskToRun with
    | none =>
        rw [cached] at best
        rw [best] at member
        exact absurd member (by simp)
    | some next =>
        rw [cached] at best
        by_cases self : next = t
        · subst self
          obtain ⟨first, inside, read⟩ := readyHead (k := k.setReady
            (queueRemoveEntry k.taskLinks (.entry next)) k.tnReadyToRunBmp
            k.tnNextTaskToRun) removed left
          refine ⟨_, some first, ?_, removed, kept,
            best.dropHead represents member inside⟩
          simp only [taskToNonRunnable]
          rw [if_neg (mt empty.mp left), if_pos cached]
          exact congrArg (Option.bind · _) read
        · refine ⟨k.tnReadyToRunBmp, some next, ?_, removed, kept,
            best.drop represents self⟩
          simp only [taskToNonRunnable]
          rw [if_neg (mt empty.mp left), if_neg (by simpa [cached] using self),
            ← cached]
          rfl

/-- Ready tasks are in the list of their current priority. -/
def PriorityOf (k : Kernel) (task : QueueHead → List TaskId) : Prop :=
  ∀ t p, t ∈ task (.ready p) → (k.tcb t).priority = p

theorem BestReady.pushFirst (best : BestReady task none) :
    BestReady (UsbBulk.pushLast task (.ready p) t) (some t) := by
  refine ⟨p, by simp, fun q below => ?_⟩
  rw [pushLast_other (by simp [Nat.ne_of_lt below]), best q]

/-- A new ready task becomes the best one if its priority is higher, and the
cached task stays the best one otherwise. -/
theorem BestReady.pushLast {next : TaskId} {q : Nat}
    (member : next ∈ task (.ready q))
    (none : ∀ r < q, task (.ready r) = []) :
    BestReady (UsbBulk.pushLast task (.ready p) t)
      (some (if p < q then t else next)) := by
  split
  · next less =>
      refine ⟨p, by simp, fun r below => ?_⟩
      rw [pushLast_other (by simp [Nat.ne_of_lt below])]
      exact none r (by omega)
  · next notLess =>
      refine ⟨q, by simp [member], fun r below => ?_⟩
      rw [pushLast_other (by simp; omega)]
      exact none r below

/-- `task_to_runnable` appends a task to the ready list of its priority. -/
theorem taskToRunnable_spec
    (scheduled : Scheduled k.taskLinks k.tnReadyToRunBmp k.tnNextTaskToRun
      live task)
    (priorities : PriorityOf k task)
    (small : (k.tcb t).priority < tnNumPriority)
    (fresh : ∀ list, t ∉ task list) :
    ∃ bmp next, taskToRunnable k t = (k.setTcb t { k.tcb t with
          taskState := .runnable, pwaitQueue := none }).setReady
        (queueAddTail k.taskLinks (.head (.ready (k.tcb t).priority))
          (.entry t)) bmp next ∧
      Scheduled (queueAddTail k.taskLinks
          (.head (.ready (k.tcb t).priority)) (.entry t)) bmp next live
        (pushLast task (.ready (k.tcb t).priority) t) := by
  obtain ⟨represents, bitmap, best⟩ := scheduled
  have alive : liveHead live (.ready (k.tcb t).priority) := small
  have added := represents.addTail alive fresh
  have marked := bitmap.pushLast (t := t) small
  cases cached : k.tnNextTaskToRun with
  | none =>
      rw [cached] at best
      refine ⟨_, some t, ?_, added, marked, best.pushFirst⟩
      simp only [taskToRunnable, Kernel.setTcb, Kernel.setReady, cached]
  | some next =>
      rw [cached] at best
      obtain ⟨q, member, none⟩ := best
      have different : next ≠ t := fun equality =>
        fresh _ (equality ▸ member)
      have chosen := BestReady.pushLast (p := (k.tcb t).priority) (t := t)
        member none
      refine ⟨_, _, ?_, added, marked, chosen⟩
      simp only [taskToRunnable, Kernel.setTcb, Kernel.setReady, cached,
        Function.update_of_ne different, priorities next q member]
      split <;> simp

/-- `change_running_task_priority` moves a ready task to the end of another
ready list. -/
theorem changeRunningTaskPriority_spec
    (scheduled : Scheduled k.taskLinks k.tnReadyToRunBmp k.tnNextTaskToRun
      live task)
    (priorities : PriorityOf k task)
    (member : t ∈ task (.ready (k.tcb t).priority))
    (small : p < tnNumPriority) :
    ∃ bmp next changed, changeRunningTaskPriority k t p = some
        ((k.setTcb t { k.tcb t with priority := p }).setReady
          (queueAddTail (queueRemoveEntry k.taskLinks (.entry t))
            (.head (.ready p)) (.entry t)) bmp next, changed) ∧
      Scheduled (queueAddTail (queueRemoveEntry k.taskLinks (.entry t))
          (.head (.ready p)) (.entry t)) bmp next live
        (pushLast (drop task t) (.ready p) t) := by
  obtain ⟨represents, bitmap, best⟩ := scheduled
  have removed := represents.removeEntry member
  have alive : liveHead live (.ready p) := small
  have fresh : ∀ list, t ∉ drop task t list := fun list inside =>
    (represents.mem_drop.mp inside).1 rfl
  have added := removed.addTail alive fresh
  have empty := removed.isQueueEmpty_iff (represents.live_of_mem member)
  -- The bitmap after the removal, whichever branch is taken.
  obtain ⟨bmp, cleared, clearedEq⟩ : ∃ bmp, BitmapOf (drop task t) bmp ∧
      bmp = if isQueueEmpty (queueRemoveEntry k.taskLinks (.entry t))
          (.head (.ready (k.tcb t).priority)) then
        k.tnReadyToRunBmp &&& ~~~ (1#32 <<< (k.tcb t).priority)
      else k.tnReadyToRunBmp := by
    by_cases left : drop task t (.ready (k.tcb t).priority) = []
    · exact ⟨_, bitmap.drop_of_none represents member left,
        (if_pos (empty.mpr left)).symm⟩
    · exact ⟨_, bitmap.drop_of_some represents member left,
        (if_neg (mt empty.mp left)).symm⟩
  have marked := cleared.pushLast (t := t) small
  cases cached : k.tnNextTaskToRun with
  | none =>
      rw [cached] at best
      rw [best] at member
      exact absurd member (by simp)
  | some next =>
      rw [cached] at best
      by_cases self : next = t
      · subst self
        by_cases lower : p ≥ (k.tcb next).priority
        · obtain ⟨chosen, found, bestChosen⟩ := findNextTaskToRun_spec
            (k := (k.setTcb next { k.tcb next with priority := p }).setReady
              (queueAddTail (queueRemoveEntry k.taskLinks (.entry next))
                (.head (.ready p)) (.entry next))
              (bmp ||| (1#32 <<< p)) k.tnNextTaskToRun)
            added marked (by
              intro zero
              simpa using marked.eq_zero_iff.mp zero p)
          refine ⟨_, some chosen,
            decide (chosen ≠ next) && k.tnEnableSwitchContext, ?_, added,
            marked, bestChosen⟩
          simp only [changeRunningTaskPriority, Kernel.setTcb, ← clearedEq]
          rw [if_pos cached, if_pos lower]
          refine (congrArg (Option.bind · _) found).trans ?_
          by_cases same : chosen = next <;>
            simp [same, Kernel.setReady, Kernel.setTcb]
        · refine ⟨_, some next, false, ?_, added, marked, p, by simp, ?_⟩
          · simp only [changeRunningTaskPriority, Kernel.setTcb, ← clearedEq]
            rw [if_pos cached, if_neg lower, ← cached]
            rfl
          · obtain ⟨q, here, none⟩ := best
            have same : q = (k.tcb next).priority := by
              simpa using represents.disjoint here member
            intro r below
            rw [pushLast_other (by simp [Nat.ne_of_lt below])]
            simp [drop, none r (by omega)]
      · obtain ⟨q, here, none⟩ := best
        have inside : next ∈ drop task t (.ready q) :=
          represents.mem_drop.mpr ⟨self, here⟩
        have chosen := BestReady.pushLast (p := p) (t := t) inside
          fun r below => by simp [drop, none r below]
        refine ⟨_, _, decide (p < q) && k.tnEnableSwitchContext, ?_, added,
          marked, chosen⟩
        simp only [changeRunningTaskPriority, Kernel.setTcb, ← clearedEq]
        rw [if_neg (by simpa [cached, Kernel.setTcb] using self)]
        simp only [Kernel.setReady, cached,
          Option.bind_eq_bind, Option.bind_some,
          Function.update_of_ne self, priorities next q here]
        split
        · next less => simp [less]
        · next notLess => simp [notLess]

end Primitives

/-! ## The wait lists do not take part -/

namespace Scheduled

variable {links links' : Links (Node QueueHead TaskId)} {bmp : Word}
variable {next : Option TaskId} {live : WaitList → Prop}
variable {task task' : QueueHead → List TaskId} {t : TaskId}
variable {list : WaitList}

/-- The bitmap and the cached task depend on the ready lists alone. -/
theorem of_ready (scheduled : Scheduled links bmp next live task)
    (represents : Represents links' (liveHead live) task')
    (same : ∀ p, task' (.ready p) = task (.ready p)) :
    Scheduled links' bmp next live task' := by
  refine ⟨represents, fun p => by rw [same p]; exact scheduled.bitmap p, ?_⟩
  have best := scheduled.best
  cases next with
  | none => exact fun p => (same p).trans (best p)
  | some next =>
      obtain ⟨p, inside, none⟩ := best
      refine ⟨p, ?_, fun q below => (same q).trans (none q below)⟩
      rw [same p]
      exact inside

theorem dropWait (scheduled : Scheduled links bmp next live task)
    (member : t ∈ task (.wait list)) :
    Scheduled (queueRemoveEntry links (.entry t)) bmp next live
      (drop task t) := by
  refine scheduled.of_ready (scheduled.represents.removeEntry member)
    fun p => drop_of_absent fun other => ?_
  simpa using scheduled.represents.disjoint other member

theorem pushWait (scheduled : Scheduled links bmp next live task)
    (alive : live list) (fresh : ∀ head, t ∉ task head) :
    Scheduled (queueAddTail links (.head (.wait list)) (.entry t)) bmp next
      live (pushLast task (.wait list) t) := by
  have aliveHead : liveHead live (.wait list) := alive
  exact scheduled.of_ready (scheduled.represents.addTail aliveHead fresh)
    fun p => pushLast_other (by simp)

end Scheduled

end UsbBulk
