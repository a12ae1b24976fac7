import UsbBulk.Kernel.ObjectServices

/-!
# What the timer tick preserves

A tick rotates the ready list of the running task and counts the timeouts down.
The walk over `tn_wait_timeout_list` unlinks tasks while it goes on; the links
of a task that has been unlinked are stale, but they still lead to the task that
followed it.
-/

namespace UsbBulk

/-! ## The round robin -/

section SameMembers

variable {task task' : QueueHead → List TaskId} {bmp : Word}
variable {next : Option TaskId}

theorem eq_nil_of_mem (same : ∀ u head, u ∈ task' head ↔ u ∈ task head)
    (head : QueueHead) : task' head = [] ↔ task head = [] := by
  simp only [List.eq_nil_iff_forall_not_mem, same]

theorem BitmapOf.of_mem (bitmap : BitmapOf task bmp)
    (same : ∀ u head, u ∈ task' head ↔ u ∈ task head) :
    BitmapOf task' bmp := fun p =>
  (bitmap p).trans (eq_nil_of_mem same (.ready p)).not.symm

theorem BestReady.of_mem (best : BestReady task next)
    (same : ∀ u head, u ∈ task' head ↔ u ∈ task head) :
    BestReady task' next := by
  cases next with
  | none => exact fun p => (eq_nil_of_mem same _).mpr (best p)
  | some next =>
      obtain ⟨p, member, none⟩ := best
      exact ⟨p, (same _ _).mpr member,
        fun q below => (eq_nil_of_mem same _).mpr (none q below)⟩

end SameMembers

variable {rule : Rule} {k k' : Kernel} {lists lists' : Lists} {t u : TaskId}

/-- The lists after the last task of a ready list has become its first. -/
def Lists.rotate (lists : Lists) (p : Nat) (t : TaskId) : Lists :=
  { lists with task := pushFirst (drop lists.task t) (.ready p) t }

theorem Lists.rotate_wait (lists : Lists) {p : Nat} (list : WaitList)
    (represents : Represents k.taskLinks (liveHead lists.live) lists.task)
    (member : t ∈ lists.task (.ready p)) :
    (lists.rotate p t).task (.wait list) = lists.task (.wait list) := by
  have absent : t ∉ lists.task (.wait list) := fun other => by
    simpa using represents.disjoint member other
  simp [rotate, pushFirst, drop_of_absent absent]

theorem Consistent.rotate (consistent : Consistent none k lists) {p : Nat}
    (member : t ∈ lists.task (.ready p)) :
    Consistent none { k with
        taskLinks := queueAddHead (queueRemoveEntry k.taskLinks (.entry t))
          (.head (.ready p)) (.entry t) }
      (lists.rotate p t) := by
  obtain ⟨scheduled, timer, create, tasks, live, waiters⟩ := consistent
  have represents := scheduled.represents
  have removed := represents.removeEntry member
  have absent : ∀ head, t ∉ drop lists.task t head := fun head inside =>
    (represents.mem_drop.mp inside).1 rfl
  have same : ∀ u head, u ∈ (lists.rotate p t).task head ↔
      u ∈ lists.task head := by
    intro u head
    rw [Lists.rotate, mem_pushFirst, represents.mem_drop]
    constructor
    · rintro (⟨_, inside⟩ | ⟨rfl, rfl⟩)
      · exact inside
      · exact member
    · intro inside
      by_cases equal : u = t
      · subst equal
        exact .inr ⟨represents.disjoint inside member, rfl⟩
      · exact .inl ⟨equal, inside⟩
  refine ⟨⟨removed.addHead (represents.live_of_mem member) absent,
      scheduled.bitmap.of_mem same, scheduled.best.of_mem same⟩, timer, create,
    ⟨fun u head => (same u head).trans (tasks.home u head), tasks.timed,
      tasks.created, tasks.valid⟩, live, fun list some => ?_⟩
  exact waiters list fun empty => some ((eq_nil_of_mem same _).mpr empty)

/-- What a step of the tick leaves alone: the wait lists, and, of a set of
tasks, everything that places them. -/
structure SameWaits (among : TaskId → Prop) (k k' : Kernel)
    (lists lists' : Lists) : Prop where
  waits : ∀ list, lists'.task (.wait list) = lists.task (.wait list)
  place : ∀ t, among t → Tcb.SamePlace (k.tcb t) (k'.tcb t)

theorem Tcb.SamePlace.refl (tcb : Tcb) : Tcb.SamePlace tcb tcb :=
  ⟨rfl, rfl, rfl, rfl, rfl, rfl, rfl⟩

theorem Tcb.SamePlace.trans {a b c : Tcb} (first : Tcb.SamePlace a b)
    (second : Tcb.SamePlace b c) : Tcb.SamePlace a c where
  idTask := second.idTask.trans first.idTask
  taskState := second.taskState.trans first.taskState
  priority := second.priority.trans first.priority
  basePriority := second.basePriority.trans first.basePriority
  pwaitQueue := second.pwaitQueue.trans first.pwaitQueue
  taskWaitReason := second.taskWaitReason.trans first.taskWaitReason
  tickCount := second.tickCount.trans first.tickCount

theorem Kernel.samePlace_setTcb {new : Tcb}
    (same : Tcb.SamePlace (k.tcb t) new) (u : TaskId) :
    Tcb.SamePlace (k.tcb u) ((k.setTcb t new).tcb u) := by
  by_cases equal : u = t
  · subst equal
    simpa [Kernel.setTcb] using same
  · simpa [Kernel.setTcb, equal] using Tcb.SamePlace.refl (k.tcb u)

theorem roundRobin_spec (kept : Kept rule none k lists) :
    ∃ k' lists', roundRobin k = some k' ∧ Kept rule none k' lists' ∧
      SameWaits (fun _ => True) k k' lists lists' ∧
      lists'.timer = lists.timer := by
  have small := (kept.consistent.tasks.valid _ kept.curr).priority
  have same : ∀ count, Tcb.SamePlace (k.tcb k.tnCurrRunTask)
      { k.tcb k.tnCurrRunTask with tsliceCount := count } := fun _ =>
    ⟨rfl, rfl, rfl, rfl, rfl, rfl, rfl⟩
  have still : SameWaits (fun _ => True) k k lists lists :=
    ⟨fun _ => rfl, fun t _ => .refl _⟩
  unfold roundRobin
  dsimp only
  split
  · split
    · have reset := kept.setTcb (same 0) rfl
      split
      · next several =>
          -- The list of the running task's priority is not empty.
          have alive : liveHead lists.live
              (.ready (k.tcb k.tnCurrRunTask).priority) := small
          have some : lists.task
              (.ready (k.tcb k.tnCurrRunTask).priority) ≠ [] := by
            intro empty
            have isEmpty := (reset.consistent.scheduled.represents.isQueueEmpty_iff
              alive).mpr empty
            simp [isEmpty] at several
          have split := (List.dropLast_append_getLast some).symm
          have member := List.getLast_mem some
          have removed :=
            reset.consistent.scheduled.represents.removeTail_eq split
          refine ⟨_, _, ?_, ⟨reset.consistent.rotate member, reset.rule,
            reset.curr⟩, ⟨fun list => lists.rotate_wait list
              reset.consistent.scheduled.represents member,
              fun t _ => Kernel.samePlace_setTcb (same 0) t⟩, rfl⟩
          rw [removed]
          rfl
      · exact ⟨_, lists, rfl, reset, ⟨fun _ => rfl, fun t _ =>
          Kernel.samePlace_setTcb (same 0) t⟩, rfl⟩
    · exact ⟨_, lists, rfl, kept.setTcb (same _) rfl, ⟨fun _ => rfl,
        fun t _ => Kernel.samePlace_setTcb (same _) t⟩, rfl⟩
  · exact ⟨k, lists, rfl, kept, still, rfl⟩

/-! ## The timeouts -/

/-- The task is due at the next tick. -/
def Tcb.Due (tcb : Tcb) : Prop := tcb.Timed ∧ tcb.tickCount = 1

theorem Tcb.Due.plain_home {tcb : Tcb} (due : tcb.Due)
    (plain : tcb.pwaitQueue = none) : tcb.home = none := by
  have waiting := due.1.2.1
  unfold Tcb.home
  revert waiting
  cases tcb.taskState <;> simp [TaskState.isWait, plain]

theorem Tcb.Valid.noMutex {tcb : Tcb} (valid : tcb.Valid)
    (waiting : tcb.taskState.isWait = true) (plain : tcb.pwaitQueue = none) :
    tcb.taskWaitReason.isMutex = false := by
  have fits := valid.waiting waiting
  rw [plain] at fits
  revert fits
  cases tcb.taskWaitReason <;> simp [WaitReason.fits, WaitReason.isMutex]

theorem SameWaits.of_update {new : Tcb}
    (waits : ∀ list, lists'.task (.wait list) = lists.task (.wait list))
    (tcb : k'.tcb = Function.update k.tcb u new) :
    SameWaits (· ≠ u) k k' lists lists' := by
  refine ⟨waits, fun t other => ?_⟩
  rw [tcb, Function.update_of_ne other]
  exact .refl _

theorem SameWaits.trans {among : TaskId → Prop} {k'' : Kernel}
    {lists'' : Lists} (first : SameWaits among k k' lists lists')
    (second : SameWaits among k' k'' lists' lists'') :
    SameWaits among k k'' lists lists'' where
  waits list := (second.waits list).trans (first.waits list)
  place t inside := (first.place t inside).trans (second.place t inside)

theorem Kept.request (kept : Kept rule none k lists) :
    Kept rule none { k with tnContextSwitchRequest := true } lists :=
  kept.of_objects rfl rfl rfl rfl rfl rfl rfl fun _ => rfl

theorem Kept.expire (kept : Kept rule none k lists)
    {front rest : List TaskId} (split : lists.timer = front ++ u :: rest)
    (homeless : (k.tcb u).home = none)
    (plain : (k.tcb u).pwaitQueue = none) (fuel : Nat) :
    ∃ taskLinks bmp next, UsbBulk.taskWaitComplete fuel k u = some
        (k.withTasks (Function.update k.tcb u (k.tcb u).awake) taskLinks
          (k.timerWithout u) bmp next, !(k.tcb u).taskState.isSuspend) ∧
      Kept rule none
        (k.withTasks (Function.update k.tcb u (k.tcb u).awake) taskLinks
          (k.timerWithout u) bmp next) (lists.wake u (k.tcb u)) ∧
      SameWaits (· ≠ u) k
        (k.withTasks (Function.update k.tcb u (k.tcb u).awake) taskLinks
          (k.timerWithout u) bmp next) lists (lists.wake u (k.tcb u)) ∧
      (lists.wake u (k.tcb u)).timer = front ++ rest ∧
      (k.timerWithout u).next (.entry u) =
        (rest.map Node.entry).headD (.head ()) := by
  have member : u ∈ lists.timer := by simp [split]
  obtain ⟨task, waiting, finite⟩ :=
    (kept.consistent.tasks.timed u).mp member
  have noMutex := (kept.consistent.tasks.valid u task).noMutex waiting plain
  obtain ⟨taskLinks, bmp, next, run, after⟩ :=
    (kept.to_detached homeless).taskWaitComplete task waiting noMutex fuel
  refine ⟨taskLinks, bmp, next, run, after,
    .of_update (lists.wake_wait u _) rfl, ?_, ?_⟩
  · have nodup := kept.consistent.timer_nodup
    rw [split] at nodup
    have absent : u ∉ front := fun inside =>
      (List.nodup_append.mp nodup).2.2 u inside u (by simp) rfl
    simp [Lists.wake, split, List.erase_append, absent]
  · rw [Kernel.timerWithout, if_pos finite,
      kept.consistent.timer.removeEntry_next_single member,
      kept.consistent.timer.next_entry_single split]

theorem tickTask_spec (kept : Kept rule none k lists)
    {front rest : List TaskId} (split : lists.timer = front ++ u :: rest)
    (plain : (k.tcb u).Due → (k.tcb u).pwaitQueue = none) (fuel : Nat) :
    ∃ k' lists' front', tickTask fuel k u = some k' ∧
      Kept rule none k' lists' ∧
      SameWaits (· ≠ u) k k' lists lists' ∧
      lists'.timer = front' ++ rest ∧
      k'.timerLinks.next (.entry u) =
        (rest.map Node.entry).headD (.head ()) := by
  have timed : (k.tcb u).Timed :=
    (kept.consistent.tasks.timed u).mp (by simp [split])
  have next := kept.consistent.timer.next_entry_single split
  have after : lists.timer = (front ++ [u]) ++ rest := by simp [split]
  unfold tickTask
  dsimp only
  split
  · next counts =>
      have positive : (k.tcb u).tickCount ≠ 0 := by
        intro zero
        simp [zero] at counts
      have finite : (k.tcb u).tickCount - 1 ≠ tnWaitInfinite := by
        simp only [tnWaitInfinite]
        bv_omega
      have counted := kept.tick timed finite
      have counting : SameWaits (· ≠ u) k (k.setTcb u { k.tcb u with
          tickCount := (k.tcb u).tickCount - 1 }) lists lists :=
        .of_update (fun _ => rfl) rfl
      split
      · next zero =>
          have due : (k.tcb u).Due := ⟨timed, by bv_omega⟩
          have bare := plain due
          have there : (k.setTcb u { k.tcb u with
              tickCount := (k.tcb u).tickCount - 1 }).tcb u =
              { k.tcb u with tickCount := (k.tcb u).tickCount - 1 } := by
            simp [Kernel.setTcb]
          obtain ⟨_, _, _, run, expired, woken, timer, stale⟩ :=
            counted.expire split (by rw [there]; exact due.plain_home bare)
              (by rw [there]; exact bare) fuel
          rw [run]
          simp only [Option.bind_eq_bind, Option.bind_some]
          split
          · exact ⟨_, _, front, rfl, expired.request.setTcb
              ⟨rfl, rfl, rfl, rfl, rfl, rfl, rfl⟩ rfl,
              (counting.trans woken).trans (.of_update (fun _ => rfl) rfl),
              timer, stale⟩
          · exact ⟨_, _, front, rfl, expired, counting.trans woken, timer,
              stale⟩
      · exact ⟨_, lists, front ++ [u], rfl, counted,
          counting, after, next⟩
  · exact ⟨k, lists, front ++ [u], rfl, kept,
      ⟨fun _ => rfl, fun t _ => .refl _⟩, after, next⟩

/-- The walk from the task `u` on.  It visits every remaining task once, so it
ends as soon as there are as many rounds as tasks. -/
theorem tickFrom_spec (kept : Kept rule none k lists)
    (front : List TaskId) {rest : List TaskId}
    (split : lists.timer = front ++ u :: rest)
    (plain : ∀ t ∈ u :: rest, (k.tcb t).Due → (k.tcb t).pwaitQueue = none)
    (fuel rounds : Nat) :
    ∃ k' lists', tickFrom fuel rounds k (.entry u) =
        (if rest.length < rounds then some k' else none) ∧
      Kept rule none k' lists' ∧
      ∀ list, lists'.task (.wait list) = lists.task (.wait list) := by
  induction rounds generalizing k lists front u rest with
  | zero => exact ⟨k, lists, by simp [tickFrom], kept, fun _ => rfl⟩
  | succ rounds ih =>
      obtain ⟨k₁, lists₁, front₁, run, after, same, left, next⟩ :=
        tickTask_spec kept split (plain u (by simp)) fuel
      simp only [tickFrom, getTaskByTimerQueque, Option.bind_eq_bind,
        Option.bind_some, run, next]
      cases rest with
      | nil => exact ⟨k₁, lists₁, by simp, after, same.waits⟩
      | cons v rest =>
          have nodup := kept.consistent.timer_nodup
          rw [split] at nodup
          have absent : u ∉ v :: rest :=
            (List.nodup_cons.mp (List.nodup_append.mp nodup).2.1).1
          obtain ⟨k', lists', walk, done, waits⟩ := ih after front₁ left
            fun t member due => by
              have place := same.place t fun equal =>
                absent (equal ▸ member)
              rw [place.pwaitQueue]
              refine plain t (List.mem_cons_of_mem _ member) ⟨?_, ?_⟩
              · exact place.timed.mp due.1
              · exact place.tickCount.symm.trans due.2
          refine ⟨k', lists', ?_, done, fun list =>
            (waits list).trans (same.waits list)⟩
          simp only [List.map_cons, List.headD_cons, reduceCtorEq, if_false,
            walk, List.length_cons, Nat.add_lt_add_iff_right]

/-- The whole tick, as long as every wait that it ends is a plain sleep. -/
theorem tnTickIntProcessing_spec (kept : Kept rule none k lists)
    (plain : ∀ t, (k.tcb t).Due → (k.tcb t).pwaitQueue = none) (fuel : Nat) :
    (lists.timer.length ≤ fuel → tnTickIntProcessing fuel k ≠ none) ∧
      ∀ k', tnTickIntProcessing fuel k = some k' → ∃ lists',
        Kept rule none k' lists' ∧
        ∀ list, lists'.task (.wait list) = lists.task (.wait list) := by
  unfold tnTickIntProcessing
  split
  · refine ⟨fun _ => by simp, fun k' run => ?_⟩
    cases run
    exact ⟨lists, kept, fun _ => rfl⟩
  obtain ⟨k₁, lists₁, rotated, after, same, timer⟩ := roundRobin_spec kept
  have first := after.consistent.timer.next_head_single
  have empty := after.consistent.timer.isQueueEmpty_single
  simp only [rotated, Option.bind_eq_bind, Option.bind_some]
  cases split : lists₁.timer with
  | nil =>
      rw [if_neg (by simp [empty.mpr split])]
      refine ⟨fun _ => by simp, fun k' run => ?_⟩
      cases run
      exact ⟨lists₁, after, same.waits⟩
  | cons u rest =>
      rw [if_pos (by simp [mt empty.mp (by simp [split])])]
      rw [split, List.map_cons, List.headD_cons] at first
      obtain ⟨k', lists', walk, done, waits⟩ := tickFrom_spec after []
        split (fun t _ due => by
          have place := same.place t trivial
          rw [place.pwaitQueue]
          exact plain t ⟨place.timed.mp due.1,
            place.tickCount.symm.trans due.2⟩) fuel fuel
      rw [first, walk]
      constructor
      · intro enough
        rw [← timer, split, List.length_cons] at enough
        simp [show rest.length < fuel by omega]
      · intro k'' run
        split at run
        · cases run
          exact ⟨lists', done, fun list =>
            (waits list).trans (same.waits list)⟩
        · cases run

end UsbBulk
