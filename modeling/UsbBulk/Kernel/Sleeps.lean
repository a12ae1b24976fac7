import UsbBulk.Kernel.Frames
import UsbBulk.Kernel.Registry

/-!
# How long a task sleeps

Each tick counts the timeout of a sleeping task down by one, as long as it is
positive as a signed number.  The walk of the tick over all sleeping tasks visits
each of them once, also when it wakes some of them.
-/

namespace UsbBulk

/-- The task sleeps, and its timeout comes in so many ticks. -/
structure Kernel.Sleeps (k : Kernel) (t : TaskId) (count : Nat) : Prop where
  idTask : (k.tcb t).idTask = tnIdTask
  taskState : (k.tcb t).taskState = .wait
  taskWaitReason : (k.tcb t).taskWaitReason = .sleep
  pwaitQueue : (k.tcb t).pwaitQueue = none
  tickCount : (k.tcb t).tickCount.toNat = count

/-- The wait of the task is over. -/
structure Kernel.WaitComplete (k : Kernel) (t : TaskId) : Prop where
  taskState : (k.tcb t).taskState = .runnable
  taskWaitReason : (k.tcb t).taskWaitReason = .none

/-- What a tick makes of a task that sleeps. -/
def Ticked (count : Nat) (k : Kernel) (t : TaskId) : Prop :=
  if count < 2 ^ 31 then
    if count = 1 then k.WaitComplete t else k.Sleeps t (count - 1)
  else k.Sleeps t count

section Place

variable {k k' : Kernel} {t : TaskId} {count : Nat}

theorem Kernel.Sleeps.samePlace (sleeps : k.Sleeps t count)
    (same : Tcb.SamePlace (k.tcb t) (k'.tcb t)) : k'.Sleeps t count where
  idTask := same.idTask.trans sleeps.idTask
  taskState := same.taskState.trans sleeps.taskState
  taskWaitReason := same.taskWaitReason.trans sleeps.taskWaitReason
  pwaitQueue := same.pwaitQueue.trans sleeps.pwaitQueue
  tickCount := (congrArg BitVec.toNat same.tickCount).trans sleeps.tickCount

theorem Ticked.samePlace (ticked : Ticked count k t)
    (same : Tcb.SamePlace (k.tcb t) (k'.tcb t)) : Ticked count k' t := by
  unfold Ticked at ticked ⊢
  split_ifs at ticked ⊢
  · exact ⟨same.taskState.trans ticked.taskState,
      same.taskWaitReason.trans ticked.taskWaitReason⟩
  · exact ticked.samePlace same
  · exact ticked.samePlace same

theorem Kernel.Sleeps.timed (sleeps : k.Sleeps t count)
    (finite : count ≠ 2 ^ 32 - 1) : (k.tcb t).Timed := by
  refine ⟨sleeps.idTask, ?_, fun infinite => finite ?_⟩
  · rw [sleeps.taskState]
    rfl
  · rw [← sleeps.tickCount, infinite]
    rfl

end Place

/-! ## One tick -/

section Tick

variable {rule : Rule} {k k' : Kernel} {lists : Lists} {t u : TaskId}
variable {count : Nat}

/-- `task->tick_count--`. -/
def Kernel.countDown (k : Kernel) (t : TaskId) : Kernel :=
  k.setTcb t { k.tcb t with tickCount := (k.tcb t).tickCount - 1 }

theorem Kernel.Sleeps.countDown (sleeps : k.Sleeps t count)
    (positive : count ≠ 0) : (k.countDown t).Sleeps t (count - 1) := by
  have one : (1 : Word).toNat ≤ (k.tcb t).tickCount.toNat := by
    rw [sleeps.tickCount]
    exact Nat.one_le_iff_ne_zero.mpr positive
  have less : ((k.tcb t).tickCount - 1).toNat = count - 1 := by
    rw [BitVec.toNat_sub_of_le one, sleeps.tickCount]
    rfl
  constructor <;> simp only [Kernel.countDown, Kernel.setTcb,
    Function.update_self]
  · exact sleeps.idTask
  · exact sleeps.taskState
  · exact sleeps.taskWaitReason
  · exact sleeps.pwaitQueue
  · exact less

theorem Kernel.Sleeps.expires (sleeps : k.Sleeps t 0)
    (kept : Kept rule none k lists) (fuel : Nat) :
    ∃ k', taskWaitComplete fuel k t = some (k', true) ∧
      k'.WaitComplete t := by
  have timed := sleeps.timed (by decide)
  have homeless : (k.tcb t).home = none := by
    simp [Tcb.home, sleeps.taskState, sleeps.pwaitQueue]
  have notSuspended : (k.tcb t).taskState.isSuspend = false := by
    rw [sleeps.taskState]
    rfl
  obtain ⟨front, rest, split⟩ :=
    List.append_of_mem ((kept.consistent.tasks.timed t).mpr timed)
  obtain ⟨_, _, _, completed, -⟩ :=
    kept.expire split homeless sleeps.pwaitQueue fuel
  rw [notSuspended] at completed
  refine ⟨_, completed, ?_, ?_⟩ <;>
    simp [Kernel.withTasks, Tcb.awake, notSuspended]

theorem tickTask_sleeps (kept : Kept rule none k lists)
    (sleeps : k.Sleeps t count) (positive : count ≠ 0)
    (finite : count ≠ 2 ^ 32 - 1) {fuel : Nat}
    (run : tickTask fuel k t = some k') : Ticked count k' t := by
  have timed := sleeps.timed finite
  have toNat := sleeps.tickCount
  have signed := BitVec.toInt_eq_toNat_cond (k.tcb t).tickCount
  unfold Ticked
  unfold tickTask at run
  dsimp only at run
  by_cases small : count < 2 ^ 31
  · have counts : 0 < (k.tcb t).tickCount.toInt := by omega
    have counted := sleeps.countDown positive
    have left : ((k.tcb t).tickCount - 1).toNat = count - 1 := by
      simpa [Kernel.countDown, Kernel.setTcb] using counted.tickCount
    rw [if_pos ⟨counts, timed.2.2⟩] at run
    rw [if_pos small]
    by_cases last : count = 1
    · rw [last] at counted left
      have zero : (k.tcb t).tickCount - 1 = 0 := BitVec.eq_of_toNat_eq left
      have finite' : (k.tcb t).tickCount - 1 ≠ tnWaitInfinite := by
        rw [zero]
        decide
      obtain ⟨k₁, completed, awake⟩ :=
        counted.expires (kept.tick timed finite') fuel
      rw [Kernel.countDown] at completed
      rw [if_pos zero, completed] at run
      simp only [Option.bind_eq_bind, Option.bind_some, if_true,
        Option.some.injEq] at run
      rw [if_pos last, ← run]
      constructor <;> simp only [Kernel.setTcb, Function.update_self]
      · exact awake.taskState
      · exact awake.taskWaitReason
    · have notZero : (k.tcb t).tickCount - 1 ≠ 0 := by
        intro zero
        rw [zero] at left
        change 0 = count - 1 at left
        omega
      rw [if_neg notZero, Option.some.injEq] at run
      rw [if_neg last, ← run]
      exact counted
  · have negative : ¬0 < (k.tcb t).tickCount.toInt := by
      have below := (k.tcb t).tickCount.isLt
      omega
    rw [if_neg (not_and_of_not_left _ negative), Option.some.injEq] at run
    rw [if_neg small, ← run]
    exact sleeps

/-- The walk reaches each task that is still to come exactly once. -/
theorem tickFrom_sleeps (kept : Kept rule none k lists)
    (front : List TaskId) {rest : List TaskId}
    (split : lists.timer = front ++ u :: rest)
    (plain : ∀ t ∈ u :: rest, (k.tcb t).Due → (k.tcb t).pwaitQueue = none)
    {fuel rounds : Nat} (run : tickFrom fuel rounds k (.entry u) = some k')
    (t : TaskId) :
    (t ∉ u :: rest → Tcb.SamePlace (k.tcb t) (k'.tcb t)) ∧
      (t ∈ u :: rest → ∀ count, k.Sleeps t count → count ≠ 0 →
        count ≠ 2 ^ 32 - 1 → Ticked count k' t) := by
  induction rounds generalizing k lists front u rest with
  | zero => cases run
  | succ rounds ih =>
      obtain ⟨k₁, lists₁, front₁, round, after, same, left, next⟩ :=
        tickTask_spec kept split (plain u (by simp)) fuel
      simp only [tickFrom, getTaskByTimerQueque, Option.bind_eq_bind,
        Option.bind_some, round, next] at run
      cases rest with
      | nil =>
          simp only [List.map_nil, List.headD_nil, if_true,
            Option.some.injEq] at run
          subst run
          refine ⟨fun other => same.place t fun equal => other (by simp [equal]),
            fun member count sleeps positive finite => ?_⟩
          obtain rfl := List.mem_singleton.mp member
          exact tickTask_sleeps kept sleeps positive finite round
      | cons v rest =>
          simp only [List.map_cons, List.headD_cons, reduceCtorEq, if_false]
            at run
          have nodup := kept.consistent.timer_nodup
          rw [split] at nodup
          have absent : u ∉ v :: rest :=
            (List.nodup_cons.mp (List.nodup_append.mp nodup).2.1).1
          have others : ∀ t, t ≠ u → Tcb.SamePlace (k.tcb t) (k₁.tcb t) :=
            same.place
          obtain ⟨left', later⟩ := ih after front₁ left
            (fun t member due => by
              have place := others t fun equal => absent (equal ▸ member)
              rw [place.pwaitQueue]
              exact plain t (List.mem_cons_of_mem _ member)
                ⟨place.timed.mp due.1, place.tickCount.symm.trans due.2⟩) run
          refine ⟨fun other => ?_, fun member count sleeps positive finite => ?_⟩
          · rw [List.mem_cons, not_or] at other
            exact (others t other.1).trans (left' other.2)
          · rcases List.mem_cons.mp member with rfl | member
            · exact (tickTask_sleeps kept sleeps positive finite
                round).samePlace (left' absent)
            · have place := others t fun equal => absent (equal ▸ member)
              exact later member count (sleeps.samePlace place) positive finite

theorem tnTickIntProcessing_sleeps (kept : Kept rule none k lists)
    (plain : ∀ t, (k.tcb t).Due → (k.tcb t).pwaitQueue = none)
    (context : k.wrongIntContext = false) (sleeps : k.Sleeps t count)
    (positive : count ≠ 0) (finite : count ≠ 2 ^ 32 - 1) {fuel : Nat}
    (run : tnTickIntProcessing fuel k = some k') : Ticked count k' t := by
  obtain ⟨k₁, lists₁, rotated, after, same, -⟩ := roundRobin_spec kept
  have asleep := sleeps.samePlace (same.place t trivial)
  have member := (after.consistent.tasks.timed t).mpr (asleep.timed finite)
  have some : lists₁.timer ≠ [] := List.ne_nil_of_mem member
  have first := after.consistent.timer.next_head_single
  have notEmpty : isQueueEmpty k₁.timerLinks (.head ()) = false :=
    Bool.eq_false_iff.mpr
      (mt after.consistent.timer.isQueueEmpty_single.mp some)
  obtain ⟨u, rest, split⟩ := List.exists_cons_of_ne_nil some
  rw [split, List.map_cons, List.headD_cons] at first
  rw [tnTickIntProcessing, context] at run
  simp only [Bool.false_eq_true, if_false, rotated, Option.bind_eq_bind,
    Option.bind_some, notEmpty, Bool.not_false, if_true, first] at run
  refine (tickFrom_sleeps after [] split (fun t _ due => ?_) run t).2
    (split ▸ member) count asleep positive finite
  have place := same.place t trivial
  rw [place.pwaitQueue]
  exact plain t ⟨place.timed.mp due.1, place.tickCount.symm.trans due.2⟩

end Tick

/-! ## Other tasks -/

/-- The step is about the sleep of other tasks. -/
def Action.Spares (t : TaskId) : Action → Prop
  | .call (.taskSleep _) _ | .dispatch => True
  | .call (.taskWakeup task) _ | .interrupt (.taskIwakeup task) _ =>
      task ≠ some t
  | _ => False

/-- The step is not a tick. -/
def Action.betweenTicks : Action → Bool
  | .interrupt .tickIntProcessing _ => false
  | _ => true

section Others

variable {image : Image} {allowed : Kernel → Call → Prop} {k k' : Kernel}
variable {t u : TaskId} {count : Nat} {action : Action}

/-- The number of requests that are kept does not place a task. -/
theorem samePlace_wakeupCount (k : Kernel) (u t : TaskId) (count : Nat) :
    Tcb.SamePlace (k.tcb t)
      ((k.setTcb u { k.tcb u with wakeupCount := count }).tcb t) := by
  refine Kernel.samePlace_setTcb ?_ t
  exact ⟨rfl, rfl, rfl, rfl, rfl, rfl, rfl⟩

theorem wakeupBody_spares (other : u ≠ t) (fuel : Nat) :
    Ends (wakeupBody fuel k u)
      fun after => Tcb.SamePlace (k.tcb t) (after.1.tcb t) := by
  have still : Tcb.SamePlace (k.tcb t) (k.tcb t) := .refl _
  refine ends_ite (fun _ => ends_some still) fun _ => ends_ite (fun asleep => ?_)
    fun _ => ends_ite
      (fun _ => ends_some (samePlace_wakeupCount k k.tnCurrRunTask t _))
      fun _ => ends_some still
  · have sleeps : (k.tcb u).taskWaitReason = .sleep :=
      of_decide_eq_true ((Bool.and_eq_true ..).mp asleep).2
    have plain : (k.tcb u).taskWaitReason.isMutex = false := by
      rw [sleeps]
      rfl
    refine Ends.bind (taskWaitComplete_blind fuel (blind_other other.symm) rfl
      plain) fun after same => ends_some ?_
    rw [same]
    exact still

theorem tnTaskSleep_spares (other : t ≠ k.tnCurrRunTask) (timeout : Word) :
    Ends (tnTaskSleep k timeout)
      fun after => Tcb.SamePlace (k.tcb t) (after.1.tcb t) := by
  have still : Tcb.SamePlace (k.tcb t) (k.tcb t) := .refl _
  refine ends_ite (fun _ => ends_some still) fun _ => ?_
  refine ends_ite (fun _ => ends_some still) fun _ => ?_
  refine ends_ite
    (fun _ => ends_some (samePlace_wakeupCount k k.tnCurrRunTask t _))
    fun _ => ?_
  refine Ends.bind (taskCurrToWaitAction_blind (blind_other other) rfl _ _)
    fun after same => ends_some ?_
  rw [same]
  exact still

/-- A sleeping task stays where it is when others go to sleep or wake up. -/
theorem Step.spares (step : Step image allowed k action k')
    (spares : action.Spares t) (sleeps : k.Sleeps t count) :
    Tcb.SamePlace (k.tcb t) (k'.tcb t) := by
  have still : Tcb.SamePlace (k.tcb t) (k.tcb t) := .refl _
  cases step with
  | dispatch run =>
      obtain ⟨next, _, result⟩ := Option.bind_eq_some_iff.mp run
      cases result
      exact still
  | @call _ call reply fuel task running notIdle may run =>
      cases call with
      | taskSleep timeout =>
          refine tnTaskSleep_spares (fun same => ?_) timeout _ run
          have asleep := sleeps.taskState
          rw [same, running] at asleep
          cases asleep
      | taskWakeup task =>
          rcases checked_eq run with ⟨rfl, _⟩ | ⟨u, rfl, _, _, _, run⟩
          · exact still
          · exact wakeupBody_spares (fun same => spares (congrArg some same))
              fuel _ run
      | _ => cases spares
  | @interrupt after call reply fuel irq may run =>
      cases call with
      | taskIwakeup task =>
          rcases checked_eq run with ⟨rfl, _⟩ | ⟨u, rfl, _, _, _, run⟩
          · exact still
          · obtain ⟨⟨k₁, reply₁⟩, body, made⟩ := Option.map_eq_some_iff.mp run
            have same := wakeupBody_spares
              (fun same => spares (congrArg some same)) fuel _ body
            dsimp only at made
            split at made <;> cases made <;> exact same
      | _ => cases spares

end Others

/-! ## Runs -/

/-- A task has gone to sleep with a timeout, and so many ticks have come since.
In between other tasks go to sleep and wake up; other services may be called if
they leave the task where it is. -/
inductive SleepRun (image : Image) (t : TaskId) (timeout : Word) :
    Kernel → Nat → Prop where
  | sleep {k k' : Kernel} {reply : Reply}
      (reachable : Reachable image image.Untimed k)
      (curr : k.tnCurrRunTask = t) (zero : (k.tcb t).wakeupCount = 0)
      (context : k.wrongNonIntContext = false)
      (step : Step image image.Untimed k (.call (.taskSleep timeout) reply)
        k') : SleepRun image t timeout k' 0
  | tick {k k' : Kernel} {ticks : Nat} {reply : Reply}
      (before : SleepRun image t timeout k ticks)
      (step : Step image image.Untimed k
        (.interrupt .tickIntProcessing reply) k') :
      SleepRun image t timeout k' (ticks + 1)
  | other {k k' : Kernel} {ticks : Nat} {action : Action}
      (before : SleepRun image t timeout k ticks)
      (step : Step image image.Untimed k action k')
      (between : action.betweenTicks = true)
      (undisturbed : action.Spares t ∨
        Tcb.SamePlace (k.tcb t) (k'.tcb t)) :
      SleepRun image t timeout k' ticks

section Runs

variable {image : Image} {k k' : Kernel} {t : TaskId} {timeout : Word}
variable {ticks count : Nat} {reply : Reply}

theorem SleepRun.reachable (run : SleepRun image t timeout k ticks) :
    Reachable image image.Untimed k := by
  induction run with
  | sleep reachable _ _ _ step => exact .next reachable step
  | tick _ step before => exact .next before step
  | other _ step _ _ before => exact .next before step

theorem tnTaskSleep_sleeps (isTask : (k.tcb k.tnCurrRunTask).idTask = tnIdTask)
    (plain : (k.tcb k.tnCurrRunTask).pwaitQueue = none)
    (accepted : timeout ≠ 0) (context : k.wrongNonIntContext = false)
    (zero : (k.tcb k.tnCurrRunTask).wakeupCount = 0) :
    Ends (tnTaskSleep k timeout)
      (·.1.Sleeps k.tnCurrRunTask timeout.toNat) := by
  refine ends_ite (fun refused => absurd refused accepted) fun _ => ?_
  refine ends_ite (fun wrong => ?_) fun _ => ?_
  · rw [context] at wrong
    cases wrong
  refine ends_ite (fun some => absurd zero (Nat.ne_of_gt some)) fun _ => ?_
  suffices waits : Ends (taskCurrToWaitAction k none .sleep timeout)
      (·.Sleeps k.tnCurrRunTask timeout.toNat) from
    waits.bind fun _ sleeps => ends_some sleeps
  have same : Ends (taskToNonRunnable k k.tnCurrRunTask)
      (fun after => id after.tcb = k.tcb) := taskToNonRunnable_blind rfl
  refine same.bind fun k₁ same => ?_
  rw [id] at same
  have stored : (k₁.setTcb k.tnCurrRunTask { k₁.tcb k.tnCurrRunTask with
      taskState := .wait, taskWaitReason := .sleep
      tickCount := timeout }).Sleeps k.tnCurrRunTask timeout.toNat := by
    refine ⟨?_, ?_, ?_, ?_, ?_⟩ <;> simp [Kernel.setTcb, same, isTask, plain]
  refine ends_ite (fun _ => ends_some ?_) fun _ => ends_some stored
  exact ⟨stored.idTask, stored.taskState, stored.taskWaitReason,
    stored.pwaitQueue, stored.tickCount⟩

/-- The ticks that are left. -/
def remaining (timeout ticks : Nat) : Nat :=
  if timeout < 2 ^ 31 then timeout - ticks else timeout

theorem Step.ticked (reachable : Reachable image image.Untimed k)
    (sleeps : k.Sleeps t count) (positive : count ≠ 0)
    (finite : count ≠ 2 ^ 32 - 1)
    (step : Step image image.Untimed k
      (.interrupt .tickIntProcessing reply) k') : Ticked count k' t := by
  obtain ⟨lists, kept⟩ := reachable.kept
  have inSystem := reachable.inSystem
  have context : k.enterIrq.wrongIntContext = false := by
    simp [Kernel.wrongIntContext, Kernel.enterIrq, inSystem.tnIntCounter,
      inSystem.tnSystemRunning]
  cases step with
  | @interrupt after _ _ fuel irq may run =>
      obtain ⟨k₁, tick, made⟩ := Option.map_eq_some_iff.mp run
      cases made
      have asleep : k.enterIrq.Sleeps t count := sleeps.samePlace (.refl _)
      exact (tnTickIntProcessing_sleeps kept.enterIrq
        (fun u due => (kept.rule u).2 due.1) context asleep positive finite
        tick).samePlace (.refl _)

/-- As long as the ticks are fewer than the timeout, or the timeout is negative as
a signed number, the task sleeps. -/
theorem SleepRun.sleeps (run : SleepRun image t timeout k ticks)
    (accepted : timeout ≠ 0) (finite : timeout ≠ tnWaitInfinite)
    (early : timeout.toNat < 2 ^ 31 → ticks < timeout.toNat) :
    k.Sleeps t (remaining timeout.toNat ticks) := by
  have positive : timeout.toNat ≠ 0 := fun zero =>
    accepted (BitVec.eq_of_toNat_eq zero)
  have notInfinite : timeout.toNat ≠ 2 ^ 32 - 1 := fun infinite =>
    finite (BitVec.eq_of_toNat_eq infinite)
  induction run with
  | @sleep k k' reply reachable curr zero context step =>
      obtain ⟨lists, kept⟩ := reachable.kept
      subst curr
      cases step with
      | call fuel task running notIdle may run =>
          have plain : (k.tcb k.tnCurrRunTask).pwaitQueue = none :=
            (kept.consistent.tasks.valid _ kept.curr).notWaiting
              (by rw [running]; rfl)
          have asleep := tnTaskSleep_sleeps kept.curr plain accepted context
            zero _ run
          have all : remaining timeout.toNat 0 = timeout.toNat := by
            unfold remaining
            split <;> rfl
          rw [all]
          exact asleep
  | @tick k k' ticks reply before step ih =>
      have sleeps := ih fun small => Nat.lt_of_succ_lt (early small)
      have ticked := step.ticked before.reachable sleeps
        (by unfold remaining; split <;> omega)
        (by unfold remaining; split <;> omega)
      unfold Ticked at ticked
      unfold remaining at ticked ⊢
      by_cases small : timeout.toNat < 2 ^ 31
      · have more := early small
        rw [if_pos small, if_pos (by omega), if_neg (by omega)] at ticked
        rw [if_pos small]
        exact ticked
      · rw [if_neg small, if_neg small] at ticked
        rw [if_neg small]
        exact ticked
  | other before step between undisturbed ih =>
      have sleeps := ih early
      refine sleeps.samePlace ?_
      rcases undisturbed with spares | same
      · exact step.spares spares sleeps
      · exact same

theorem Reachable.tick_ends (reachable : Reachable image image.Untimed k) :
    ∃ enough, ∀ fuel, enough ≤ fuel →
      tnTickIntProcessing fuel k.enterIrq ≠ none := by
  obtain ⟨lists, kept⟩ := reachable.kept
  exact ⟨lists.timer.length, fun fuel enough =>
    (tnTickIntProcessing_spec kept.enterIrq
      (fun u due => (kept.rule u).2 due.1) fuel).1 enough⟩

/-- A task that sleeps with a timeout stays asleep until the tick in which the
timeout comes; in this tick its wait is over if and only if the timeout is
positive as a signed number. -/
theorem sleep_expires_iff (run : SleepRun image t timeout k ticks)
    (accepted : timeout ≠ 0) (finite : timeout ≠ tnWaitInfinite)
    (early : ticks < timeout.toNat) :
    ((k.tcb t).taskState = .wait ∧ (k.tcb t).taskWaitReason = .sleep) ∧
      (∃ enough, ∀ fuel, enough ≤ fuel →
        tnTickIntProcessing fuel k.enterIrq ≠ none) ∧
      ∀ reply k', Step image image.Untimed k
        (.interrupt .tickIntProcessing reply) k' →
        ticks + 1 = timeout.toNat →
        (k'.WaitComplete t ↔ timeout.toNat < 2 ^ 31) := by
  have sleeps := run.sleeps accepted finite fun _ => early
  have notInfinite : timeout.toNat ≠ 2 ^ 32 - 1 := fun infinite =>
    finite (BitVec.eq_of_toNat_eq infinite)
  refine ⟨⟨sleeps.taskState, sleeps.taskWaitReason⟩, run.reachable.tick_ends,
    fun reply k' step last => ?_⟩
  have ticked := step.ticked run.reachable sleeps
    (by unfold remaining; split <;> omega)
    (by unfold remaining; split <;> omega)
  unfold Ticked remaining at ticked
  by_cases small : timeout.toNat < 2 ^ 31
  · rw [if_pos small, if_pos (by omega), if_pos (by omega)] at ticked
    exact iff_of_true ticked small
  · rw [if_neg small, if_neg small] at ticked
    refine iff_of_false (fun complete => ?_) small
    have asleep := ticked.taskState
    rw [complete.taskState] at asleep
    cases asleep

theorem SleepRun.later (run : SleepRun image t timeout k ticks) (more : Nat) :
    ∃ k', SleepRun image t timeout k' (ticks + more) := by
  induction more with
  | zero => exact ⟨k, run⟩
  | succ more ih =>
      obtain ⟨k₁, run₁⟩ := ih
      obtain ⟨enough, ends⟩ := run₁.reachable.tick_ends
      obtain ⟨k₂, tick⟩ := Option.ne_none_iff_exists'.mp
        (ends enough (Nat.le_refl _))
      have may : image.Untimed k₁ .tickIntProcessing :=
        ⟨rfl, by simp [Call.stops], by simp [Call.waits]⟩
      exact ⟨_, run₁.tick (.interrupt enough rfl may
        (congrArg (Option.map fun k => (k, Reply.ret .noErr)) tick))⟩

end Runs

/-- The timer task goes to sleep after the start of the system. -/
theorem sleepRun_started {timeout : Word} {reply : Reply}
    (answers : (tnTaskSleep .started timeout).map Prod.snd = some reply) :
    ∃ k, SleepRun .sample 0 timeout k 0 :=
  ⟨_, .sleep (.start Kernel.fresh_zeroed tnStartSystem_started) rfl rfl
    rfl (.answer (.taskSleep timeout) reply 0 answers rfl rfl (by decide)
      ⟨rfl, by simp [Call.stops], by simp [Call.waits]⟩)⟩

/-- A sleep of two ticks. -/
theorem sleep_expires_iff_two : ∃ k, SleepRun .sample 0 2 k 1 ∧
    (k.tcb 0).taskState = .wait ∧
      ∀ reply k', Step .sample Image.sample.Untimed k
        (.interrupt .tickIntProcessing reply) k' → k'.WaitComplete 0 := by
  obtain ⟨k, run⟩ := @sleepRun_started 2 (.retSwitch .noErr true) rfl
  obtain ⟨k', run'⟩ := run.later 1
  obtain ⟨asleep, -, expires⟩ := sleep_expires_iff run' (by decide) (by decide)
    (by decide)
  exact ⟨k', run', asleep.1, fun reply k'' step =>
    (expires reply k'' step (by decide)).mpr (by decide)⟩

/-- With a timeout of `2 ^ 31` the task sleeps on after so many ticks. -/
theorem sleep_expires_late : ∃ k, SleepRun .sample 0 0x80000000 k (2 ^ 31) ∧
    (k.tcb 0).taskState = .wait ∧ ¬k.WaitComplete 0 := by
  obtain ⟨k, run⟩ := @sleepRun_started 0x80000000
    (.retSwitch .noErr true) rfl
  obtain ⟨k', run'⟩ := run.later (2 ^ 31)
  rw [Nat.zero_add] at run'
  have sleeps := run'.sleeps (by decide) (by decide)
    fun small => absurd small (by decide)
  refine ⟨k', run', sleeps.taskState, fun complete => ?_⟩
  have awake := complete.taskState
  rw [sleeps.taskState] at awake
  cases awake

end UsbBulk
