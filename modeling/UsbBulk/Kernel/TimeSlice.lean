import UsbBulk.Kernel.Frames
import UsbBulk.Kernel.Registry
import UsbBulk.Kernel.Script

/-!
# Time slices

At the end of a time slice the tick rotates the ready list of the running task.
The task that is selected to run next is not looked up again, so that the same
task goes on, slice after slice.
-/

namespace UsbBulk

/-- What the end of a time slice is meant to do: another ready task of the same
priority is selected, and a switch is requested. -/
def Rotates (k k' : Kernel) : Prop :=
  ∃ next, k'.tnNextTaskToRun = some next ∧ next ≠ k.tnCurrRunTask ∧
    (k'.tcb next).taskState = .runnable ∧
    (k'.tcb next).priority = (k.tcb k.tnCurrRunTask).priority ∧
    k'.tnContextSwitchRequest = true

/-- The time slice of the running task ends with the next tick. -/
def Kernel.SliceEnds (k : Kernel) : Prop :=
  let curr := k.tcb k.tnCurrRunTask
  k.tnTsliceTicks curr.priority ≠ 0 ∧
    curr.tsliceCount + 1 > k.tnTsliceTicks curr.priority

instance (k : Kernel) : Decidable k.SliceEnds :=
  inferInstanceAs (Decidable (_ ∧ _))

/-- No task waits for a mutex with a timeout, so that no tick gives back an
inherited priority. -/
def Kernel.MutexUntimed (k : Kernel) : Prop :=
  ∀ t, (k.tcb t).taskWaitReason.isMutex = true →
    (k.tcb t).tickCount = tnWaitInfinite

/-- The selected task is the same as before, or it has a higher priority. -/
structure Stays (k k' : Kernel) : Prop where
  priority : ∀ t, (k'.tcb t).priority = (k.tcb t).priority
  next : ∀ next, k.tnNextTaskToRun = some next →
    k'.tnNextTaskToRun = some next ∨ ∃ t, k'.tnNextTaskToRun = some t ∧
      (k.tcb t).priority < (k.tcb next).priority
  untimed : k.MutexUntimed → k'.MutexUntimed

section Steps

variable {k k' : Kernel} {t u next : TaskId}

theorem Stays.refl (k : Kernel) : Stays k k :=
  ⟨fun _ => rfl, fun _ selected => .inl selected, id⟩

theorem Stays.trans {k'' : Kernel} (first : Stays k k')
    (second : Stays k' k'') : Stays k k'' where
  priority t := (second.priority t).trans (first.priority t)
  next next selected := by
    rcases first.next next selected with same | ⟨t, other, above⟩
    · rcases second.next next same with same | ⟨t, other, above⟩
      · exact .inl same
      · rw [first.priority, first.priority] at above
        exact .inr ⟨t, other, above⟩
    · rcases second.next t other with same | ⟨t', other', above'⟩
      · exact .inr ⟨t, same, above⟩
      · rw [first.priority, first.priority] at above'
        exact .inr ⟨t', other', Nat.lt_trans above' above⟩
  untimed := second.untimed ∘ first.untimed

theorem Stays.setTcb {new : Tcb} (priority : new.priority = (k.tcb t).priority)
    (untimed : k.MutexUntimed → new.taskWaitReason.isMutex = true →
      new.tickCount = tnWaitInfinite) : Stays k (k.setTcb t new) where
  priority u := by
    by_cases here : u = t
    · subst here
      simpa [Kernel.setTcb] using priority
    · simp [Kernel.setTcb, here]
  next next is := .inl is
  untimed all u := by
    by_cases here : u = t
    · subst here
      simpa [Kernel.setTcb] using untimed all
    · simpa [Kernel.setTcb, here] using all u

theorem roundRobin_stays : Ends (roundRobin k) (Stays k ·) := by
  have counted : ∀ count, Stays k (k.setTcb k.tnCurrRunTask
      { k.tcb k.tnCurrRunTask with tsliceCount := count }) := fun count =>
    .setTcb rfl fun all => all k.tnCurrRunTask
  refine ends_ite (fun _ => ?_) fun _ => ends_some (.refl k)
  refine ends_ite (fun _ => ?_) fun _ => ends_some (counted _)
  refine ends_ite (fun _ => ?_) fun _ => ends_some (counted 0)
  -- The rotation changes the links only.
  exact ends_bind fun _ => ends_some
    ⟨(counted 0).priority, (counted 0).next, (counted 0).untimed⟩

theorem taskToRunnable_stays (notMutex :
    (k.tcb t).taskWaitReason.isMutex = false) :
    Stays k (taskToRunnable k t) := by
  have stored : Stays k (k.setTcb t { k.tcb t with
      taskState := .runnable, pwaitQueue := none }) := by
    refine .setTcb rfl fun _ mutex => ?_
    exact absurd (notMutex.symm.trans mutex) (by decide)
  unfold taskToRunnable
  dsimp only
  split
  · next nothing =>
      refine ⟨stored.priority, fun next selected => ?_, stored.untimed⟩
      have impossible : k.tnNextTaskToRun = none := nothing
      rw [impossible] at selected
      cases selected
  · next other is =>
      have selected' : k.tnNextTaskToRun = some other := is
      split
      · next above =>
          refine ⟨stored.priority, fun next selected => ?_, stored.untimed⟩
          rw [selected'] at selected
          cases selected
          refine .inr ⟨t, rfl, ?_⟩
          have same := stored.priority other
          exact Nat.lt_of_lt_of_eq above same
      · exact ⟨stored.priority, stored.next, stored.untimed⟩

/-- The end of a wait that is not for a mutex. -/
theorem taskWaitComplete_stays (fuel : Nat)
    (plain : (k.tcb t).taskWaitReason.isMutex = false) :
    Ends (taskWaitComplete fuel k t) (Stays k ·.1) := by
  have stored : Stays k (k.setTcb t (k.tcb t).waitEnded) :=
    .setTcb rfl fun _ _ => rfl
  have ended : Stays k (k.endWait t) :=
    ⟨stored.priority, stored.next, stored.untimed⟩
  rw [taskWaitComplete_eq fuel plain]
  refine ends_some ?_
  split
  · refine ended.trans (taskToRunnable_stays ?_)
    rw [Kernel.endWait_tcb]
    rfl
  · refine ended.trans (.setTcb ?_ fun _ _ => rfl)
    rw [Kernel.endWait_tcb]

theorem tickTask_stays (untimed : k.MutexUntimed) (fuel : Nat) :
    Ends (tickTask fuel k t) (Stays k ·) := by
  refine ends_ite (fun counts => ?_) fun _ => ends_some (.refl k)
  have plain : (k.tcb t).taskWaitReason.isMutex = false := by
    cases mutex : (k.tcb t).taskWaitReason.isMutex with
    | false => rfl
    | true => exact absurd (untimed t mutex) counts.2
  have counted : Stays k (k.setTcb t { k.tcb t with
      tickCount := (k.tcb t).tickCount - 1 }) := by
    refine .setTcb rfl fun _ mutex => ?_
    exact absurd (plain.symm.trans mutex) (by decide)
  refine ends_ite (fun _ => ?_) fun _ => ends_some counted
  have plain' : ((k.setTcb t { k.tcb t with
      tickCount := (k.tcb t).tickCount - 1 }).tcb t).taskWaitReason.isMutex =
      false := by
    simpa [Kernel.setTcb] using plain
  refine (taskWaitComplete_stays fuel plain').bind fun after stays =>
    ends_ite (fun _ => ends_some ?_) fun _ =>
      ends_some (counted.trans stays)
  have marked : Stays after.1 (after.1.setTcb t
      { after.1.tcb t with taskWaitRc := .timeout }) :=
    .setTcb rfl fun all => all t
  exact (counted.trans stays).trans
    ⟨marked.priority, marked.next, marked.untimed⟩

theorem tickFrom_stays (untimed : k.MutexUntimed) (fuel rounds : Nat)
    (currQue : Node Unit TaskId) :
    Ends (tickFrom fuel rounds k currQue) (Stays k ·) := by
  induction rounds generalizing k currQue with
  | zero => exact ends_none
  | succ rounds ih =>
      refine ends_bind fun _ => (tickTask_stays untimed fuel).bind
        fun after stays => ends_ite (fun _ => ends_some stays) fun _ => ?_
      intro k' run
      exact stays.trans (ih (stays.untimed untimed) _ k' run)

theorem tnTickIntProcessing_stays (untimed : k.MutexUntimed) (fuel : Nat) :
    Ends (tnTickIntProcessing fuel k) (Stays k ·) := by
  refine ends_ite (fun _ => ends_some (.refl k)) fun _ => ?_
  refine roundRobin_stays.bind fun k₁ stays => ends_ite (fun _ => ?_)
    fun _ => ends_some stays
  intro k' run
  exact stays.trans (tickFrom_stays (stays.untimed untimed) fuel fuel _ k' run)

end Steps

/-! ## Runs of ticks -/

/-- A run of ticks and switches in which a task of priority `p` stays selected,
with the task that is selected at the end of each time slice. -/
inductive SliceRun (image : Image) (allowed : Kernel → Call → Prop) (p : Nat)
    (k : Kernel) : List TaskId → Kernel → Prop where
  | start : SliceRun image allowed p k [] k
  | tick {k₁ k₂ : Kernel} {expiries : List TaskId} {reply : Reply}
      (before : SliceRun image allowed p k expiries k₁)
      (step : Step image allowed k₁ (.interrupt .tickIntProcessing reply) k₂)
      (top : ∀ next, k₂.tnNextTaskToRun = some next →
        (k₂.tcb next).priority = p) :
      SliceRun image allowed p k
        (expiries ++ if k₁.SliceEnds then k₂.tnNextTaskToRun.toList else [])
        k₂
  | switch {k₁ k₂ : Kernel} {expiries : List TaskId}
      (before : SliceRun image allowed p k expiries k₁)
      (step : Step image allowed k₁ .dispatch k₂) :
      SliceRun image allowed p k expiries k₂

section Runs

variable {image : Image} {allowed : Kernel → Call → Prop} {k k' : Kernel}
variable {reply : Reply} {expiries : List TaskId} {p : Nat}

theorem Step.stays (untimed : k.MutexUntimed)
    (step : Step image allowed k (.interrupt .tickIntProcessing reply) k') :
    Stays k k' ∧ k'.tnCurrRunTask = k.tnCurrRunTask := by
  cases step with
  | @interrupt after _ _ fuel irq may run =>
      obtain ⟨k₁, tick, made⟩ := Option.map_eq_some_iff.mp run
      cases made
      have untimed' : k.enterIrq.MutexUntimed := untimed
      have stays := tnTickIntProcessing_stays untimed' fuel after tick
      have same := tnTickIntProcessing_apart footing_apart fuel rfl after tick
      exact ⟨⟨stays.priority, stays.next, stays.untimed⟩,
        congrArg (·.mode.tnCurrRunTask) same⟩

/-- The running task is selected in every state of the run. -/
theorem SliceRun.stays (run : SliceRun image allowed p k expiries k')
    (selected : k.tnNextTaskToRun = some k.tnCurrRunTask)
    (priority : (k.tcb k.tnCurrRunTask).priority = p)
    (untimed : k.MutexUntimed) :
    k'.tnNextTaskToRun = some k.tnCurrRunTask ∧
      (k'.tcb k.tnCurrRunTask).priority = p ∧ k'.MutexUntimed ∧
      ∀ t ∈ expiries, t = k.tnCurrRunTask := by
  induction run with
  | start => exact ⟨selected, priority, untimed, by simp⟩
  | @tick k₁ k₂ expiries reply before step top ih =>
      obtain ⟨selected₁, priority₁, untimed₁, expired⟩ := ih
      obtain ⟨stays, -⟩ := step.stays untimed₁
      have selected₂ : k₂.tnNextTaskToRun = some k.tnCurrRunTask := by
        rcases stays.next _ selected₁ with same | ⟨t, other, above⟩
        · exact same
        · have equal := top t other
          rw [stays.priority] at equal
          omega
      refine ⟨selected₂, (stays.priority _).trans priority₁,
        stays.untimed untimed₁, fun t member => ?_⟩
      rw [selected₂] at member
      rcases List.mem_append.mp member with earlier | now
      · exact expired t earlier
      · split at now
        · exact List.mem_singleton.mp now
        · cases now
  | switch before step ih =>
      cases step with
      | dispatch run =>
          obtain ⟨next, _, result⟩ := Option.bind_eq_some_iff.mp run
          cases result
          exact ih

/-- Whatever the time slices are, a tick does not rotate the processor, and no
other task is selected at the end of any time slice. -/
theorem roundRobin_never_rotates
    (selected : k.tnNextTaskToRun = some k.tnCurrRunTask)
    (untimed : k.MutexUntimed) :
    (∀ reply k', Step image allowed k (.interrupt .tickIntProcessing reply)
      k' → ¬Rotates k k') ∧
    ∀ expiries k', SliceRun image allowed
        (k.tcb k.tnCurrRunTask).priority k expiries k' →
      ∀ t, t ≠ k.tnCurrRunTask → expiries.count t = 0 := by
  constructor
  · rintro reply k' step ⟨next, is, other, -, same, -⟩
    obtain ⟨stays, -⟩ := step.stays untimed
    rw [stays.priority] at same
    rcases stays.next _ selected with still | ⟨t, taken, above⟩
    · rw [still] at is
      exact other (Option.some.inj is).symm
    · rw [taken] at is
      cases is
      omega
  · intro expiries k' run t other
    obtain ⟨-, -, -, expired⟩ := run.stays selected rfl untimed
    exact List.count_eq_zero.mpr fun member => other (expired t member)

end Runs

/-! ## Two tasks of one priority -/

/-- Two ready tasks of priority 5; the slice of the first one, of one tick, has
been used up. -/
def Kernel.twoSliced : Kernel :=
  taskToRunnable (taskToRunnable
    { resetReadyLists tnNumPriority Kernel.zeroed with
      tcb := fun _ => { Kernel.zeroed.tcb 0 with
        idTask := tnIdTask, priority := 5, tsliceCount := 1 }
      tnTsliceTicks := fun _ => 1
      tnCurrRunTask := 2 } 2) 3

theorem roundRobin_never_rotates_two :
    Kernel.twoSliced.SliceEnds ∧
      (Kernel.twoSliced.tcb 3).taskState = .runnable ∧
      (tnTickIntProcessing 1 Kernel.twoSliced.enterIrq).isSome = true ∧
      ∀ reply k', Step .sample (fun _ _ => True) .twoSliced
        (.interrupt .tickIntProcessing reply) k' →
          ¬Rotates .twoSliced k' := by
  refine ⟨by decide, rfl, by decide +kernel, ?_⟩
  refine (@roundRobin_never_rotates .sample (fun _ _ => True) .twoSliced rfl
    ?_).1
  refine (taskToRunnable_stays rfl).untimed
    ((taskToRunnable_stays rfl).untimed fun t mutex => ?_)
  cases mutex

/-- Tasks 2 and 3 of priority 5 have slices of one tick, of which task 2 has used
up one. -/
def Kernel.atSliceEnd (k : Kernel) : Bool :=
  k.tnCurrRunTask = 2 ∧ k.tnTsliceTicks 5 = 1 ∧
    (k.tcb 2).taskState = .runnable ∧ (k.tcb 2).priority = 5 ∧
    (k.tcb 2).tsliceCount = 1 ∧
    (k.tcb 3).taskState = .runnable ∧ (k.tcb 3).priority = 5 ∧
    (k.tcb 0).taskState = .wait ∧
    (tnTickIntProcessing 1 k.enterIrq).any fun k' =>
      k'.tnNextTaskToRun = some 2 ∧ k'.tnContextSwitchRequest = false

/-- The second tick of task 2 leaves it selected. -/
theorem roundRobin_stuck : ∃ k k',
    Reachable .sample Image.sample.Untimed k ∧ k.tnCurrRunTask = 2 ∧
      k.tnTsliceTicks 5 = 1 ∧
      ((k.tcb 2).taskState = .runnable ∧ (k.tcb 2).priority = 5) ∧
      ((k.tcb 3).taskState = .runnable ∧ (k.tcb 3).priority = 5) ∧
      (k.tcb 2).tsliceCount = 1 ∧ (k.tcb 0).taskState = .wait ∧
      Step .sample Image.sample.Untimed k
        (.interrupt .tickIntProcessing (.ret .noErr)) k' ∧
      k'.tnNextTaskToRun = some 2 ∧ k'.tnContextSwitchRequest = false := by
  have free : ∀ move ∈ ([.task (.taskCreate (some 2) .sample),
      .task (.taskCreate (some 3) .sample), .task (.sysTsliceTicks 5 1),
      .task (.taskSleep tnWaitInfinite), .switch, .irq .tickIntProcessing] :
        List Move), move.Free Image.sample.Untimed := by
    simp [Move.Free, Image.Untimed, Call.plain, Call.stops, Call.waits]
  obtain ⟨k, reachable, found⟩ := Reachable.of_script free
    (show (Kernel.started.follow .sample 4 ⟨[0, 1, 2, 3],
      [.ready 0, .ready 5, .ready 31], []⟩ _).any Kernel.atSliceEnd = true
      by decide +kernel)
  obtain ⟨curr, slice, ready₂, prio₂, count, ready₃, prio₃, sleeps, ticked⟩ :=
    of_decide_eq_true found
  obtain ⟨k', tick, still⟩ := (Option.any_eq_true ..).mp ticked
  obtain ⟨selected, request⟩ := of_decide_eq_true still
  refine ⟨k, k'.leaveIrq, reachable, curr, slice, ⟨ready₂, prio₂⟩,
    ⟨ready₃, prio₃⟩, count, sleeps, .interrupt 1 rfl
      ⟨rfl, by simp [Call.stops], by simp [Call.waits]⟩ ?_, selected, request⟩
  exact congrArg (Option.map fun k => (k, Reply.ret .noErr)) tick

end UsbBulk
