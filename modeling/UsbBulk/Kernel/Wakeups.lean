import UsbBulk.Kernel.Frames
import UsbBulk.Kernel.Registry

/-!
# Wake-up requests

A request that finds its task awake has to be kept for this task until it goes to
sleep.  Both services keep it in the control block of the running task instead, so
that it is kept for its task if and only if the task is the running one.
-/

namespace UsbBulk

/-- How many requests are kept for each task. -/
def Kernel.wakeupCounts (k : Kernel) (t : TaskId) : Nat := (k.tcb t).wakeupCount

/-- The task is there, has not ended and does not sleep. -/
def Kernel.Awake (k : Kernel) (t : TaskId) : Prop :=
  k.isTask t = true ∧ (k.tcb t).taskState ≠ .dormant ∧
    ¬((k.tcb t).taskState.isWait = true ∧ (k.tcb t).taskWaitReason = .sleep)

instance (k : Kernel) (t : TaskId) : Decidable (k.Awake t) :=
  inferInstanceAs (Decidable (_ ∧ _ ∧ _))

/-! ## The steps -/

def Action.answer : Action → Option Reply
  | .call _ reply | .interrupt _ reply => some reply
  | .dispatch => none

/-- The task that a step asks to wake up, in the context the service is for. -/
def Action.wakes (k : Kernel) : Action → Option TaskId
  | .call (.taskWakeup task) _ => if k.wrongNonIntContext then none else task
  | .interrupt (.taskIwakeup task) _ =>
      if k.enterIrq.wrongIntContext then none else task
  | _ => none

/-- The task that goes to sleep in a step, if no request is kept for it. -/
def Action.sleeps (k : Kernel) : Action → Option TaskId
  | .call (.taskSleep timeout) _ =>
      if timeout = 0 ∨ k.wrongNonIntContext = true then none
      else some k.tnCurrRunTask
  | _ => none

/-- The step is a call of another service. -/
def Action.foreign : Action → Bool
  | .call (.taskWakeup _) _ | .interrupt (.taskIwakeup _) _ => false
  | .call (.taskSleep _) _ | .dispatch => false
  | _ => true

/-- The requests that are to be kept after a step. -/
def Action.pendingAfter (k : Kernel) (pending : TaskId → Bool)
    (action : Action) : TaskId → Bool :=
  match action.wakes k, action.sleeps k with
  | some t, _ => if k.Awake t then Function.update pending t true else pending
  | none, some t => Function.update pending t false
  | none, none => pending

/-- A request to a task that is awake is made while this task runs; or requests
are kept already, both for this task and for the one that runs. -/
def Action.Directed (k : Kernel) (action : Action) : Prop :=
  ∀ t, action.wakes k = some t → k.Awake t → t = k.tnCurrRunTask ∨
    (k.wakeupCounts t ≠ 0 ∧ k.wakeupCounts k.tnCurrRunTask ≠ 0)

/-- What a request to a task that is awake is meant to do. -/
structure Remembered (k : Kernel) (t : TaskId) (action : Action) (k' : Kernel) :
    Prop where
  kept : k'.wakeupCounts t = 1
  answer : action.answer = some
    (.ret (if k.wakeupCounts t = 0 then .noErr else .overflow))
  others : ∀ u, u ≠ t → k'.wakeupCounts u = k.wakeupCounts u

/-- What `tn_task_sleep` is meant to do when a request is kept: the task runs on
without it. -/
structure Consumed (k : Kernel) (t : TaskId) (action : Action) (k' : Kernel) :
    Prop where
  answer : action.answer = some (.ret .noErr)
  after : k' = k.setTcb t { k.tcb t with wakeupCount := 0 }

theorem blind_wakeupCounts (t : TaskId) :
    Blind (fun tcb (u : TaskId) => (tcb u).wakeupCount) t := by
  intro tcb new shape
  funext u
  dsimp only
  by_cases here : u = t
  · subst here
    rw [Function.update_self, shape]
  · rw [Function.update_of_ne here]

/-! ## One step -/

/-- What both services do with a request to a task that is awake: it is the
running task that keeps it. -/
def Latched (k : Kernel) (rc : Terr) (k' : Kernel) : Prop :=
  (k.wakeupCounts k.tnCurrRunTask = 0 ∧ rc = .noErr ∧
    k'.wakeupCounts = Function.update k.wakeupCounts k.tnCurrRunTask 1) ∨
  (k.wakeupCounts k.tnCurrRunTask ≠ 0 ∧ rc = .overflow ∧
    k'.wakeupCounts = k.wakeupCounts)

section Steps

variable {image : Image} {allowed : Kernel → Call → Prop} {k k' : Kernel}
variable {t : TaskId} {action : Action}

theorem wakeupBody_awake (awake : k.Awake t) (fuel : Nat) :
    ∃ k' rc, wakeupBody fuel k t = some (k', .ret rc) ∧ Latched k rc k' := by
  have notAsleep : ¬((k.tcb t).taskState.isWait &&
      (k.tcb t).taskWaitReason = .sleep) = true := by
    simpa using awake.2.2
  rw [wakeupBody, if_neg awake.2.1, if_neg notAsleep]
  by_cases none : (k.tcb k.tnCurrRunTask).wakeupCount = 0
  · refine ⟨_, _, if_pos none, .inl ⟨none, rfl, ?_⟩⟩
    funext u
    by_cases here : u = k.tnCurrRunTask
    · subst here
      simp [Kernel.wakeupCounts, Kernel.setTcb, none]
    · simp [Kernel.wakeupCounts, Kernel.setTcb, here]
  · exact ⟨_, _, if_neg none, .inr ⟨none, rfl, rfl⟩⟩

theorem wakeupBody_notAwake (isTask : k.isTask t = true)
    (notAwake : ¬k.Awake t) (fuel : Nat) :
    Ends (wakeupBody fuel k t) (·.1.wakeupCounts = k.wakeupCounts) := by
  refine ends_ite (fun _ => ends_some rfl) fun alive => ends_ite
    (fun asleep => ?_) fun notAsleep => ?_
  · have sleeps : (k.tcb t).taskWaitReason = .sleep :=
      of_decide_eq_true ((Bool.and_eq_true ..).mp asleep).2
    have plain : (k.tcb t).taskWaitReason.isMutex = false := by
      rw [sleeps]
      rfl
    exact bindWith_same (taskWaitComplete_blind fuel
      (blind_wakeupCounts t) rfl plain) fun _ _ same => ends_some same
  · exact absurd ⟨isTask, alive, by simpa using notAsleep⟩ notAwake

/-- The answer of a task service and the one of its sibling for interrupts, which
has none to hold back here. -/
theorem Outcome.fromInterrupt_ret {rc : Terr} {outcome : Outcome}
    (run : outcome = some (k', .ret rc)) :
    outcome.fromInterrupt = some (k', .ret rc) := by
  rw [run]
  rfl

theorem Step.latched (step : Step image allowed k action k')
    (wakes : action.wakes k = some t) (awake : k.Awake t) :
    ∃ rc, action.answer = some (.ret rc) ∧ Latched k rc k' := by
  cases step with
  | dispatch run => cases wakes
  | @call _ call reply fuel task running notIdle may run =>
      cases call with
      | taskWakeup task =>
          obtain ⟨context, rfl⟩ := Option.ite_none_left_eq_some.mp wakes
          obtain ⟨k₁, rc, body, latched⟩ := wakeupBody_awake awake fuel
          have result : tnTaskWakeup fuel k (some t) = some (k', reply) := run
          rw [tnTaskWakeup, onTask, checked] at result
          simp only [awake.1, context, Bool.not_true, Bool.false_eq_true,
            if_false, body] at result
          cases result
          exact ⟨rc, rfl, latched⟩
      | _ => cases wakes
  | @interrupt after call reply fuel irq may run =>
      cases call with
      | taskIwakeup task =>
          obtain ⟨context, rfl⟩ := Option.ite_none_left_eq_some.mp wakes
          have awake' : k.enterIrq.Awake t := awake
          obtain ⟨k₁, rc, body, latched⟩ := wakeupBody_awake awake' fuel
          have result : tnTaskIwakeup fuel k.enterIrq (some t) =
              some (after, reply) := run
          rw [tnTaskIwakeup, onTaskInt, checked] at result
          simp only [awake'.1, context, Bool.not_true, Bool.false_eq_true,
            if_false, Outcome.fromInterrupt_ret body] at result
          cases result
          exact ⟨rc, rfl, latched⟩
      | _ => cases wakes

theorem checked_counts {object : Option Nat} {badParam valid : Nat → Bool}
    {wrongContext : Bool} {body : Nat → Outcome}
    (keeps : ∀ id, object = some id → valid id = true → wrongContext = false →
      Ends (body id) (·.1.wakeupCounts = k.wakeupCounts)) :
    Ends (checked k object badParam valid wrongContext body)
      (·.1.wakeupCounts = k.wakeupCounts) := by
  rintro ⟨k', reply⟩ run
  rcases checked_eq run with ⟨rfl, _⟩ | ⟨id, is, _, there, context, run⟩
  · rfl
  · exact keeps id is there context _ run

theorem Outcome.fromInterrupt_counts {m : TaskId → Nat} {outcome : Outcome}
    (keeps : Ends outcome (·.1.wakeupCounts = m)) :
    Ends outcome.fromInterrupt (·.1.wakeupCounts = m) := by
  intro after isAfter
  obtain ⟨before, isBefore, rfl⟩ := Option.map_eq_some_iff.mp isAfter
  exact iteWith_same (keeps before isBefore) (keeps before isBefore)

/-- Any other request, and any other step, leaves the counters alone. -/
theorem Step.counts_same (step : Step image allowed k action k')
    (wakes : ∀ t, action.wakes k = some t → ¬k.Awake t)
    (sleeps : ∀ t, action.sleeps k = some t → k.wakeupCounts t = 0)
    (own : action.foreign = false) : k'.wakeupCounts = k.wakeupCounts := by
  cases step with
  | dispatch run =>
      obtain ⟨next, _, result⟩ := Option.bind_eq_some_iff.mp run
      cases result
      rfl
  | @call _ call reply fuel task running notIdle may run =>
      cases call with
      | taskWakeup task =>
          refine checked_counts (fun id is there context => ?_) _ run
          exact wakeupBody_notAwake there
            (wakes id (by simp [Action.wakes, is, context])) fuel
      | taskSleep timeout =>
          have ends : Ends (tnTaskSleep k timeout)
              (·.1.wakeupCounts = k.wakeupCounts) := by
            refine ends_ite (fun _ => ends_some rfl) fun accepted => ?_
            refine ends_ite (fun _ => ends_some rfl) fun context => ?_
            have none := sleeps k.tnCurrRunTask
              (if_neg (not_or.mpr ⟨accepted, context⟩))
            refine ends_ite (fun some => ?_) fun _ => ?_
            · exact absurd none (Nat.ne_of_gt some)
            · exact bind_same (taskCurrToWaitAction_blind
                (blind_wakeupCounts k.tnCurrRunTask) rfl _ _)
                fun _ same => ends_some same
          exact ends _ run
      | _ => cases own
  | @interrupt _ call reply fuel irq may run =>
      cases call with
      | taskIwakeup task =>
          refine @checked_counts k.enterIrq _ _ _ _ _
            (fun id is there context => ?_) _ run
          refine Outcome.fromInterrupt_counts
            (wakeupBody_notAwake there (fun awake => ?_) fuel)
          exact wakes id (by simp [Action.wakes, is, context]) awake
      | _ => cases own

theorem Step.consumed (step : Step image allowed k action k')
    (sleeps : action.sleeps k = some t) (one : k.wakeupCounts t = 1) :
    Consumed k t action k' := by
  cases step with
  | dispatch run => cases sleeps
  | @interrupt _ call reply fuel irq may run => cases call <;> cases sleeps
  | @call _ call reply fuel task running notIdle may run =>
      cases call with
      | taskSleep timeout =>
          obtain ⟨accepted, same⟩ := Option.ite_none_left_eq_some.mp sleeps
          cases same
          rw [not_or] at accepted
          have one : (k.tcb k.tnCurrRunTask).wakeupCount = 1 := one
          have result : tnTaskSleep k timeout = some (k', reply) := run
          rw [tnTaskSleep, if_neg accepted.1, if_neg accepted.2] at result
          simp only [one, Nat.one_pos, if_true] at result
          cases result
          exact ⟨rfl, rfl⟩
      | _ => cases sleeps

/-- The request is kept for its task exactly if the step is directed. -/
theorem Latched.remembered_iff {rc : Terr} (latched : Latched k rc k')
    (answer : action.answer = some (.ret rc)) (one : k.wakeupCounts t ≤ 1) :
    Remembered k t action k' ↔ t = k.tnCurrRunTask ∨
      (k.wakeupCounts t ≠ 0 ∧ k.wakeupCounts k.tnCurrRunTask ≠ 0) := by
  rcases latched with ⟨free, rfl, after⟩ | ⟨full, rfl, after⟩
  · constructor
    · intro remembered
      by_contra other
      have apart : t ≠ k.tnCurrRunTask := fun same => other (.inl same)
      have changed := remembered.others _ (Ne.symm apart)
      rw [after, Function.update_self, free] at changed
      cases changed
    · rintro (rfl | both)
      · refine ⟨?_, ?_, fun u different => ?_⟩
        · rw [after, Function.update_self]
        · rw [answer, if_pos free]
        · rw [after, Function.update_of_ne different]
      · exact absurd free both.2
  · constructor
    · intro remembered
      by_cases same : t = k.tnCurrRunTask
      · exact .inl same
      · refine .inr ⟨fun none => ?_, full⟩
        have kept := remembered.kept
        rw [after, none] at kept
        cases kept
    · intro directed
      have nonzero : k.wakeupCounts t ≠ 0 := by
        rcases directed with rfl | both
        · exact full
        · exact both.1
      refine ⟨?_, ?_, fun u _ => congrFun after u⟩
      · rw [after]
        omega
      · rw [answer, if_neg nonzero]

end Steps

/-! ## Runs -/

/-- A run of the three services and of switches, with the requests that are to be
kept.  It starts in any state that agrees with them.  Calls of other services may
come in between if they leave the counters alone. -/
inductive WakeupRun (image : Image) (allowed : Kernel → Call → Prop) :
    Kernel → (TaskId → Bool) → Prop where
  | start {k : Kernel} {pending : TaskId → Bool}
      (agrees : ∀ t, k.wakeupCounts t = (pending t).toNat) :
      WakeupRun image allowed k pending
  | next {k k' : Kernel} {pending : TaskId → Bool} {action : Action}
      (before : WakeupRun image allowed k pending)
      (step : Step image allowed k action k')
      (directed : action.Directed k)
      (foreign : action.foreign = true → k'.wakeupCounts = k.wakeupCounts) :
      WakeupRun image allowed k' (action.pendingAfter k pending)

section Runs

variable {image : Image} {allowed : Kernel → Call → Prop} {k k' : Kernel}
variable {t : TaskId} {action : Action} {pending : TaskId → Bool}

theorem Action.own_of_wakes (wakes : action.wakes k = some t) :
    action.foreign = false := by
  cases action with
  | call call reply =>
      cases call with
      | taskWakeup task => rfl
      | _ => cases wakes
  | interrupt call reply =>
      cases call with
      | taskIwakeup task => rfl
      | _ => cases wakes
  | dispatch => rfl

theorem Action.own_of_sleeps (sleeps : action.sleeps k = some t) :
    action.foreign = false := by
  cases action with
  | call call reply =>
      cases call with
      | taskSleep timeout => rfl
      | _ => cases sleeps
  | interrupt call reply => cases call <;> cases sleeps
  | dispatch => rfl

theorem Action.sleeps_of_wakes (wakes : action.wakes k = some t) :
    action.sleeps k = none := by
  cases action with
  | call call reply =>
      cases call with
      | taskWakeup task => rfl
      | _ => cases wakes
  | interrupt call reply => cases call <;> rfl
  | dispatch => rfl

theorem Step.remembered (agrees : ∀ t, k.wakeupCounts t = (pending t).toNat)
    (step : Step image allowed k action k') (directed : action.Directed k)
    (wakes : action.wakes k = some t) (awake : k.Awake t) :
    Remembered k t action k' := by
  obtain ⟨rc, answer, latched⟩ := step.latched wakes awake
  have one : k.wakeupCounts t ≤ 1 := by
    rw [agrees]
    exact Bool.toNat_le (pending t)
  exact (latched.remembered_iff answer one).mpr (directed t wakes awake)

/-- After each step of a run the counters are those that are to be kept. -/
theorem Step.agrees (agrees : ∀ t, k.wakeupCounts t = (pending t).toNat)
    (step : Step image allowed k action k') (directed : action.Directed k)
    (foreign : action.foreign = true → k'.wakeupCounts = k.wakeupCounts)
    (u : TaskId) : k'.wakeupCounts u =
      (action.pendingAfter k pending u).toNat := by
  by_cases other : action.foreign = true
  · have quiet : action.wakes k = none ∧ action.sleeps k = none := by
      constructor
      · by_contra some
        obtain ⟨t, wakes⟩ := Option.ne_none_iff_exists'.mp some
        exact absurd other (by simp [Action.own_of_wakes wakes])
      · by_contra some
        obtain ⟨t, sleeps⟩ := Option.ne_none_iff_exists'.mp some
        exact absurd other (by simp [Action.own_of_sleeps sleeps])
    rw [foreign other, agrees, Action.pendingAfter, quiet.1, quiet.2]
  have own : action.foreign = false := Bool.eq_false_iff.mpr other
  cases wakes : action.wakes k with
  | some t =>
      by_cases awake : k.Awake t
      · have remembered := step.remembered agrees directed wakes awake
        simp only [Action.pendingAfter, wakes, if_pos awake]
        by_cases here : u = t
        · subst here
          rw [Function.update_self]
          exact remembered.kept
        · rw [Function.update_of_ne here, remembered.others u here, agrees]
      · have same := step.counts_same
          (fun t' wakes' => by
            rw [wakes] at wakes'
            cases wakes'
            exact awake)
          (fun t' sleeps => by
            rw [Action.sleeps_of_wakes wakes] at sleeps
            cases sleeps)
          own
        simp only [Action.pendingAfter, wakes, if_neg awake]
        rw [same, agrees]
  | none =>
      have noRequest : ∀ t, action.wakes k = some t → ¬k.Awake t := by
        rw [wakes]
        exact fun t impossible => nomatch impossible
      cases sleeps : action.sleeps k with
      | some t =>
          simp only [Action.pendingAfter, wakes, sleeps]
          cases waiting : pending t with
          | true =>
              have one : k.wakeupCounts t = 1 := by
                rw [agrees, waiting]
                rfl
              rw [(step.consumed sleeps one).after]
              by_cases here : u = t
              · subst here
                simp [Kernel.wakeupCounts, Kernel.setTcb]
              · rw [Function.update_of_ne here, ← agrees]
                simp [Kernel.wakeupCounts, Kernel.setTcb, here]
          | false =>
              have none : k.wakeupCounts t = 0 := by
                rw [agrees, waiting]
                rfl
              have same := step.counts_same noRequest
                (fun t' sleeps' => by
                  rw [sleeps] at sleeps'
                  cases sleeps'
                  exact none)
                own
              by_cases here : u = t
              · subst here
                rw [Function.update_self, same, none]
                rfl
              · rw [Function.update_of_ne here, same, agrees]
      | none =>
          have same := step.counts_same noRequest
            (by
              rw [sleeps]
              exact fun t impossible => nomatch impossible)
            own
          simp only [Action.pendingAfter, wakes, sleeps]
          rw [same, agrees]

theorem WakeupRun.agrees (run : WakeupRun image allowed k pending) (t : TaskId) :
    k.wakeupCounts t = (pending t).toNat := by
  induction run generalizing t with
  | start agrees => exact agrees t
  | next _ step directed foreign before =>
      exact step.agrees before directed foreign t

/-- In a run whose requests are all directed, each task has the requests that are
to be kept for it, each further request is answered as it should be, and the next
`tn_task_sleep` of a task takes the one that is kept for it. -/
theorem wakeups_remembered (run : WakeupRun image allowed k pending) :
    (∀ t, k.wakeupCounts t = (pending t).toNat) ∧
      ∀ action k', Step image allowed k action k' → action.Directed k →
        (∀ t, action.wakes k = some t → k.Awake t →
          Remembered k t action k') ∧
        (∀ t, action.wakes k = some t → ¬k.Awake t →
          k'.wakeupCounts = k.wakeupCounts) ∧
        ∀ t, action.sleeps k = some t →
          if pending t then Consumed k t action k'
          else k'.wakeupCounts = k.wakeupCounts := by
  refine ⟨run.agrees, fun action k' step directed => ⟨fun t wakes awake =>
    step.remembered run.agrees directed wakes awake,
    fun t wakes notAwake => ?_, fun t sleeps => ?_⟩⟩
  · refine step.counts_same (fun t' wakes' => ?_) (fun t' sleeps => ?_)
      (Action.own_of_wakes wakes)
    · rw [wakes] at wakes'
      cases wakes'
      exact notAwake
    · rw [Action.sleeps_of_wakes wakes] at sleeps
      cases sleeps
  · have count := run.agrees t
    split
    · next waiting =>
        rw [waiting] at count
        exact step.consumed sleeps count
    · next free =>
        rw [Bool.eq_false_iff.mpr free] at count
        refine step.counts_same (fun t' wakes => ?_) (fun t' sleeps' => ?_)
          (Action.own_of_sleeps sleeps)
        · rw [Action.sleeps_of_wakes wakes] at sleeps
          cases sleeps
        · rw [sleeps] at sleeps'
          cases sleeps'
          exact count

end Runs

/-- A task that wakes itself up. -/
theorem wakeups_remembered_self :
    let k : Kernel := { Kernel.zeroed with
      tcb := fun _ => { Kernel.zeroed.tcb 0 with
        idTask := tnIdTask, taskState := .runnable }
      tnCurrRunTask := 2, tnSystemRunning := true, irqDisabled := false }
    ∃ k', Step .sample (fun _ _ => True) k
        (.call (.taskWakeup (some 2)) (.ret .noErr)) k' ∧
      Remembered k 2 (.call (.taskWakeup (some 2)) (.ret .noErr)) k' := by
  intro k
  have step := @Step.answer .sample (fun _ _ => True) k (.taskWakeup (some 2))
    (.ret .noErr) 0 rfl rfl rfl (by decide) trivial
  exact ⟨_, step, ((wakeups_remembered
    (.start (show ∀ t, k.wakeupCounts t = (false : Bool).toNat from
      fun _ => rfl))).2 _ _ step fun t wakes _ => .inl (by
        cases wakes
        rfl)).1 2 rfl (by decide)⟩

/-- The timer task wakes up task 2, which is ready: the request is kept for the
timer task. -/
theorem wakeup_misdirected : ∃ k,
    Reachable .sample (fun _ _ => True) .withWorker ∧
      Kernel.withWorker.Awake 2 ∧
      Step .sample (fun _ _ => True) .withWorker
        (.call (.taskWakeup (some 2)) (.ret .noErr)) k ∧
      Kernel.withWorker.tnCurrRunTask = 0 ∧
      Kernel.withWorker.wakeupCounts 0 = 0 ∧
      k.wakeupCounts 2 = 0 ∧ k.wakeupCounts 0 = 1 :=
  ⟨_, .next (.start Kernel.fresh_zeroed tnStartSystem_started)
      (.answer (.taskCreate (some 2) .sample) (.ret .noErr) 0 rfl rfl rfl
        (by decide) trivial),
    by decide,
    .answer (.taskWakeup (some 2)) (.ret .noErr) 0 rfl rfl rfl (by decide)
      trivial,
    rfl, rfl, rfl, rfl⟩

end UsbBulk
