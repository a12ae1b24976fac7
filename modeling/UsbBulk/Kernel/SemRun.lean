import UsbBulk.UnitCounter
import UsbBulk.Kernel.Context
import UsbBulk.Kernel.QueueRun

/-!
# The units of a semaphore are conserved

A semaphore with its wait list is a counter of units.  Every service on the
semaphore is one transition of the counter, and so are whole runs in which tasks
and interrupts use the semaphore without timeouts.
-/

namespace UsbBulk

/-! ## The counter of a semaphore -/

/-- The count and the waiting tasks. -/
def Kernel.counter (k : Kernel) (lists : Lists) (s : SemId) :
    UnitCounter TaskId where
  count := (k.sem s).count
  waiters := lists.task (.wait (.sem s))

/-- What a call means for a semaphore. -/
inductive SemUse where
  | acquire
  | signal
  | other
  deriving DecidableEq

def Call.semUse : Call → SemUse
  | semAcquire .. | semPolling _ | semIpolling _ => .acquire
  | semSignal _ | semIsignal _ => .signal
  | _ => .other

/-- A successful signal grants its unit to the first waiting task, if there is
one; a call that blocks makes the running task wait. -/
def semFlow (s : SemId) (k : Kernel) (reply : Reply) :
    SemUse → UnitCounter.Flow TaskId
  | .acquire =>
      if reply.rc = some .noErr then ⟨0, 1, [], []⟩
      else if reply.rc = none then ⟨0, 0, [k.tnCurrRunTask], []⟩
      else .zero
  | .signal =>
      let first := (k.firstWaiter (.sem s)).toList
      if reply.rc = some .noErr then ⟨1, first.length, [], first⟩ else .zero
  | .other => .zero

/-- The limit and the identity of a semaphore do not change. -/
structure Sem.SameShape (before after : Sem) : Prop where
  maxCount : after.maxCount = before.maxCount
  idSem : after.idSem = before.idSem

/-- The semaphore exists and is in order. -/
structure SemSound (rule : Rule) (s : SemId) (k : Kernel) (lists : Lists) :
    Prop where
  kept : Kept rule none k lists
  isSem : k.isSem s = true
  usable : k.semUnusable s = false
  counter : UnitCounter.Sound (k.sem s).maxCount (k.counter lists s)

/-- A call has done one transition of the counter, a signal is only refused when
the counter is at its limit, and the wait of the task that gets its unit is over. -/
structure Counted (rule : Rule) (s : SemId) (use : SemUse) (reply : Reply)
    (k k' : Kernel) (lists lists' : Lists) : Prop where
  kept : Kept rule none k' lists'
  same : Sem.SameShape (k.sem s) (k'.sem s)
  context : SameContext k k'
  transfer : UnitCounter.Transfer (k.sem s).maxCount (k.counter lists s)
    (semFlow s k reply use) (k'.counter lists' s)
  refused : use = .signal → reply.rc ≠ some .noErr →
    (k.sem s).count = (k.sem s).maxCount
  granted : use = .signal → reply.rc = some .noErr → ∀ t,
    k.firstWaiter (.sem s) = some t →
      k'.tcb = Function.update k.tcb t (k.tcb t).awake

/-- Every answer of a service is one transition. -/
def Counts (rule : Rule) (s : SemId) (use : SemUse) (k : Kernel)
    (lists : Lists) (outcome : Outcome) : Prop :=
  outcome.Ensures fun k' reply =>
    ∃ lists', Counted rule s use reply k k' lists lists'

section Semaphore

variable {rule : Rule} {s : SemId} {k k' : Kernel} {lists lists' : Lists}
variable {use : SemUse} {reply : Reply} {t : TaskId} {rest : List TaskId}

theorem Sem.SameShape.refl (sem : Sem) : SameShape sem sem := ⟨rfl, rfl⟩

theorem Counted.sound (sound : SemSound rule s k lists)
    (counted : Counted rule s use reply k k' lists lists') :
    SemSound rule s k' lists' where
  kept := counted.kept
  isSem := by
    have valid := sound.isSem
    simp only [Kernel.isSem, decide_eq_true_eq] at valid ⊢
    rw [counted.same.idSem, valid]
  usable := by
    have usable := sound.usable
    simp only [Kernel.semUnusable, decide_eq_false_iff_not] at usable ⊢
    rwa [counted.same.maxCount]
  counter := by
    rw [counted.same.maxCount]
    exact counted.transfer.sound sound.counter

theorem Counts.fromInterrupt {outcome : Outcome}
    (counts : Counts rule s use k lists outcome) :
    Counts rule s use k lists outcome.fromInterrupt := by
  refine Outcome.Ensures.fromInterrupt counts
    fun _ _ ⟨lists', kept, same, context, transfer, refused, granted⟩ => ?_
  refine ⟨lists', kept.request, same, ?_, transfer, refused, granted⟩
  exact ⟨context.tnCurrRunTask, context.tnSystemRunning,
    context.tnIntCounter, context.irqDisabled⟩

theorem SemSound.checked (sound : SemSound rule s k lists)
    {sem : Option SemId} (this : sem = some s) {badParam : Nat → Bool}
    (param : badParam s = false) {wrongContext : Bool}
    (context : wrongContext = false) {body : Nat → Outcome}
    (counts : Counts rule s use k lists (body s)) :
    Counts rule s use k lists
      (checked k sem badParam k.isSem wrongContext body) := by
  rw [this, checked_pass param sound.isSem context]
  exact counts

theorem counted_idle
    (kept : Kept rule none k' lists') (sem : k'.sem s = k.sem s)
    (waits : lists'.task (.wait (.sem s)) = lists.task (.wait (.sem s)))
    (context : SameContext k k') (still : semFlow s k reply use = .zero)
    (answers : use ≠ .signal) :
    Counted rule s use reply k k' lists lists' where
  kept := kept
  same := by
    rw [sem]
    exact .refl _
  context := context
  transfer := by
    rw [still, Kernel.counter, Kernel.counter, sem, waits]
    exact .idle
  refused signal := absurd signal answers
  granted signal := absurd signal answers

theorem SemSound.signalBody (sound : SemSound rule s k lists)
    (fuel : Nat) : Counts rule s .signal k lists (signalBody fuel k s) := by
  have first := sound.kept.firstWaiter (.sem s) sound.isSem
  have empty : k.noWaiters (.sem s) = true ↔ _ :=
    sound.kept.noWaiters_iff sound.isSem
  cases waiting : lists.task (.wait (.sem s)) with
  | cons t rest =>
      -- The unit goes to the first waiting task.
      rw [waiting] at first
      obtain ⟨k₁, k', lists', removed, tcb, run, changed⟩ := sound.kept.wake rfl
        waiting (Tcb.SamePlace.refl _) rfl fuel
      have some : ¬ k.noWaiters (.sem s) = true := by simp [empty, waiting]
      have answer : UsbBulk.signalBody fuel k s =
          Option.some (k', .retSwitch .noErr !(k.tcb t).taskState.isSuspend) := by
        rw [← tcb, k₁.setTcb_self] at run
        rw [UsbBulk.signalBody, if_pos (by simpa using some), removed]
        change (taskWaitComplete fuel k₁ t).bind _ = _
        rw [run, tcb]
        rfl
      rw [answer]
      refine ensures_some ⟨lists', changed.kept, ?_, changed.same.context, ?_,
        fun _ refused => absurd rfl refused, fun _ _ u isFirst => ?_⟩
      · rw [changed.same.sem]
        exact .refl _
      · simp only [Kernel.counter, changed.same.sem, changed.members, waiting,
          semFlow, first, Reply.retSwitch, if_true, List.head?_cons,
          Option.toList_some, List.length_singleton]
        exact .hand
      · cases first.symm.trans isFirst
        exact changed.tcb
  | nil =>
      rw [waiting] at first
      have none : k.noWaiters (.sem s) = true := empty.mpr waiting
      rw [UsbBulk.signalBody, if_neg (by simp [none])]
      split
      · next room =>
          refine ensures_some ⟨lists, sound.kept.setSem rfl, ?_,
            ⟨rfl, rfl, rfl, rfl⟩, ?_, fun _ refused => absurd rfl refused,
            fun _ _ u isFirst => by cases first.symm.trans isFirst⟩
          · simp only [Kernel.setSem, Function.update_self]
            exact ⟨rfl, rfl⟩
          · simp only [Kernel.counter, Kernel.setSem, Function.update_self,
              waiting, semFlow, first, Reply.ret, if_true, List.head?_nil,
              Option.toList_none, List.length_nil]
            exact .raise room
      · next noRoom =>
          have bounded := sound.counter.bounded
          simp only [Kernel.counter] at bounded
          refine ensures_some ⟨lists, sound.kept, .refl _, .refl k, ?_,
            fun _ _ => by omega, fun _ done => by cases done⟩
          simp only [semFlow, Reply.ret, Option.some.injEq, reduceCtorEq,
            if_false]
          exact .idle

theorem SemSound.acquireBody (sound : SemSound rule s k lists)
    {taken : Outcome}
    (counts : ¬ 1 ≤ (k.sem s).count →
      Counts rule s .acquire k lists taken) :
    Counts rule s .acquire k lists (acquireBody k s taken) := by
  unfold UsbBulk.acquireBody
  split
  · next some =>
      refine ensures_some ⟨lists, sound.kept.setSem rfl, ?_,
        ⟨rfl, rfl, rfl, rfl⟩, ?_, by simp, by simp⟩
      · simp only [Kernel.setSem, Function.update_self]
        exact ⟨rfl, rfl⟩
      · simp only [Kernel.counter, Kernel.setSem, Function.update_self,
          semFlow, Reply.ret, if_true]
        exact .take some
  · next none => exact counts none

/-- A polling service that finds no unit answers `TERR_TIMEOUT`. -/
theorem SemSound.refuse (sound : SemSound rule s k lists) :
    Counts rule s .acquire k lists (some (k, .ret .timeout)) :=
  ensures_some ⟨lists, counted_idle sound.kept rfl rfl (.refl k)
    (by simp [semFlow, Reply.ret]) (by simp)⟩

theorem SemSound.sleep (sound : SemSound rule s k lists)
    (running : (k.tcb k.tnCurrRunTask).taskState = .runnable)
    (stop : rule.stop k.tnCurrRunTask) {timeout : Word}
    (waits : rule.waits (some (.sem s)) timeout)
    (none : ¬ 1 ≤ (k.sem s).count) :
    Counts rule s .acquire k lists (do
      let k ← taskCurrToWaitAction k (some (.sem s)) .sem timeout
      some (k, .block)) := by
  obtain ⟨k₁, lists', result, changed⟩ := sound.kept.sleep running stop waits
    (show WaitReason.fits .sem (some (.sem s)) = true from rfl) sound.isSem
  rw [result]
  refine ensures_some ⟨lists', changed.kept, ?_, changed.same.context, ?_,
    by simp, by simp⟩
  · rw [changed.same.sem]
    exact .refl _
  · simp only [Kernel.counter, changed.same.sem, changed.members, semFlow,
      Reply.block, reduceCtorEq, if_false, if_true]
    exact .wait none

theorem Quiet.counted (quiet : Quiet rule k k' lists lists') :
    Counted rule s .other reply k k' lists lists' :=
  counted_idle quiet.kept (congrFun quiet.same.sem s) (quiet.waits _)
    quiet.same.context rfl (by simp)

end Semaphore

/-! ## Steps -/

/-- The calls of a run on one semaphore: signalling it and taking a unit in every
way, without a timeout, and suspending and resuming the tasks other than the idle
task. -/
def Image.OnSem (image : Image) (s : SemId) (_ : Kernel) : Call → Prop
  | .semAcquire sem timeout => sem = some s ∧ timeout = tnWaitInfinite
  | .semPolling sem | .semIpolling sem => sem = some s
  | .semSignal sem | .semIsignal sem => sem = some s
  | .taskSuspend task => task ≠ some image.idleTask
  | .taskResume _ => True
  | _ => False

def Action.semUse : Action → SemUse
  | .call service _ | .interrupt service _ => service.semUse
  | .dispatch => .other

def Action.semFlow (s : SemId) (k : Kernel) :
    Action → UnitCounter.Flow TaskId
  | .call service reply | .interrupt service reply =>
      UsbBulk.semFlow s k reply service.semUse
  | .dispatch => .zero

/-- A successful signal hands its unit to the first waiting task. -/
theorem Action.semFlow_hand {s : SemId} {k : Kernel} {t : TaskId} :
    ∀ {action : Action}, action.semUse = .signal → action.rc = some .noErr →
      k.firstWaiter (.sem s) = some t →
        action.semFlow s k = ⟨1, 1, [], [t]⟩
  | .call service reply, signal, done, first
  | .interrupt service reply, signal, done, first => by
      have signal : service.semUse = .signal := signal
      have done : reply.rc = some .noErr := done
      simp [Action.semFlow, UsbBulk.semFlow, signal, done, first]

/-- A service is called where it may be called. -/
def Call.InContext (call : Call) (k : Kernel) : Prop :=
  if call.fromInterrupt then k.wrongIntContext = false
  else k.wrongNonIntContext = false

section Steps

variable {image : Image} {s : SemId} {k k' : Kernel} {lists : Lists}

theorem Call.exec_counts (sound : SemSound image.untimedRule s k lists)
    {call : Call} (may : image.OnSem s k call)
    (running : call.fromInterrupt = false →
      (k.tcb k.tnCurrRunTask).taskState = .runnable ∧
        k.tnCurrRunTask ≠ image.idleTask)
    (context : call.InContext k) (fuel : Nat) :
    Counts image.untimedRule s call.semUse k lists
      (call.exec image.tnTaskExit fuel k) := by
  cases call with
  | semAcquire sem timeout =>
      obtain ⟨this, rfl⟩ := may
      refine sound.checked this (by simp [sound.usable, tnWaitInfinite])
        context (sound.acquireBody ?_)
      exact sound.sleep (running rfl).1 (running rfl).2 (.inr rfl)
  | semPolling sem =>
      exact sound.checked may sound.usable context
        (sound.acquireBody fun _ => sound.refuse)
  | semIpolling sem =>
      exact sound.checked may sound.usable context
        (sound.acquireBody fun _ => sound.refuse)
  | semSignal sem =>
      exact sound.checked may sound.usable context (sound.signalBody fuel)
  | semIsignal sem =>
      exact sound.checked may sound.usable context
        (sound.signalBody fuel).fromInterrupt
  | taskSuspend task =>
      intro k' reply run
      obtain ⟨lists', quiet⟩ := tnTaskSuspend_quiet sound.kept
        (fun t isTask idle => may (by rw [isTask, idle])) run
      exact ⟨lists', quiet.counted⟩
  | taskResume task =>
      intro k' reply run
      obtain ⟨lists', quiet⟩ := tnTaskResume_quiet sound.kept run
      exact ⟨lists', quiet.counted⟩
  | _ => cases may

theorem SemSound.of_same {rule : Rule} (sound : SemSound rule s k lists)
    (kept : Kept rule none k' lists) (sem : k'.sem = k.sem) :
    SemSound rule s k' lists where
  kept := kept
  isSem := by
    rw [Kernel.isSem, sem]
    exact sound.isSem
  usable := by
    rw [Kernel.semUnusable, sem]
    exact sound.usable
  counter := by
    rw [Kernel.counter, sem]
    exact sound.counter

/-- What one step does to the semaphore. -/
structure Metered (rule : Rule) (s : SemId) (action : Action)
    (k k' : Kernel) (lists lists' : Lists) : Prop where
  sound : SemSound rule s k' lists'
  atTask : k'.AtTask
  maxCount : (k'.sem s).maxCount = (k.sem s).maxCount
  transfer : UnitCounter.Transfer (k.sem s).maxCount (k.counter lists s)
    (action.semFlow s k) (k'.counter lists' s)
  refused : action.semUse = .signal → action.rc ≠ some .noErr →
    (k.sem s).count = (k.sem s).maxCount
  granted : action.semUse = .signal → action.rc = some .noErr → ∀ t,
    k.firstWaiter (.sem s) = some t →
      k'.tcb = Function.update k.tcb t (k.tcb t).awake

theorem SemSound.step (sound : SemSound image.untimedRule s k lists)
    (atTask : k.AtTask) {action : Action}
    (step : Step image (image.OnSem s) k action k') :
    ∃ lists', Metered image.untimedRule s action k k' lists lists' := by
  have inSystem := atTask.inSystem.step step
  cases step with
  | call fuel task running notIdle may run =>
      obtain ⟨lists', counted⟩ := Call.exec_counts sound may
        (fun _ => ⟨running, notIdle⟩)
        (by simpa [Call.InContext, task] using atTask.wrongNonIntContext)
        fuel _ _ run
      exact ⟨lists', counted.sound sound,
        ⟨inSystem, counted.context.irqDisabled.trans atTask.irqDisabled⟩,
        counted.same.maxCount, counted.transfer, counted.refused,
        counted.granted⟩
  | interrupt fuel irq may run =>
      have entered := sound.of_same sound.kept.enterIrq rfl
      obtain ⟨lists', counted⟩ := Call.exec_counts entered may
        (fun task => absurd (irq.symm.trans task) (by decide))
        (by simpa [Call.InContext, irq] using atTask.wrongIntContext)
        fuel _ _ run
      have after := counted.sound entered
      exact ⟨lists', after.of_same after.kept.leaveIrq rfl, ⟨inSystem, rfl⟩,
        counted.same.maxCount, counted.transfer, counted.refused,
        counted.granted⟩
  | dispatch run =>
      have kept := sound.kept.dispatch run
      obtain ⟨next, _, result⟩ := Option.bind_eq_some_iff.mp run
      cases result
      exact ⟨lists, sound.of_same kept rfl, ⟨inSystem, atTask.irqDisabled⟩,
        rfl, .idle, fun signal => (by cases signal), fun signal => by cases signal⟩

/-- A successful creation is about a semaphore that did not exist. -/
theorem tnSemCreate_spec {startValue maxVal : Int}
    (run : tnSemCreate k (some s) startValue maxVal =
      some (k', .ret .noErr)) :
    k.isSem s = false ∧ k'.tcb = k.tcb ∧ k'.irqDisabled = k.irqDisabled ∧
      k'.sem s = ⟨startValue, maxVal, tnIdSemaphore⟩ ∧
      0 < maxVal ∧ 0 ≤ startValue ∧ startValue ≤ maxVal ∧
      k.wrongNonIntContext = false := by
  simp only [tnSemCreate, Option.bind_eq_bind, Option.bind_some] at run
  split at run
  · cases run
  next params =>
  split at run
  · cases run
  next context =>
  cases run
  simp only [not_or, Int.not_le, Int.not_lt, ne_eq, not_not] at params
  obtain ⟨positive, nonneg, bounded, fresh⟩ := params
  refine ⟨?_, rfl, rfl, by simp [Kernel.setSem], positive, nonneg, bounded,
    by simpa using context⟩
  simp [Kernel.isSem, fresh, tnIdSemaphore]

/-- A semaphore starts with its first value and without waiting tasks. -/
theorem SemSound.of_create {rule : Rule} (kept : Kept rule none k lists)
    {startValue maxVal : Int}
    (run : tnSemCreate k (some s) startValue maxVal =
      some (k', .ret .noErr)) :
    ∃ lists', SemSound rule s k' lists' ∧
      k'.counter lists' s = ⟨startValue, []⟩ := by
  obtain ⟨lists', after⟩ := tnSemCreate_keeps kept startValue maxVal _ _ run
  obtain ⟨absent, tcb, _, sem, positive, nonneg, bounded, _⟩ :=
    tnSemCreate_spec run
  have nobody := kept.nobody (.sem s) after tcb absent
  have start : k'.counter lists' s = ⟨startValue, []⟩ := by
    simp [Kernel.counter, sem, nobody]
  refine ⟨lists', ⟨after, by simp [Kernel.isSem, sem], ?_, ?_⟩, start⟩
  · simp only [Kernel.semUnusable, sem, decide_eq_false_iff_not]
    omega
  · rw [start, sem]
    exact ⟨nonneg, bounded, by simp⟩

end Steps

/-! ## Runs -/

/-- A run that starts with the creation of the semaphore, in any state that an
untimed run reaches, with everything that has happened to the units so far. -/
inductive SemRun (image : Image) (s : SemId) (startValue maxVal : Int) :
    Kernel → UnitCounter.Flow TaskId → Prop where
  | create {k k' : Kernel} (reachable : Reachable image image.Untimed k)
      (step : Step image image.Untimed k
        (.call (.semCreate (some s) startValue maxVal) (.ret .noErr)) k') :
      SemRun image s startValue maxVal k' .zero
  | next {k k' : Kernel} {action : Action} {flow : UnitCounter.Flow TaskId}
      (before : SemRun image s startValue maxVal k flow)
      (step : Step image (image.OnSem s) k action k') :
      SemRun image s startValue maxVal k' (flow.append (action.semFlow s k))

section Runs

variable {image : Image} {s : SemId} {startValue maxVal : Int} {k : Kernel}
variable {flow : UnitCounter.Flow TaskId}

/-- A run of the semaphore is a run of the counter. -/
theorem SemRun.counter (run : SemRun image s startValue maxVal k flow) :
    ∃ lists, SemSound image.untimedRule s k lists ∧ k.AtTask ∧
      (k.sem s).maxCount = maxVal ∧
      UnitCounter.Sound maxVal (⟨startValue, []⟩ : UnitCounter TaskId) ∧
      UnitCounter.Run maxVal ⟨startValue, []⟩ flow (k.counter lists s) := by
  induction run with
  | create reachable step =>
      obtain ⟨lists, kept⟩ := reachable.kept
      have inSystem := reachable.inSystem
      have after := inSystem.step step
      cases step with
      | call fuel task running notIdle may run =>
          obtain ⟨lists', sound, start⟩ := SemSound.of_create kept run
          obtain ⟨_, _, irq, sem, _, nonneg, bounded, context⟩ :=
            tnSemCreate_spec run
          refine ⟨lists', sound, ⟨after, irq.trans ?_⟩, by rw [sem],
            ⟨nonneg, bounded, by simp⟩, ?_⟩
          · simpa [Kernel.wrongNonIntContext, inSystem.tnIntCounter,
              inSystem.tnSystemRunning] using context
          · rw [start]
            exact .start
  | next _ step ih =>
      obtain ⟨lists, sound, atTask, limit, begins, run⟩ := ih
      obtain ⟨lists', metered⟩ := sound.step atTask step
      exact ⟨lists', metered.sound, metered.atTask,
        metered.maxCount.trans limit, begins,
        run.next (limit ▸ metered.transfer)⟩

/-- The units are conserved, nobody waits while there is one, whoever waits is
served in order, the wait of a task that gets a unit is over, and a signal is refused
at the limit only. -/
theorem sem_conserves (run : SemRun image s startValue maxVal k flow) :
    ∃ waiters,
      k.Waiting (.sem s) waiters ∧
      (k.sem s).maxCount = maxVal ∧
      0 ≤ (k.sem s).count ∧ (k.sem s).count ≤ (k.sem s).maxCount ∧
      (0 < (k.sem s).count → waiters = []) ∧
      startValue + flow.signalled = (k.sem s).count + flow.granted ∧
      flow.joined = flow.served ++ waiters ∧
      ∀ action k', Step image (image.OnSem s) k action k' →
        action.semUse = .signal →
          (action.rc ≠ some .noErr →
            (k.sem s).count = (k.sem s).maxCount) ∧
          (action.rc = some .noErr → ∀ t rest, waiters = t :: rest →
            k'.Waiting (.sem s) rest ∧
            (k'.tcb t).taskState.isWait = false ∧
            (k'.tcb t).taskWaitRc = .noErr ∧
            ∀ u, u ≠ t → k'.tcb u = k.tcb u) := by
  obtain ⟨lists, sound, atTask, limit, begins, run⟩ := run.counter
  obtain ⟨after, units, order⟩ := run.account begins rfl
  refine ⟨_, sound.kept.waiting (.sem s) sound.isSem, limit, after.nonneg, ?_,
    fun positive => ?_, units, order, ?_⟩
  · rw [limit]
    exact after.bounded
  · by_contra some
    have zero := after.needy some
    simp only [Kernel.counter] at zero
    omega
  · intro action k' step signal
    obtain ⟨lists', metered⟩ := sound.step atTask step
    refine ⟨metered.refused signal, fun done t rest waiting => ?_⟩
    have first := sound.kept.firstWaiter (.sem s) sound.isSem
    have waiting : lists.task (.wait (.sem s)) = t :: rest := waiting
    rw [waiting, List.head?_cons] at first
    have tcb := metered.granted signal done t first
    have order := metered.transfer.order
    rw [Action.semFlow_hand signal done first] at order
    simp only [Kernel.counter, waiting, List.append_nil, List.cons_append,
      List.nil_append, List.cons.injEq, true_and] at order
    have after := metered.sound.kept.waiting (.sem s) metered.sound.isSem
    rw [← order] at after
    refine ⟨after, ?_, ?_, fun u other => ?_⟩
    · rw [tcb, Function.update_self]
      exact Tcb.awake_not_isWait
    · rw [tcb, Function.update_self]
      rfl
    · rw [tcb, Function.update_of_ne other]

/-- The timer task waits for a unit, and an interrupt grants it one. -/
theorem sem_conserves_sample : ∃ k action k',
    SemRun .sample 0 0 2 k ⟨0, 0, [0], []⟩ ∧
      Step .sample (Image.sample.OnSem 0) k action k' ∧
      (k'.tcb 0).taskState.isWait = false ∧ k'.Waiting (.sem 0) [] := by
  have created : SemRun .sample 0 0 2 _ .zero :=
    .create (.start Kernel.fresh_zeroed tnStartSystem_started)
      (.answer (.semCreate (some 0) 0 2) _ 9 rfl rfl rfl (by decide)
        ⟨rfl, by decide, by simp [Call.waits]⟩)
  have waits : SemRun .sample 0 0 2 _ ⟨0, 0, [0], []⟩ := created.next
    (.answer (.semAcquire (some 0) _) .block 9 rfl rfl rfl (by decide)
      ⟨rfl, rfl⟩)
  obtain ⟨waiters, -, -, -, -, -, -, order, steps⟩ := sem_conserves waits
  have granted := steps (.interrupt (.semIsignal (some 0)) (.ret .noErr)) _
    (.interrupt 9 rfl rfl (Outcome.eq_after rfl)) rfl
  obtain ⟨waiting, woken, -, -⟩ := granted.2 rfl 0 [] order.symm
  exact ⟨_, .interrupt (.semIsignal (some 0)) (.ret .noErr), _, waits,
    .interrupt 9 rfl rfl (Outcome.eq_after rfl), woken, waiting⟩

end Runs

end UsbBulk
