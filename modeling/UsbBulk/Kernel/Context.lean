import UsbBulk.Kernel.Shared

/-!
# The context of a service

No service touches the variables that say which task runs and whether the kernel
is in an interrupt.  So in every state that a run reaches the system runs, and
no interrupt is in progress.
-/

namespace UsbBulk

/-! ## Results of computations that may fail -/

/-- Every result of a computation meets a condition. -/
def Ends {α : Type} (result : Option α) (post : α → Prop) : Prop :=
  ∀ value, result = some value → post value

section Ends

variable {α β : Type} {result : Option α} {post : α → Prop}

theorem ends_none : Ends (none : Option α) post := by
  intro value isValue
  cases isValue

theorem ends_some {value : α} (meets : post value) :
    Ends (some value) post := by
  intro value' isValue
  cases isValue
  exact meets

theorem Ends.and {post' : α → Prop} (first : Ends result post)
    (second : Ends result post') :
    Ends result fun value => post value ∧ post' value :=
  fun value isValue => ⟨first value isValue, second value isValue⟩

theorem Ends.bind {next : α → Option β} {post' : β → Prop}
    (first : Ends result post)
    (second : ∀ value, post value → Ends (next value) post') :
    Ends (result.bind next) post' := by
  intro value isValue
  obtain ⟨between, isBetween, after⟩ := Option.bind_eq_some_iff.mp isValue
  exact second between (first between isBetween) value after

theorem ends_ite {c : Prop} [Decidable c] {first second : Option α}
    (yes : c → Ends first post) (no : ¬ c → Ends second post) :
    Ends (if c then first else second) post := by
  by_cases holds : c
  · rw [if_pos holds]
    exact yes holds
  · rw [if_neg holds]
    exact no holds

theorem ends_bind_eq {next : α → Option β} {post' : β → Prop} {value : α}
    (equal : result = some value) (second : Ends (next value) post') :
    Ends (result.bind next) post' := by
  rw [equal]
  exact second

theorem ends_bind {next : α → Option β} {post' : β → Prop}
    (second : ∀ value, Ends (next value) post') :
    Ends (result.bind next) post' := by
  intro value isValue
  obtain ⟨between, _, after⟩ := Option.bind_eq_some_iff.mp isValue
  exact second between value after

end Ends

/-! ## The mode of the kernel -/

/-- The running task and the mode of the system. -/
structure Mode where
  tnCurrRunTask : TaskId
  tnSystemRunning : Bool
  tnIntCounter : Int
  tnEnableSwitchContext : Bool

def Kernel.mode (k : Kernel) : Mode where
  tnCurrRunTask := k.tnCurrRunTask
  tnSystemRunning := k.tnSystemRunning
  tnIntCounter := k.tnIntCounter
  tnEnableSwitchContext := k.tnEnableSwitchContext

section Projections

variable {γ α β : Type} {g : Kernel → γ} {m : γ}

theorem bind_same {result : Option Kernel}
    {next : Kernel → Option (Kernel × β)} (first : Ends result (g · = m))
    (second : ∀ k, g k = m → Ends (next k) (g ·.1 = m)) :
    Ends (result.bind next) (g ·.1 = m) :=
  first.bind second

theorem bindWith_same {result : Option (Kernel × α)}
    {next : Kernel × α → Option (Kernel × β)}
    (first : Ends result (g ·.1 = m))
    (second : ∀ k value, g k = m → Ends (next (k, value)) (g ·.1 = m)) :
    Ends (result.bind next) (g ·.1 = m) :=
  first.bind fun after same => second after.1 after.2 same

theorem ite_same {c : Prop} [Decidable c] {first second : Kernel}
    (yes : g first = m) (no : g second = m) :
    g (if c then first else second) = m := by
  split
  · exact yes
  · exact no

theorem iteWith_same {c : Prop} [Decidable c] {first second : Kernel × α}
    (yes : g first.1 = m) (no : g second.1 = m) :
    g (if c then first else second).1 = m := by
  split
  · exact yes
  · exact no

theorem checked_same {k : Kernel} (same : g k = m) {object : Option Nat}
    {badParam valid : Nat → Bool} {wrongContext : Bool}
    {body : Nat → Outcome} (keeps : ∀ id, Ends (body id) (g ·.1 = m)) :
    Ends (checked k object badParam valid wrongContext body)
      (g ·.1 = m) := by
  rintro ⟨k', reply⟩ run
  rcases checked_eq run with ⟨rfl, _⟩ | ⟨id, _, _, _, _, run⟩
  · exact same
  · exact keeps id _ run

end Projections

/-! ## What most services leave alone -/

/-- The mode, the mutexes and their lists. -/
structure Footing where
  mode : Mode
  mutex : MutexId → Mutex
  mutexLinks : Links (Node TaskId MutexId)
  lockLinks : Links (Node Unit MutexId)
  blockLinks : Links (Node Unit TaskId)

def Kernel.footing (k : Kernel) : Footing where
  mode := k.mode
  mutex := k.mutex
  mutexLinks := k.mutexLinks
  lockLinks := k.lockLinks
  blockLinks := k.blockLinks

/-- Only the tasks, their lists, and which one is to run next have changed. -/
def Kernel.OnlyTasks (k k' : Kernel) : Prop :=
  k' = { k with
    tcb := k'.tcb
    taskLinks := k'.taskLinks
    timerLinks := k'.timerLinks
    tnReadyToRunBmp := k'.tnReadyToRunBmp
    tnNextTaskToRun := k'.tnNextTaskToRun
    tnContextSwitchRequest := k'.tnContextSwitchRequest }

/-- A view of the state that does not show what concerns tasks only. -/
def Apart {γ : Type} (view : Kernel → γ) : Prop :=
  ∀ k k', k.OnlyTasks k' → view k' = view k

theorem footing_apart : Apart Kernel.footing := by
  intro k k' only
  rw [only]
  rfl

section Primitives

variable {γ : Type} {view : Kernel → γ} {base : γ} {k k' : Kernel}
variable {task : TaskId} (apart : Apart view) (fuel : Nat)

theorem Apart.of (apart : Apart view) (same : view k = base)
    (only : k.OnlyTasks k') : view k' = base :=
  (apart k k' only).trans same

include apart

theorem findNextTaskToRun_apart (same : view k = base) :
    Ends (findNextTaskToRun k) (view · = base) := by
  unfold findNextTaskToRun
  split
  · exact ends_none
  · exact ends_bind fun _ => ends_some (apart.of same rfl)

theorem taskToNonRunnable_apart (same : view k = base) :
    Ends (taskToNonRunnable k task) (view · = base) := by
  refine ends_ite
    (fun _ => ends_ite (fun _ => ends_some (apart.of same rfl)) fun _ => ?_)
    fun _ => ends_ite (fun _ => ?_) fun _ => ends_some (apart.of same rfl)
  · exact findNextTaskToRun_apart apart (apart.of same rfl)
  · exact ends_bind fun _ => ends_some (apart.of same rfl)

theorem taskToRunnable_apart (same : view k = base) :
    view (taskToRunnable k task) = base := by
  unfold taskToRunnable
  dsimp only
  split
  · exact apart.of same rfl
  split <;> exact apart.of same rfl

theorem changeRunningTaskPriority_apart (same : view k = base)
    (newPriority : Nat) :
    Ends (changeRunningTaskPriority k task newPriority)
      (view ·.1 = base) := by
  refine ends_ite
    (fun _ => ends_ite (fun _ => ?_) fun _ => ends_some (apart.of same rfl))
    fun _ => ends_bind fun _ => ends_ite (fun _ => ends_some (apart.of same rfl))
      fun _ => ends_some (apart.of same rfl)
  refine bind_same (findNextTaskToRun_apart apart (apart.of same rfl))
    fun _ same => ?_
  exact ends_ite (fun _ => ends_some same) fun _ => ends_some same

theorem setPriorityAlong_apart (same : view k = base) (along : TaskId)
    (newPriority : Nat) :
    Ends (setPriorityAlong task fuel k along newPriority)
      (view ·.1 = base) := by
  induction fuel generalizing along newPriority with
  | zero => exact ends_none
  | succ fuel ih =>
      refine ends_ite (fun _ => ends_some same) fun _ => ?_
      refine ends_ite (fun _ => ?_) fun _ => ?_
      · exact changeRunningTaskPriority_apart apart same newPriority
      refine ends_ite (fun _ => ?_) fun _ => ends_some (apart.of same rfl)
      refine ends_ite (fun _ => ?_) fun _ => ends_some (apart.of same rfl)
      refine ends_bind fun _ => ends_ite (fun _ => ends_bind fun _ => ?_)
        fun _ => ends_bind fun _ => ?_
      · exact ends_ite (fun _ => ends_bind (ih _)) fun _ => ends_bind (ih _)
      · exact ends_ite (fun _ => ends_bind (ih _)) fun _ => ends_bind (ih _)

theorem restoreHolderPriority_apart (same : view k = base)
    (tQue : Option WaitList) (rc : Bool) :
    Ends (restoreHolderPriority fuel k task tQue rc) (view ·.1 = base) := by
  refine ends_bind fun mutex => ?_
  dsimp only
  split
  · exact ends_some same
  refine ends_ite (fun _ => ?_) fun _ => ends_some same
  refine ends_bind fun _ => bindWith_same
    (setPriorityAlong_apart apart fuel same _ _) fun _ _ same => ends_some same

theorem taskWaitComplete_apart (same : view k = base) :
    Ends (taskWaitComplete fuel k task) (view ·.1 = base) := by
  refine ends_ite (fun _ => restoreHolderPriority_apart apart fuel ?_ _ _)
    fun _ => ends_some ?_
  all_goals
    -- The first part stores into the lists and the control block only.
    refine iteWith_same (g := view) (taskToRunnable_apart apart ?_) ?_
    all_goals
      dsimp only
      split <;> exact apart.of same rfl

theorem taskCurrToWaitAction_apart (same : view k = base)
    (waitQue : Option WaitList) (waitReason : WaitReason) (timeout : Word) :
    Ends (taskCurrToWaitAction k waitQue waitReason timeout)
      (view · = base) := by
  refine Ends.bind (taskToNonRunnable_apart apart same) fun k₁ same => ?_
  cases waitQue <;> exact ends_ite (fun _ => ends_some (apart.of same rfl))
    fun _ => ends_some (apart.of same rfl)

theorem removeWaiter_apart (same : view k = base) (list : WaitList) :
    Ends (removeWaiter k list) (view ·.1 = base) := by
  refine ends_bind fun _ => ends_bind fun _ => ends_some (apart.of same rfl)

theorem releaseWaitBody_apart (same : view k = base) (task : TaskId) :
    Ends (releaseWaitBody fuel k task) (view ·.1 = base) := by
  refine ends_ite (fun _ => ends_some same) fun _ => ?_
  exact bindWith_same (taskWaitComplete_apart apart fuel same)
    fun _ _ same => ends_some same

/-! ## The timer tick -/

theorem roundRobin_apart (same : view k = base) :
    Ends (roundRobin k) (view · = base) := by
  refine ends_ite (fun _ => ?_) fun _ => ends_some same
  refine ends_ite (fun _ => ?_) fun _ => ends_some (apart.of same rfl)
  refine ends_ite (fun _ => ?_) fun _ => ends_some (apart.of same rfl)
  exact ends_bind fun _ => ends_some (apart.of same rfl)

theorem tickTask_apart (same : view k = base) (task : TaskId) :
    Ends (tickTask fuel k task) (view · = base) := by
  refine ends_ite (fun _ => ?_) fun _ => ends_some same
  refine ends_ite (fun _ => ?_) fun _ => ends_some (apart.of same rfl)
  have stored : view (k.setTcb task { k.tcb task with
      tickCount := (k.tcb task).tickCount - 1 }) = base := apart.of same rfl
  refine Ends.bind (taskWaitComplete_apart apart fuel stored) fun _ same => ?_
  exact ends_ite (fun _ => ends_some (apart.of same rfl)) fun _ => ends_some same

theorem tickFrom_apart (same : view k = base) (rounds : Nat)
    (currQue : Node Unit TaskId) :
    Ends (tickFrom fuel rounds k currQue) (view · = base) := by
  induction rounds generalizing k currQue with
  | zero => exact ends_none
  | succ rounds ih =>
      refine ends_bind fun _ => Ends.bind (tickTask_apart apart fuel same _)
        fun _ same => ?_
      exact ends_ite (fun _ => ends_some same) fun _ => ih same _

theorem tnTickIntProcessing_apart (same : view k = base) :
    Ends (tnTickIntProcessing fuel k) (view · = base) := by
  refine ends_ite (fun _ => ends_some same) fun _ => ?_
  refine Ends.bind (roundRobin_apart apart same) fun _ same => ?_
  exact ends_ite (fun _ => tickFrom_apart apart fuel same _ _)
    fun _ => ends_some same

end Primitives

/-! ## The services -/

/-- A service leaves all that alone. -/
def OnFooting (base : Footing) (outcome : Outcome) : Prop :=
  Ends outcome (·.1.footing = base)

section Services

variable {base : Footing} {k : Kernel} {outcome : Outcome} (fuel : Nat)

theorem onFooting_some {reply : Reply} (same : k.footing = base) :
    OnFooting base (some (k, reply)) :=
  ends_some same

theorem OnFooting.fromInterrupt (onFooting : OnFooting base outcome) :
    OnFooting base outcome.fromInterrupt := by
  intro after isAfter
  obtain ⟨before, isBefore, made⟩ := Option.map_eq_some_iff.mp isAfter
  rw [← made]
  exact iteWith_same (onFooting before isBefore) (onFooting before isBefore)

theorem tnTaskSuspend_footing (same : k.footing = base) (task : Option TaskId) :
    OnFooting base (tnTaskSuspend k task) := by
  refine checked_same same fun t => ?_
  refine ends_ite (fun _ => ends_some same) fun _ => ?_
  refine ends_ite (fun _ => ends_some same) fun _ => ?_
  refine ends_ite (fun _ => ends_some same) fun _ => ?_
  refine ends_ite (fun _ => ?_) fun _ => ends_some same
  exact bind_same (taskToNonRunnable_apart footing_apart same) fun _ same => ends_some same

theorem tnTaskResume_footing (same : k.footing = base) (task : Option TaskId) :
    OnFooting base (tnTaskResume k task) := by
  refine checked_same same fun t => ?_
  refine ends_ite (fun _ => ends_some same) fun _ => ?_
  exact ends_ite (fun _ => ends_some (taskToRunnable_apart footing_apart same))
    fun _ => ends_some same

theorem tnTaskSleep_footing (same : k.footing = base) (timeout : Word) :
    OnFooting base (tnTaskSleep k timeout) := by
  refine ends_ite (fun _ => ends_some same) fun _ => ?_
  refine ends_ite (fun _ => ends_some same) fun _ => ?_
  refine ends_ite (fun _ => ends_some same) fun _ => ?_
  exact bind_same (taskCurrToWaitAction_apart footing_apart same _ _ _)
    fun _ same => ends_some same

theorem wakeupBody_footing (same : k.footing = base) (task : TaskId) :
    OnFooting base (wakeupBody fuel k task) := by
  refine ends_ite (fun _ => ends_some same) fun _ => ends_ite (fun _ => ?_)
    fun _ => ends_ite (fun _ => ends_some same) fun _ => ends_some same
  exact bindWith_same (taskWaitComplete_apart footing_apart fuel same)
    fun _ _ same => ends_some same

theorem activateBody_footing (same : k.footing = base) (task : TaskId) :
    OnFooting base (activateBody k task) := by
  refine ends_ite (fun _ => ends_some (taskToRunnable_apart footing_apart same)) fun _ => ?_
  exact ends_ite (fun _ => ends_some same) fun _ => ends_some same

theorem tnTaskChangePriority_footing (same : k.footing = base)
    (task : Option TaskId) (newPriority : Int) :
    OnFooting base (tnTaskChangePriority k task newPriority) := by
  cases task with
  | none => exact ends_some same
  | some task =>
      refine ends_ite (fun _ => ends_some same) fun _ => ?_
      refine ends_ite (fun _ => ends_some same) fun _ => ?_
      refine ends_ite (fun _ => ends_some same) fun _ => ?_
      refine ends_ite (fun _ => ends_some same) fun _ => ?_
      refine ends_ite (fun _ => ?_) fun _ => ends_some same
      exact bindWith_same (changeRunningTaskPriority_apart footing_apart same _)
        fun _ _ same => ends_some same

theorem tnSemCreate_footing (same : k.footing = base) (sem : Option SemId)
    (startValue maxVal : Int) :
    OnFooting base (tnSemCreate k sem startValue maxVal) := by
  refine ends_bind fun _ => ends_ite (fun _ => ends_some same) fun _ => ?_
  exact ends_ite (fun _ => ends_some same) fun _ => ends_some same

theorem signalBody_footing (same : k.footing = base) (sem : SemId) :
    OnFooting base (signalBody fuel k sem) := by
  refine ends_ite (fun _ => ?_) fun _ => ?_
  · refine bindWith_same (removeWaiter_apart footing_apart ?_ _) fun _ t same => ?_
    · exact same
    refine bindWith_same (taskWaitComplete_apart footing_apart fuel ?_)
      fun _ _ same => ends_some same
    exact same
  · exact ends_ite (fun _ => ends_some same) fun _ => ends_some same

theorem acquireBody_footing (same : k.footing = base) (sem : SemId) {taken : Outcome}
    (onFooting : OnFooting base taken) : OnFooting base (acquireBody k sem taken) :=
  ends_ite (fun _ => ends_some same) fun _ => onFooting

theorem tnEventCreate_footing (same : k.footing = base) (evf : Option EventId)
    (attr pattern : Word) : OnFooting base (tnEventCreate k evf attr pattern) := by
  cases evf with
  | none => exact ends_some same
  | some evf =>
      refine ends_ite (fun _ => ends_some same) fun _ => ?_
      exact ends_ite (fun _ => ends_some same) fun _ => ends_some same

theorem eventWaitBody_footing (same : k.footing = base) (waitPattern waitMode : Word)
    {unmet : EventId → Outcome} (onFooting : ∀ evf, OnFooting base (unmet evf))
    (evf : EventId) :
    OnFooting base (eventWaitBody k waitPattern waitMode unmet evf) := by
  refine ends_ite (fun _ => ends_some same) fun _ => ?_
  exact ends_ite (fun _ => ends_some same) fun _ => onFooting evf

theorem scanFrom_footing (same : k.footing = base) (evf : EventId) (rounds : Nat)
    (que : Node QueueHead TaskId) (wcflag : Bool) :
    Ends (scanFrom fuel evf rounds k que wcflag) (·.1.footing = base) := by
  induction rounds generalizing k que wcflag with
  | zero => exact ends_none
  | succ rounds ih =>
      refine ends_bind fun task => ends_ite (fun _ => ?_) fun _ => ?_
      · refine bindWith_same (taskWaitComplete_apart footing_apart fuel same)
          fun _ _ same => ?_
        exact ends_ite (fun _ => ends_some same) fun _ => ih same _ _
      · exact ends_ite (fun _ => ends_some same) fun _ => ih same _ _

theorem eventSetBody_footing (same : k.footing = base) (pattern : Word)
    (evf : EventId) : OnFooting base (eventSetBody fuel k pattern evf) := by
  refine ends_ite (fun _ => ?_) fun _ => ends_some same
  refine bindWith_same (scanFrom_footing fuel ?_ _ _ _ _) fun _ _ same => ?_
  · exact same
  refine ends_ite (fun _ => ends_some ?_) fun _ => ends_some same
  exact ite_same same same

theorem tnQueueCreate_footing (same : k.footing = base) (dque : Option DqueId)
    (dataFifo : Option (Int → Word)) (numEntries : Int) :
    OnFooting base (tnQueueCreate k dque dataFifo numEntries) := by
  cases dque with
  | none => exact ends_some same
  | some dque =>
      exact ends_ite (fun _ => ends_some same) fun _ => ends_some same

theorem queueSendBody_footing (same : k.footing = base) (dataPtr : Word)
    {full : Kernel → DqueId → Outcome}
    (onFooting : ∀ k d, k.footing = base → OnFooting base (full k d)) (dque : DqueId) :
    OnFooting base (queueSendBody fuel k dataPtr full dque) := by
  refine ends_ite (fun _ => ?_) fun _ => ?_
  · refine bindWith_same (removeWaiter_apart footing_apart ?_ _) fun _ t same => ?_
    · exact same
    refine bindWith_same (taskWaitComplete_apart footing_apart fuel ?_)
      fun _ _ same => ends_some same
    exact same
  · exact ends_ite (fun _ => onFooting _ dque same) fun _ => ends_some same

theorem queueReceiveBody_footing (same : k.footing = base)
    {empty : Kernel → DqueId → Outcome}
    (onFooting : ∀ k d, k.footing = base → OnFooting base (empty k d)) (dque : DqueId) :
    OnFooting base (queueReceiveBody fuel k empty dque) := by
  refine ends_ite (fun _ => ?_) fun _ => ?_
  · refine ends_ite (fun _ => ?_) fun _ => ends_some same
    refine bindWith_same (removeWaiter_apart footing_apart ?_ _) fun _ t same => ?_
    · exact same
    refine bindWith_same (taskWaitComplete_apart footing_apart fuel ?_)
      fun _ _ same => ends_some same
    exact same
  · refine ends_ite (fun _ => ?_) fun _ => onFooting _ dque same
    refine bindWith_same (removeWaiter_apart footing_apart ?_ _) fun _ t same => ?_
    · exact same
    refine bindWith_same (taskWaitComplete_apart footing_apart fuel ?_)
      fun _ _ same => ends_some same
    exact same

theorem tnFmemCreate_footing (same : k.footing = base) (fmp : Option FmpId)
    (startAddr blockSize : Word) (numBlocks : Int) :
    OnFooting base (tnFmemCreate fuel k fmp startAddr blockSize numBlocks) := by
  cases fmp with
  | none => exact ends_some same
  | some fmp =>
      refine ends_ite (fun _ => ends_some same) fun _ => ?_
      refine ends_ite (fun _ => ends_some same) fun _ => ?_
      refine ends_bind fun _ => ?_
      exact ends_ite (fun _ => ends_some same) fun _ => ends_some same

theorem fmemGetBody_footing (same : k.footing = base)
    {taken : Kernel → FmpId → Outcome}
    (onFooting : ∀ k f, k.footing = base → OnFooting base (taken k f)) (fmp : FmpId) :
    OnFooting base (fmemGetBody k taken fmp) := by
  have got : (fmGet k fmp).1.footing = base := iteWith_same same same
  exact ends_ite (fun _ => ends_some got) fun _ => onFooting _ fmp got

theorem fmemReleaseBody_footing (same : k.footing = base) (pData : Word)
    (fmp : FmpId) : OnFooting base (fmemReleaseBody fuel k pData fmp) := by
  refine ends_ite (fun _ => ?_) fun _ => ends_some ?_
  · refine bindWith_same (removeWaiter_apart footing_apart ?_ _) fun _ t same => ?_
    · exact same
    refine bindWith_same (taskWaitComplete_apart footing_apart fuel ?_)
      fun _ _ same => ends_some same
    exact same
  · exact iteWith_same same same

/-- The call neither creates a task nor is about mutexes. -/
def Call.lockFree : Call → Bool
  | .taskCreate .. | .mutexCreate .. | .mutexLock .. => false
  | .mutexLockPolling _ | .mutexUnlock _ => false
  | _ => true

theorem Call.exec_footing (same : k.footing = base) {call : Call}
    (lockFree : call.lockFree = true) (tnTaskExit : Word) :
    OnFooting base (call.exec tnTaskExit fuel k) := by
  have refused : OnFooting base (some (k, .ret .timeout)) := onFooting_some same
  have blocks : ∀ k : Kernel, k.footing = base → ∀ list reason timeout,
      OnFooting base ((taskCurrToWaitAction k list reason timeout).bind
        fun k => some (k, Reply.block)) := fun k same list reason timeout =>
    bind_same (taskCurrToWaitAction_apart footing_apart same _ _ _)
      fun _ same => ends_some same
  cases call with
  | taskSuspend task => exact tnTaskSuspend_footing same task
  | taskResume task => exact tnTaskResume_footing same task
  | taskSleep timeout => exact tnTaskSleep_footing same timeout
  | taskWakeup task => exact checked_same same (wakeupBody_footing fuel same)
  | taskIwakeup task =>
      exact checked_same same
        fun t => (wakeupBody_footing fuel same t).fromInterrupt
  | taskActivate task => exact checked_same same (activateBody_footing same)
  | taskIactivate task =>
      exact checked_same same fun t => (activateBody_footing same t).fromInterrupt
  | taskReleaseWait task =>
      exact checked_same same (releaseWaitBody_apart footing_apart fuel same)
  | taskIreleaseWait task =>
      exact checked_same same
        fun t => OnFooting.fromInterrupt
          (releaseWaitBody_apart footing_apart fuel same t)
  | taskChangePriority task newPriority =>
      exact tnTaskChangePriority_footing same task newPriority
  | semCreate sem startValue maxVal =>
      exact tnSemCreate_footing same sem startValue maxVal
  | semSignal sem => exact checked_same same (signalBody_footing fuel same)
  | semIsignal sem =>
      exact checked_same same
        fun s => (signalBody_footing fuel same s).fromInterrupt
  | semAcquire sem timeout =>
      exact checked_same same fun s =>
        acquireBody_footing same s (blocks k same _ _ _)
  | semPolling sem =>
      exact checked_same same fun s => acquireBody_footing same s refused
  | semIpolling sem =>
      exact checked_same same fun s => acquireBody_footing same s refused
  | eventCreate evf attr pattern =>
      exact tnEventCreate_footing same evf attr pattern
  | eventWait evf waitPattern waitMode pFlagsPattern timeout =>
      refine checked_same same (eventWaitBody_footing same _ _ fun evf => ?_)
      refine blocks _ ?_ _ _ _
      exact same
  | eventWaitPolling evf waitPattern waitMode pFlagsPattern =>
      exact checked_same same (eventWaitBody_footing same _ _ fun _ => refused)
  | eventIwait evf waitPattern waitMode pFlagsPattern =>
      exact checked_same same (eventWaitBody_footing same _ _ fun _ => refused)
  | eventSet evf pattern =>
      exact checked_same same (eventSetBody_footing fuel same pattern)
  | eventIset evf pattern =>
      exact checked_same same
        fun evf => (eventSetBody_footing fuel same pattern evf).fromInterrupt
  | eventClear evf pattern => exact checked_same same fun _ => ends_some same
  | eventIclear evf pattern => exact checked_same same fun _ => ends_some same
  | queueCreate dque dataFifo numEntries =>
      exact tnQueueCreate_footing same dque dataFifo numEntries
  | queueSend dque dataPtr timeout =>
      refine checked_same same
        (queueSendBody_footing fuel same _ fun k d same => ?_)
      refine blocks _ ?_ _ _ _
      exact same
  | queueSendPolling dque dataPtr =>
      exact checked_same same
        (queueSendBody_footing fuel same _ fun _ _ same => ends_some same)
  | queueIsendPolling dque dataPtr =>
      exact checked_same same fun d => (queueSendBody_footing fuel same _
        (fun _ _ same => ends_some same) d).fromInterrupt
  | queueReceive dque dataPtr timeout =>
      exact checked_same same (queueReceiveBody_footing fuel same
        fun k d same => blocks k same _ _ _)
  | queueReceivePolling dque dataPtr =>
      exact checked_same same
        (queueReceiveBody_footing fuel same fun _ _ same => ends_some same)
  | queueIreceive dque dataPtr =>
      exact checked_same same fun d => (queueReceiveBody_footing fuel same
        (fun _ _ same => ends_some same) d).fromInterrupt
  | fmemCreate fmp startAddr blockSize numBlocks =>
      exact tnFmemCreate_footing fuel same fmp startAddr blockSize numBlocks
  | fmemGet fmp pData timeout =>
      exact checked_same same
        (fmemGetBody_footing same fun k f same => blocks k same _ _ _)
  | fmemGetPolling fmp pData =>
      exact checked_same same
        (fmemGetBody_footing same fun _ _ same => ends_some same)
  | fmemGetIpolling fmp pData =>
      exact checked_same same
        (fmemGetBody_footing same fun _ _ same => ends_some same)
  | fmemRelease fmp pData =>
      exact checked_same same (fmemReleaseBody_footing fuel same pData)
  | fmemIrelease fmp pData =>
      exact checked_same same
        fun f => (fmemReleaseBody_footing fuel same pData f).fromInterrupt
  | tickIntProcessing =>
      intro after isAfter
      obtain ⟨k', tick, rfl⟩ := Option.map_eq_some_iff.mp isAfter
      exact tnTickIntProcessing_apart footing_apart fuel same k' tick
  | sysTsliceTicks priority value =>
      refine ends_ite (fun _ => ends_some same) fun _ => ?_
      exact ends_ite (fun _ => ends_some same) fun _ => ends_some same
  | _ => cases lockFree

end Services

/-! ## Services that change more -/

section Mutexes

/-- A service leaves the mode alone. -/
def InMode (m : Mode) (outcome : Outcome) : Prop :=
  Ends outcome (·.1.mode = m)

variable {m : Mode} {k : Kernel} {task : TaskId} {outcome : Outcome}
variable (fuel : Nat)

/-- What stands on the same footing is in the same mode. -/
theorem Ends.inMode {α : Type} {kernelOf : α → Kernel} {result : Option α}
    (mode : k.mode = m)
    (same : Ends result fun value => (kernelOf value).footing = k.footing) :
    Ends result fun value => (kernelOf value).mode = m :=
  fun value isValue =>
    (congrArg Footing.mode (same value isValue)).trans mode

theorem taskToRunnable_mode (mode : k.mode = m) :
    (taskToRunnable k task).mode = m :=
  (congrArg Footing.mode (taskToRunnable_apart footing_apart rfl)).trans mode

theorem setPriorityAlong_mode (mode : k.mode = m) (along : TaskId)
    (newPriority : Nat) :
    Ends (setPriorityAlong task fuel k along newPriority) (·.1.mode = m) :=
  Ends.inMode mode (setPriorityAlong_apart footing_apart fuel rfl along newPriority)

theorem taskWaitComplete_mode (mode : k.mode = m) :
    Ends (taskWaitComplete fuel k task) (·.1.mode = m) :=
  Ends.inMode mode (taskWaitComplete_apart footing_apart fuel rfl)

theorem taskCurrToWaitAction_mode (mode : k.mode = m)
    (waitQue : Option WaitList) (waitReason : WaitReason) (timeout : Word) :
    Ends (taskCurrToWaitAction k waitQue waitReason timeout)
      (·.mode = m) :=
  Ends.inMode mode (taskCurrToWaitAction_apart footing_apart rfl _ _ _)

theorem removeWaiter_mode (mode : k.mode = m) (list : WaitList) :
    Ends (removeWaiter k list) (·.1.mode = m) :=
  Ends.inMode mode (removeWaiter_apart footing_apart rfl list)

theorem tnTaskCreate_mode (mode : k.mode = m) (tnTaskExit : Word)
    (task : Option TaskId) (args : TaskParams) :
    InMode m (tnTaskCreate tnTaskExit k task args) := by
  refine ends_ite (fun _ => ends_some mode) fun _ => ?_
  refine ends_ite (fun _ => ends_some mode) fun _ => ?_
  cases task with
  | none => exact ends_some mode
  | some task =>
      refine ends_ite (fun _ => ends_some mode) fun _ => ?_
      refine ends_ite (fun _ => ends_some mode) fun _ => ends_some ?_
      exact ite_same (taskToRunnable_mode mode) mode

theorem tnMutexCreate_mode (mode : k.mode = m) (mutex : Option MutexId)
    (attr : Word) (ceilPriority : Int) :
    InMode m (tnMutexCreate k mutex attr ceilPriority) := by
  cases mutex with
  | none => exact ends_some mode
  | some mutex =>
      refine ends_ite (fun _ => ends_some mode) fun _ => ?_
      refine ends_ite (fun _ => ends_some mode) fun _ => ?_
      exact ends_ite (fun _ => ends_some mode) fun _ => ends_some mode

theorem inheritPriority_mode (mode : k.mode = m) (holder : TaskId) :
    Ends (inheritPriority fuel k holder) (·.mode = m) := by
  refine ends_ite (fun _ => ?_) fun _ => ends_some mode
  refine Ends.bind (setPriorityAlong_mode fuel mode holder _) fun _ mode => ?_
  exact ends_some mode

theorem mutexLockBody_mode (mode : k.mode = m) (timeout : Word)
    (mutex : MutexId) : InMode m (mutexLockBody fuel k timeout mutex) := by
  have waits : ∀ k : Kernel, k.mode = m → ∀ list reason,
      InMode m ((taskCurrToWaitAction k list reason timeout).bind
        fun k => some (k, Reply.block)) := fun k mode list reason =>
    bind_same (taskCurrToWaitAction_mode mode _ _ _)
      fun _ mode => ends_some mode
  unfold mutexLockBody
  refine ends_ite (fun _ => ends_some mode) fun _ => ?_
  refine ends_ite (fun _ => ?_) fun _ => ends_ite (fun _ => ?_) fun _ =>
    ends_some mode
  · split
    · refine ends_bind fun answer => ends_ite (fun _ => ends_some mode)
        fun _ => ?_
      split
      · refine bind_same (inheritPriority_mode fuel mode _) fun _ mode => ?_
        refine waits _ ?_ _ _
        exact mode
      · refine waits _ ?_ _ _
        exact mode
    · refine bind_same (inheritPriority_mode fuel mode _) fun _ mode => ?_
      exact waits _ mode _ _
  · split
    · exact ends_some mode
    · refine bind_same (inheritPriority_mode fuel mode _) fun _ mode => ?_
      exact waits _ mode _ _

theorem mutexLockPollingBody_mode (mode : k.mode = m) (mutex : MutexId) :
    InMode m (mutexLockPollingBody fuel k mutex) := by
  refine ends_ite (fun _ => ends_some mode) fun _ => ?_
  refine ends_ite (fun _ => ?_) fun _ => ends_some mode
  refine ends_ite (fun _ => ?_) fun _ => ?_
  · refine ends_bind fun _ => ?_
    exact ends_ite (fun _ => ends_some mode) fun _ => ends_some mode
  · exact ends_ite (fun _ => ends_some mode) fun _ => ends_some mode

theorem removeBlockedFrom_mode (mode : k.mode = m) (task : TaskId)
    (currQue : Node Unit TaskId) :
    Ends (removeBlockedFrom k task fuel currQue) (·.mode = m) := by
  induction fuel generalizing currQue with
  | zero => exact ends_none
  | succ fuel ih =>
      refine ends_ite (fun _ => ends_some mode) fun _ => ?_
      exact ends_ite (fun _ => ends_some mode) fun _ => ih _

theorem tryLockMutex_mode (mode : k.mode = m) (task : TaskId) :
    Ends (tryLockMutex fuel k task) (·.1.mode = m) := by
  refine ends_bind fun mutex => ends_ite (fun _ => ?_)
    fun _ => ends_some mode
  refine ends_bind fun _ => ends_ite (fun _ => ?_) fun _ => ends_some mode
  refine bindWith_same (taskWaitComplete_mode fuel ?_) fun _ _ mode => ?_
  · exact mode
  · exact ends_some mode

theorem unlockPriority_mode (mode : k.mode = m) (mutex : MutexId) :
    Ends (unlockPriority fuel k mutex) (·.1.mode = m) := by
  refine ends_ite (fun _ => ?_) fun _ => ends_ite (fun _ => ?_)
    fun _ => ends_some mode
  · exact setPriorityAlong_mode fuel mode _ _
  · refine ends_bind fun _ => ends_ite (fun _ => ?_) fun _ => ends_some mode
    exact setPriorityAlong_mode fuel mode _ _

theorem handOver_mode (mode : k.mode = m) (mutex : MutexId) :
    Ends (handOver fuel k mutex) (·.1.mode = m) := by
  refine ends_ite (fun _ => ends_some mode) fun _ => ?_
  refine ends_ite (fun _ => ?_) fun _ => ends_ite (fun _ => ?_)
    fun _ => ends_some mode
  · refine ends_bind fun _ => ends_bind fun _ => ends_bind fun _ => ?_
    refine ends_ite (fun _ => ?_) fun _ => ?_
    · refine bind_same (removeBlockedFrom_mode fuel ?_ _ _) fun _ mode => ?_
      · exact mode
      refine bindWith_same (taskWaitComplete_mode fuel mode)
        fun _ _ mode => ends_some mode
    · refine ends_bind fun _ => ?_
      exact ends_ite (fun _ => ends_some mode) fun _ => ends_some mode
  · refine bindWith_same (removeWaiter_mode mode _) fun _ _ mode => ?_
    exact bindWith_same (taskWaitComplete_mode fuel mode)
      fun _ _ mode => ends_some mode

theorem retryBlocked_mode (mode : k.mode = m) (hiPriTask : Option TaskId)
    (rounds : Nat) (currQue : Node Unit TaskId) (needSwitch : Bool) :
    Ends (retryBlocked fuel hiPriTask rounds k currQue needSwitch)
      (·.1.mode = m) := by
  induction rounds generalizing k currQue needSwitch with
  | zero => exact ends_none
  | succ rounds ih =>
      have goOn : ∀ k : Kernel, k.mode = m → ∀ woken : Bool,
          Ends (if k.blockLinks.next currQue = .head () then
              some (k, needSwitch || woken)
            else retryBlocked fuel hiPriTask rounds k
              (k.blockLinks.next currQue) (needSwitch || woken))
            (·.1.mode = m) := fun k mode woken =>
        ends_ite (fun _ => ends_some mode) fun _ => ih mode _ _
      refine ends_bind fun _ => ends_ite (fun _ => ?_) fun _ => ?_
      · exact bindWith_same (tryLockMutex_mode fuel mode _)
          fun _ _ mode => goOn _ mode _
      · exact goOn _ mode _

theorem doUnlockMutex_mode (mode : k.mode = m) (mutex : MutexId) :
    Ends (doUnlockMutex fuel k mutex) (·.1.mode = m) := by
  refine bindWith_same (unlockPriority_mode fuel ?_ _) fun _ _ mode => ?_
  · exact mode
  refine bindWith_same (handOver_mode fuel mode _) fun _ _ mode => ?_
  refine ends_ite (fun _ => ?_) fun _ => ends_some mode
  exact retryBlocked_mode fuel mode _ _ _ _

theorem mutexUnlockBody_mode (mode : k.mode = m) (mutex : MutexId) :
    InMode m (mutexUnlockBody fuel k mutex) := by
  refine ends_ite (fun _ => ends_some mode) fun _ => ?_
  exact bindWith_same (doUnlockMutex_mode fuel mode _)
    fun _ _ mode => ends_some mode

theorem Call.exec_mode (mode : k.mode = m) (tnTaskExit : Word)
    (call : Call) : InMode m (call.exec tnTaskExit fuel k) := by
  by_cases lockFree : call.lockFree = true
  · exact Ends.inMode mode (Call.exec_footing fuel rfl lockFree tnTaskExit)
  cases call with
  | taskCreate task args => exact tnTaskCreate_mode mode tnTaskExit task args
  | mutexCreate mutex attr ceilPriority =>
      exact tnMutexCreate_mode mode mutex attr ceilPriority
  | mutexLock mutex timeout =>
      exact checked_same mode (mutexLockBody_mode fuel mode timeout)
  | mutexLockPolling mutex =>
      exact checked_same mode (mutexLockPollingBody_mode fuel mode)
  | mutexUnlock mutex =>
      exact checked_same mode (mutexUnlockBody_mode fuel mode)
  | _ => exact absurd rfl lockFree

end Mutexes

/-! ## Aspects of the control blocks -/

section Aspects

variable {α : Type} {g : Tcb → α} {k : Kernel} {t : TaskId}

/-- One aspect of every control block. -/
def Kernel.aspect (k : Kernel) (g : Tcb → α) (t : TaskId) : α := g (k.tcb t)

/-- The aspect depends neither on the state of the task nor on the list it waits
in. -/
def Steady (g : Tcb → α) : Prop :=
  ∀ (tcb : Tcb) (state : TaskState) (queue : Option WaitList),
    g { tcb with taskState := state, pwaitQueue := queue } = g tcb

theorem findNextTaskToRun_tcb {tcb : TaskId → Tcb} (same : k.tcb = tcb) :
    Ends (findNextTaskToRun k) (·.tcb = tcb) := by
  unfold findNextTaskToRun
  split
  · exact ends_none
  · exact ends_bind fun _ => ends_some same

theorem taskToNonRunnable_tcb {tcb : TaskId → Tcb} (same : k.tcb = tcb) :
    Ends (taskToNonRunnable k t) (·.tcb = tcb) := by
  refine ends_ite (fun _ => ends_ite (fun _ => ends_some same) fun _ => ?_)
    fun _ => ends_ite (fun _ => ?_) fun _ => ends_some same
  · exact findNextTaskToRun_tcb same
  · exact ends_bind fun _ => ends_some same

theorem setTcb_aspect (new : Tcb) (same : g new = g (k.tcb t)) :
    (k.setTcb t new).aspect g = k.aspect g := by
  funext u
  rw [Kernel.aspect, Kernel.aspect]
  by_cases equal : u = t
  · subst equal
    simpa [Kernel.setTcb] using same
  · simp [Kernel.setTcb, equal]

theorem taskToRunnable_aspect (steady : Steady g) :
    (taskToRunnable k t).aspect g = k.aspect g := by
  have stored := setTcb_aspect { k.tcb t with
    taskState := .runnable, pwaitQueue := none } (steady (k.tcb t) _ _)
  unfold taskToRunnable
  dsimp only
  split
  · exact stored
  split <;> exact stored

theorem checked_aspect {object : Option Nat} {badParam valid : Nat → Bool}
    {wrongContext : Bool} {body : Nat → Outcome}
    (keeps : ∀ id, Ends (body id) (·.1.aspect g = k.aspect g)) :
    Ends (checked k object badParam valid wrongContext body)
      (·.1.aspect g = k.aspect g) := by
  rintro ⟨k', reply⟩ run
  rcases checked_eq run with ⟨rfl, _⟩ | ⟨id, _, _, _, _, run⟩
  · rfl
  · exact keeps id _ run

theorem tnTaskSuspend_aspect (steady : Steady g) (task : Option TaskId) :
    Ends (tnTaskSuspend k task) (·.1.aspect g = k.aspect g) := by
  refine checked_aspect fun t => ?_
  have stored : ∀ state, (k.setTcb t { k.tcb t with
      taskState := state }).aspect g = k.aspect g :=
    fun state => setTcb_aspect _ (steady (k.tcb t) state _)
  refine ends_ite (fun _ => ends_some rfl) fun _ => ?_
  refine ends_ite (fun _ => ends_some rfl) fun _ => ?_
  refine ends_ite (fun _ => ends_some rfl) fun _ => ?_
  refine ends_ite (fun _ => ?_) fun _ => ends_some (stored _)
  refine Ends.bind (taskToNonRunnable_tcb rfl) fun k₁ tcb => ends_some ?_
  refine Eq.trans ?_ (stored .suspend)
  funext u
  rw [Kernel.aspect, Kernel.aspect, tcb]

theorem tnTaskResume_aspect (steady : Steady g) (task : Option TaskId) :
    Ends (tnTaskResume k task) (·.1.aspect g = k.aspect g) := by
  refine checked_aspect fun t => ?_
  refine ends_ite (fun _ => ends_some rfl) fun _ => ?_
  exact ends_ite (fun _ => ends_some (taskToRunnable_aspect steady))
    fun _ => ends_some (setTcb_aspect _ (steady (k.tcb t) _ _))

end Aspects

/-! ## Runs -/

/-- The mode between two steps of a run. -/
structure Kernel.InSystem (k : Kernel) : Prop where
  tnSystemRunning : k.tnSystemRunning = true
  tnIntCounter : k.tnIntCounter = 0
  tnEnableSwitchContext : k.tnEnableSwitchContext = true

section Runs

variable {image : Image} {allowed : Kernel → Call → Prop} {k k' : Kernel}

theorem Kernel.InSystem.of_mode (inSystem : k.InSystem)
    (same : k'.mode = k.mode) : k'.InSystem := by
  obtain ⟨running, counter, enabled⟩ := inSystem
  constructor
  · exact (congrArg Mode.tnSystemRunning same).trans running
  · exact (congrArg Mode.tnIntCounter same).trans counter
  · exact (congrArg Mode.tnEnableSwitchContext same).trans enabled

theorem Kernel.InSystem.step (inSystem : k.InSystem) {action : Action}
    (step : Step image allowed k action k') : k'.InSystem := by
  cases step with
  | call fuel task running notIdle may run =>
      exact inSystem.of_mode (Call.exec_mode fuel rfl _ _ _ run)
  | @interrupt after _ _ fuel irq may run =>
      have same := Call.exec_mode fuel rfl _ _ _ run
      obtain ⟨running, counter, enabled⟩ := inSystem
      refine ⟨(congrArg Mode.tnSystemRunning same).trans running, ?_,
        (congrArg Mode.tnEnableSwitchContext same).trans enabled⟩
      have left : after.tnIntCounter = k.tnIntCounter + 1 :=
        congrArg Mode.tnIntCounter same
      change after.tnIntCounter - 1 = 0
      omega
  | dispatch run =>
      obtain ⟨next, _, result⟩ := Option.bind_eq_some_iff.mp run
      cases result
      exact ⟨inSystem.tnSystemRunning, inSystem.tnIntCounter,
        inSystem.tnEnableSwitchContext⟩

theorem Kernel.InSystem.of_start (run : tnStartSystem image k = some k') :
    k'.InSystem := by
  obtain ⟨⟨k₁, _⟩, create₁, run⟩ := Option.bind_eq_some_iff.mp run
  obtain ⟨⟨k₂, _⟩, create₂, run⟩ := Option.bind_eq_some_iff.mp run
  obtain ⟨k₃, switch, run⟩ := Option.bind_eq_some_iff.mp run
  obtain ⟨next, _, result⟩ := Option.bind_eq_some_iff.mp switch
  cases result
  cases run
  -- The creations and the two starts come after the reset.
  have first := tnTaskCreate_mode rfl _ _ _ _ create₁
  have second := tnTaskCreate_mode first _ _ _ _ create₂
  have idle : (taskToRunnable _ image.idleTask).mode = _ :=
    taskToRunnable_mode second
  have last : (taskToRunnable _ image.timerTask).mode = _ :=
    taskToRunnable_mode idle
  exact ⟨rfl, congrArg Mode.tnIntCounter last,
    congrArg Mode.tnEnableSwitchContext last⟩

theorem Reachable.inSystem (reachable : Reachable image allowed k) :
    k.InSystem := by
  induction reachable with
  | start _ run => exact .of_start run
  | next _ step ih => exact ih.step step

/-- Between two steps the interrupts are enabled. -/
structure Kernel.AtTask (k : Kernel) : Prop where
  inSystem : k.InSystem
  irqDisabled : k.irqDisabled = false

theorem Kernel.AtTask.wrongNonIntContext (atTask : k.AtTask) :
    k.wrongNonIntContext = false := by
  simp [Kernel.wrongNonIntContext, atTask.inSystem.tnIntCounter,
    atTask.irqDisabled]

theorem Kernel.AtTask.wrongIntContext (atTask : k.AtTask) :
    k.enterIrq.wrongIntContext = false := by
  simp [Kernel.wrongIntContext, Kernel.enterIrq,
    atTask.inSystem.tnIntCounter, atTask.inSystem.tnSystemRunning]

end Runs

end UsbBulk
