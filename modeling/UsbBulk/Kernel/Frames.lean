import UsbBulk.Kernel.Context

/-!
# What the scheduling primitives store

To let a task run or wait, the primitives store into its control block only: its
state, its wait and its timeout.  What does not look at these is the same before
and after.
-/

namespace UsbBulk

/-- A view of the control blocks that does not show the state of the task, nor
what it waits for. -/
def Blind {γ : Type} (view : (TaskId → Tcb) → γ) (t : TaskId) : Prop :=
  ∀ (tcb : TaskId → Tcb) (new : Tcb),
    new = { tcb t with
      taskState := new.taskState, pwaitQueue := new.pwaitQueue
      taskWaitReason := new.taskWaitReason, taskWaitRc := new.taskWaitRc
      tickCount := new.tickCount } →
    view (Function.update tcb t new) = view tcb

section Primitives

variable {γ : Type} {view : (TaskId → Tcb) → γ} {m : γ} {k : Kernel}
variable {t : TaskId} (fuel : Nat)

theorem blind_other {u : TaskId} (other : u ≠ t) :
    Blind (fun tcb => tcb u) t :=
  fun tcb new _ => Function.update_of_ne other new tcb

theorem Blind.setTcb (blind : Blind view t) (same : view k.tcb = m) {new : Tcb}
    (shape : new = { k.tcb t with
      taskState := new.taskState, pwaitQueue := new.pwaitQueue
      taskWaitReason := new.taskWaitReason, taskWaitRc := new.taskWaitRc
      tickCount := new.tickCount }) : view (k.setTcb t new).tcb = m :=
  (blind k.tcb new shape).trans same

theorem taskToRunnable_blind (blind : Blind view t) (same : view k.tcb = m) :
    view (taskToRunnable k t).tcb = m := by
  have stored := @Blind.setTcb _ _ _ _ _ blind same
    { k.tcb t with taskState := .runnable, pwaitQueue := none } rfl
  unfold taskToRunnable
  dsimp only
  split
  · exact stored
  · exact @ite_same _ (fun k => view k.tcb) _ _ _ _ _ stored stored

theorem findNextTaskToRun_blind (same : view k.tcb = m) :
    Ends (findNextTaskToRun k) (view ·.tcb = m) := by
  unfold findNextTaskToRun
  split
  · exact ends_none
  · exact ends_bind fun _ => ends_some same

theorem taskToNonRunnable_blind (same : view k.tcb = m) :
    Ends (taskToNonRunnable k t) (view ·.tcb = m) := by
  refine ends_ite (fun _ => ends_ite (fun _ => ends_some same) fun _ => ?_)
    fun _ => ends_ite (fun _ => ?_) fun _ => ends_some same
  · exact findNextTaskToRun_blind same
  · exact ends_bind fun _ => ends_some same

/-- The control block of a task whose wait has ended, before its new state is
stored. -/
def Tcb.waitEnded (tcb : Tcb) : Tcb :=
  { tcb with
    taskWaitReason := .none
    pwaitQueue := none
    taskWaitRc := .noErr
    tickCount := tnWaitInfinite }

/-- The first half of `task_wait_complete`. -/
def Kernel.endWait (k : Kernel) (t : TaskId) : Kernel :=
  { k.setTcb t (k.tcb t).waitEnded with
    timerLinks := if (k.tcb t).tickCount ≠ tnWaitInfinite then
        queueRemoveEntry k.timerLinks (.entry t)
      else k.timerLinks }

theorem Kernel.endWait_tcb (k : Kernel) (t : TaskId) :
    (k.endWait t).tcb t = (k.tcb t).waitEnded := by
  simp [endWait, setTcb]

/-- The end of a wait that is not for a mutex. -/
theorem taskWaitComplete_eq
    (plain : (k.tcb t).taskWaitReason.isMutex = false) :
    taskWaitComplete fuel k t = some
      (if !(k.tcb t).taskState.isSuspend then
        (taskToRunnable (k.endWait t) t, true)
      else ((k.endWait t).setTcb t
        { (k.tcb t).waitEnded with taskState := .suspend }, false)) := by
  unfold taskWaitComplete
  rw [plain]
  by_cases timed : (k.tcb t).tickCount = tnWaitInfinite <;>
    simp [Kernel.endWait, Kernel.setTcb, Tcb.waitEnded, timed]

theorem taskWaitComplete_blind (blind : Blind view t) (same : view k.tcb = m)
    (plain : (k.tcb t).taskWaitReason.isMutex = false) :
    Ends (taskWaitComplete fuel k t) (view ·.1.tcb = m) := by
  have ended : view (k.endWait t).tcb = m :=
    @Blind.setTcb _ _ _ _ _ blind same (k.tcb t).waitEnded rfl
  rw [taskWaitComplete_eq fuel plain]
  refine ends_some ?_
  split
  · exact taskToRunnable_blind blind ended
  · refine blind.setTcb ended ?_
    rw [Kernel.endWait_tcb]

theorem taskCurrToWaitAction_blind (blind : Blind view k.tnCurrRunTask)
    (same : view k.tcb = m) (waitReason : WaitReason) (timeout : Word) :
    Ends (taskCurrToWaitAction k none waitReason timeout)
      (view ·.tcb = m) := by
  refine Ends.bind (taskToNonRunnable_blind same) fun k₁ same => ?_
  have stored := @Blind.setTcb _ _ _ k₁ _ blind same
    { k₁.tcb k.tnCurrRunTask with
      taskState := .wait, taskWaitReason := waitReason, tickCount := timeout }
    rfl
  exact ends_ite (fun _ => ends_some stored) fun _ => ends_some stored

end Primitives

end UsbBulk
