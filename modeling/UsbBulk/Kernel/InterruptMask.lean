import UsbBulk.Kernel.Refusals

/-!
# The interrupt mask (`tn.h`, `tn_port_asm.s`)

A service for tasks masks the interrupts by hand: `tn_disable_interrupt` saves
the status register into a local variable and `tn_enable_interrupt` writes the
variable back.  Here a call is the list of these macros on its path, and what
they do to the control byte of CPSR.
-/

namespace UsbBulk

/-- The control byte of CPSR. -/
abbrev ControlByte := BitVec 8

def irqMask : ControlByte := 0x80

/-- `NOINT`: the bits that mask IRQ and FIQ. -/
def noInt : ControlByte := 0xC0

def modeMask : ControlByte := 0x1F

def tnCpuSaveSr (cpsr : ControlByte) : ControlByte := cpsr ||| noInt

def tnChkIrqDisabled (cpsr : ControlByte) : Bool := cpsr &&& irqMask ≠ 0

/-- What a service does to the status register. -/
inductive MaskOp where
  /-- `tn_disable_interrupt` -/
  | disable
  /-- `tn_disable_interrupt` behind a test of `tn_chk_irq_disabled` -/
  | disableIfEnabled
  /-- `tn_enable_interrupt` -/
  | enable
  /-- `tn_switch_context` -/
  | switch
  deriving DecidableEq

/-- The control byte, and the byte of `tn_save_status_reg` that
`tn_cpu_restore_sr` writes. -/
structure MaskState where
  cpsr : ControlByte
  saved : ControlByte

/-- At its call a service has nothing saved: `TN_INTSAVE_DATA`. -/
def MaskState.atCall (cpsr : ControlByte) : MaskState := ⟨cpsr, 0⟩

def MaskState.disable (m : MaskState) : MaskState :=
  ⟨tnCpuSaveSr m.cpsr, m.cpsr⟩

/-- One operation.  A caller that has switched is resumed with interrupts enabled
if another task resumes it, and with its own control byte if an interrupt does.
Only a task is resumed: while the system does not run, the caller has no control
block that could keep its stack pointer. -/
inductive MaskStep (running : Bool) : MaskOp → MaskState → MaskState → Prop where
  | disable (m : MaskState) : MaskStep running .disable m m.disable
  | disableIfEnabled (m : MaskState) :
      MaskStep running .disableIfEnabled m
        (if tnChkIrqDisabled m.cpsr then m else m.disable)
  | enable (m : MaskState) : MaskStep running .enable m ⟨m.saved, m.saved⟩
  | resumedByTask (m : MaskState) (task : running = true) :
      MaskStep running .switch m ⟨m.cpsr &&& ~~~noInt, m.saved⟩
  | resumedByInterrupt (m : MaskState) (task : running = true) :
      MaskStep running .switch m m

/-- A path from the call of a service to its return. -/
inductive MaskRun (running : Bool) :
    List MaskOp → MaskState → MaskState → Prop where
  | done (m : MaskState) : MaskRun running [] m m
  | step {op : MaskOp} {ops : List MaskOp} {m between m' : MaskState}
      (first : MaskStep running op m between)
      (rest : MaskRun running ops between m') :
      MaskRun running (op :: ops) m m'

/-- The IRQ mask bit and the mode bits are the same. -/
def SameMask (cpsr cpsr' : ControlByte) : Prop :=
  cpsr &&& (irqMask ||| modeMask) = cpsr' &&& (irqMask ||| modeMask)

instance (cpsr cpsr' : ControlByte) : Decidable (SameMask cpsr cpsr') :=
  inferInstanceAs (Decidable (_ = _))

/-! ## The paths of the services -/

/-- The checks that `checked` makes. -/
def passes (object : Option Nat) (badParam valid : Nat → Bool)
    (wrongContext : Bool) : Bool :=
  match object with
  | none => false
  | some id => !badParam id && valid id && !wrongContext

def Kernel.passesTask (k : Kernel) (task : Option TaskId) : Bool :=
  passes task (fun _ => false) k.isTask k.wrongNonIntContext

/-- The call of a service that has one critical section gets as far as that.  The
services for interrupts leave the mask alone. -/
def Call.enters (k : Kernel) : Call → Bool
  | taskSuspend task | taskResume task | taskWakeup task => k.passesTask task
  | taskActivate task | taskReleaseWait task => k.passesTask task
  | taskSleep timeout => timeout ≠ 0 && !k.wrongNonIntContext
  | taskChangePriority task newPriority =>
      passes task (fun _ => newPriority < 0 || newPriority > tnNumPriority - 2)
        k.isTask k.wrongNonIntContext
  | semSignal sem | semPolling sem =>
      passes sem k.semUnusable k.isSem k.wrongNonIntContext
  | semAcquire sem timeout =>
      passes sem (fun sem => timeout = 0 || k.semUnusable sem) k.isSem
        k.wrongNonIntContext
  | eventWait evf waitPattern _ pFlagsPattern timeout =>
      passes evf (fun _ => waitPattern = 0 || !pFlagsPattern || timeout = 0)
        k.isEvent k.wrongNonIntContext
  | eventWaitPolling evf waitPattern _ pFlagsPattern =>
      passes evf (fun _ => waitPattern = 0 || !pFlagsPattern) k.isEvent
        k.wrongNonIntContext
  | eventSet evf pattern =>
      passes evf (fun _ => pattern = 0) k.isEvent k.wrongNonIntContext
  | eventClear evf pattern =>
      passes evf (fun _ => pattern = 0xFFFFFFFF) k.isEvent
        k.wrongNonIntContext
  | queueSend dque _ timeout =>
      passes dque (fun _ => timeout = 0) k.isDque k.wrongNonIntContext
  | queueSendPolling dque _ =>
      passes dque (fun _ => false) k.isDque k.wrongNonIntContext
  | queueReceive dque dataPtr timeout =>
      passes dque (fun _ => timeout = 0 || !dataPtr) k.isDque
        k.wrongNonIntContext
  | queueReceivePolling dque dataPtr =>
      passes dque (fun _ => !dataPtr) k.isDque k.wrongNonIntContext
  | fmemGet fmp pData timeout =>
      passes fmp (fun _ => !pData || timeout = 0) k.isFmp k.wrongNonIntContext
  | fmemGetPolling fmp pData =>
      passes fmp (fun _ => !pData) k.isFmp k.wrongNonIntContext
  | fmemRelease fmp pData =>
      passes fmp (fun _ => pData = 0) k.isFmp k.wrongNonIntContext
  | mutexLock mutex timeout =>
      passes mutex (fun _ => timeout = 0) k.isMutex k.wrongNonIntContext
  | mutexLockPolling mutex | mutexUnlock mutex =>
      passes mutex (fun _ => false) k.isMutex k.wrongNonIntContext
  | _ => false

/-- A critical section, and the switch that it may end in. -/
def sectionOps (reply : Reply) : List MaskOp :=
  .disable :: .enable :: if reply.switch then [.switch] else []

/-- The values that `tn_sys_tslice_ticks` refuses. -/
def sliceRefused (priority value : Int) : Bool :=
  priority ≤ 0 || priority ≥ tnNumPriority - 1 || value < 0 ||
    value > 0xFFFE

/-- The path of a call that answers with `reply`.  A task is created in a critical
section if the system runs; the other creations have none. -/
def Call.maskOps (k : Kernel) (reply : Reply) : Call → List MaskOp
  | taskCreate _ _ =>
      if k.tnSystemRunning ∧ reply.rc = some .noErr then [.disable, .enable]
      else []
  | sysTsliceTicks priority value =>
      if k.wrongNonIntContext then []
      -- The values are checked inside the section.
      else if sliceRefused priority value then [.disable]
      else [.disable, .enable]
  | call => if call.enters k then sectionOps reply else []

/-- The rest of a deletion, from a loop over wait lists on.  After a switch
other tasks have run, and the kernel may be any. -/
inductive DeletePath (fuel : Nat)
    (prepare : Kernel → TaskId → Option Kernel) :
    List WaitList → Kernel → List MaskOp → Prop where
  | deleted (k : Kernel) :
      DeletePath fuel prepare [] k [.disableIfEnabled, .enable]
  | empty {list : WaitList} {lists : List WaitList} {k : Kernel}
      {ops : List MaskOp} (done : k.noWaiters list = true)
      (rest : DeletePath fuel prepare lists k ops) :
      DeletePath fuel prepare (list :: lists) k ops
  | released {list : WaitList} {lists : List WaitList} {k k' : Kernel}
      {ops : List MaskOp} (waiters : k.noWaiters list = false)
      (run : releaseFirst fuel k list prepare = some (k', false))
      (rest : DeletePath fuel prepare (list :: lists) k' ops) :
      DeletePath fuel prepare (list :: lists) k (.disableIfEnabled :: ops)
  | switched {list : WaitList} {lists : List WaitList} {k k' : Kernel}
      {ops : List MaskOp} (waiters : k.noWaiters list = false)
      (run : releaseFirst fuel k list prepare = some (k', true))
      (later : Kernel)
      (rest : DeletePath fuel prepare (list :: lists) later ops) :
      DeletePath fuel prepare (list :: lists) k
        (.disableIfEnabled :: .enable :: .switch :: ops)

/-- A path through a deletion, its checks included. -/
def DeleteOps (fuel : Nat) (k : Kernel) (object : Option Nat)
    (valid : Nat → Bool) (prepare : Kernel → TaskId → Option Kernel)
    (lists : Nat → List WaitList) (ops : List MaskOp) : Prop :=
  if passes object (fun _ => false) valid k.wrongNonIntContext then
    ∃ id, object = some id ∧ DeletePath fuel prepare (lists id) k ops
  else ops = []

/-- The services for tasks; `tn_task_exit` gives no answer. -/
inductive TaskService where
  | service (service : Service)
  | taskExit (attr : Word)

/-- The paths of a service to its return. -/
inductive TaskService.Path (tnTaskExit : Word) (fuel : Nat) (k : Kernel) :
    TaskService → List MaskOp → Prop where
  | plain {call : Call} {k' : Kernel} {reply : Reply}
      (run : call.exec tnTaskExit fuel k = some (k', reply)) :
      Path tnTaskExit fuel k (.service (.plain call)) (call.maskOps k reply)
  | taskTerminate {task : Option TaskId} {k' : Kernel} {reply : Reply}
      (run : tnTaskTerminate tnTaskExit fuel k task = some (k', reply)) :
      Path tnTaskExit fuel k (.service (.taskTerminate task))
        (if k.passesTask task then sectionOps reply else [])
  | taskDelete {task : Option TaskId} {k' : Kernel} {reply : Reply}
      (run : tnTaskDelete k task = some (k', reply)) :
      Path tnTaskExit fuel k (.service (.taskDelete task))
        (if k.passesTask task then sectionOps reply else [])
  | semDelete {sem : Option SemId} {ops : List MaskOp}
      (path : DeleteOps fuel k sem k.isSem (fun k _ => some k)
        (fun sem => [.sem sem]) ops) :
      Path tnTaskExit fuel k (.service (.semDelete sem)) ops
  | eventDelete {evf : Option EventId} {ops : List MaskOp}
      (path : DeleteOps fuel k evf k.isEvent (fun k _ => some k)
        (fun evf => [.event evf]) ops) :
      Path tnTaskExit fuel k (.service (.eventDelete evf)) ops
  | queueDelete {dque : Option DqueId} {ops : List MaskOp}
      (path : DeleteOps fuel k dque k.isDque (fun k _ => some k)
        (fun dque => [.dqueSend dque, .dqueReceive dque]) ops) :
      Path tnTaskExit fuel k (.service (.queueDelete dque)) ops
  | fmemDelete {fmp : Option FmpId} {ops : List MaskOp}
      (path : DeleteOps fuel k fmp k.isFmp (fun k _ => some k)
        (fun fmp => [.fmp fmp]) ops) :
      Path tnTaskExit fuel k (.service (.fmemDelete fmp)) ops
  | mutexDelete {mutex : Option MutexId} {ops : List MaskOp}
      (path : DeleteOps fuel k mutex k.isMutex
        (removeTaskFromBlockedList fuel) (fun mutex => [.mutex mutex]) ops) :
      Path tnTaskExit fuel k (.service (.mutexDelete mutex)) ops
  -- Past its check the service ends in `tn_switch_context_exit`.
  | taskExit (attr : Word) (refused : k.wrongIntContext = true) :
      Path tnTaskExit fuel k (.taskExit attr) []

/-- A call that returns with another mask: the values for `tn_sys_tslice_ticks`
are refused, or a deletion finds the interrupts disabled and saves nothing, but
restores. -/
def TaskService.LosesMask (k : Kernel) : TaskService → Prop
  | service (.plain (.sysTsliceTicks priority value)) =>
      k.irqDisabled = false ∧ k.wrongNonIntContext = false ∧
        sliceRefused priority value = true
  | service (.semDelete sem) =>
      k.irqDisabled = true ∧
        passes sem (fun _ => false) k.isSem k.wrongNonIntContext = true
  | service (.eventDelete evf) =>
      k.irqDisabled = true ∧
        passes evf (fun _ => false) k.isEvent k.wrongNonIntContext = true
  | service (.queueDelete dque) =>
      k.irqDisabled = true ∧
        passes dque (fun _ => false) k.isDque k.wrongNonIntContext = true
  | service (.fmemDelete fmp) =>
      k.irqDisabled = true ∧
        passes fmp (fun _ => false) k.isFmp k.wrongNonIntContext = true
  | service (.mutexDelete mutex) =>
      k.irqDisabled = true ∧
        passes mutex (fun _ => false) k.isMutex k.wrongNonIntContext = true
  | _ => False

/-! ## The control byte -/

section ControlByte

variable {cpsr cpsr' : ControlByte}

theorem SameMask.refl (cpsr : ControlByte) : SameMask cpsr cpsr :=
  rfl

theorem SameMask.chk (same : SameMask cpsr cpsr') :
    tnChkIrqDisabled cpsr = tnChkIrqDisabled cpsr' := by
  have part : ∀ byte : ControlByte,
      byte &&& irqMask = byte &&& (irqMask ||| modeMask) &&& irqMask := by
    decide
  rw [tnChkIrqDisabled, tnChkIrqDisabled, part cpsr, part cpsr',
    show cpsr &&& _ = _ from same]

theorem chk_tnCpuSaveSr (cpsr : ControlByte) :
    tnChkIrqDisabled (tnCpuSaveSr cpsr) = true := by
  revert cpsr
  decide

/-- A task that is resumed by another one runs with interrupts enabled. -/
theorem sameMask_resumed (enabled : tnChkIrqDisabled cpsr = false) :
    SameMask cpsr (cpsr &&& ~~~noInt) := by
  have every : ∀ byte : ControlByte, tnChkIrqDisabled byte = false →
      SameMask byte (byte &&& ~~~noInt) := by
    decide
  exact every cpsr enabled

theorem sameMask_tnCpuSaveSr_iff (cpsr : ControlByte) :
    SameMask cpsr (tnCpuSaveSr cpsr) ↔ tnChkIrqDisabled cpsr = true := by
  revert cpsr
  decide

end ControlByte

/-! ## What a path does to the mask -/

section Paths

variable {running : Bool} {m m' : MaskState} {ops : List MaskOp}

theorem MaskRun.nil_eq (run : MaskRun running [] m m') : m' = m := by
  cases run
  rfl

theorem MaskRun.disable_inv (run : MaskRun running (.disable :: ops) m m') :
    MaskRun running ops m.disable m' := by
  cases run with
  | step first rest =>
      cases first
      exact rest

theorem MaskRun.disableIfEnabled_inv
    (run : MaskRun running (.disableIfEnabled :: ops) m m') :
    MaskRun running ops
      (if tnChkIrqDisabled m.cpsr then m else m.disable) m' := by
  cases run with
  | step first rest =>
      cases first
      exact rest

theorem MaskRun.enable_inv (run : MaskRun running (.enable :: ops) m m') :
    MaskRun running ops ⟨m.saved, m.saved⟩ m' := by
  cases run with
  | step first rest =>
      cases first
      exact rest

/-- A caller that switches with interrupts enabled is resumed with the same
mask. -/
theorem MaskRun.switch_inv (run : MaskRun running (.switch :: ops) m m')
    (enabled : tnChkIrqDisabled m.cpsr = false) :
    ∃ between : MaskState, SameMask m.cpsr between.cpsr ∧
      MaskRun running ops between m' := by
  cases run with
  | step first rest =>
      cases first with
      | resumedByTask => exact ⟨_, sameMask_resumed enabled, rest⟩
      | resumedByInterrupt => exact ⟨_, rfl, rest⟩

theorem MaskRun.switch_running
    (run : MaskRun running (.switch :: ops) m m') : running = true := by
  cases run with
  | step first rest =>
      cases first with
      | resumedByTask _ task => exact task
      | resumedByInterrupt _ task => exact task

/-- A critical section keeps the mask, if it is not left by a switch with
interrupts disabled. -/
theorem sectionOps_sameMask {reply : Reply}
    (run : MaskRun running (sectionOps reply) m m')
    (enabled : running = true → tnChkIrqDisabled m.cpsr = false) :
    SameMask m.cpsr m'.cpsr := by
  have after := run.disable_inv.enable_inv
  split at after
  case isTrue =>
      obtain ⟨between, same, rest⟩ :=
        after.switch_inv (enabled after.switch_running)
      rw [rest.nil_eq]
      exact same
  case isFalse =>
      rw [after.nil_eq]
      rfl

/-- At the head of a loop of a deletion that has found interrupts enabled: they
still are, or the mask has been saved. -/
def Restorable (cpsr : ControlByte) (m : MaskState) : Prop :=
  (tnChkIrqDisabled m.cpsr = false ∧ SameMask cpsr m.cpsr) ∨
    (tnChkIrqDisabled m.cpsr = true ∧ SameMask cpsr m.saved)

/-- After `disableIfEnabled` the mask has been saved. -/
theorem Restorable.saved {cpsr : ControlByte} (restorable : Restorable cpsr m) :
    let masked := if tnChkIrqDisabled m.cpsr then m else m.disable
    tnChkIrqDisabled masked.cpsr = true ∧ SameMask cpsr masked.saved := by
  intro masked
  rcases restorable with ⟨enabled, same⟩ | ⟨disabled, same⟩
  · rw [show masked = m.disable from if_neg (by rw [enabled]; decide)]
    exact ⟨chk_tnCpuSaveSr _, same⟩
  · rw [show masked = m from if_pos disabled]
    exact ⟨disabled, same⟩

variable {fuel : Nat} {prepare : Kernel → TaskId → Option Kernel}
  {lists : List WaitList} {k : Kernel}

/-- A deletion that has found interrupts enabled leaves them so.  The induction
is on the path; what each round keeps is `Restorable`. -/
theorem DeletePath.sameMask {cpsr : ControlByte}
    (path : DeletePath fuel prepare lists k ops)
    (enabled : tnChkIrqDisabled cpsr = false)
    (restorable : Restorable cpsr m) (run : MaskRun running ops m m') :
    SameMask cpsr m'.cpsr := by
  induction path generalizing m with
  | deleted k =>
      rw [run.disableIfEnabled_inv.enable_inv.nil_eq]
      exact restorable.saved.2
  | empty done rest ih => exact ih restorable run
  | released waiters released rest ih =>
      exact ih (.inr restorable.saved) run.disableIfEnabled_inv
  | switched waiters released later rest ih =>
      obtain ⟨-, same⟩ := restorable.saved
      obtain ⟨between, resumed, after⟩ :=
        run.disableIfEnabled_inv.enable_inv.switch_inv
          (same.chk.symm.trans enabled)
      have kept : SameMask cpsr between.cpsr := same.trans resumed
      exact ih (.inl ⟨kept.chk.symm.trans enabled, kept⟩) after

/-- A deletion that has found interrupts disabled restores what it has not
saved. -/
theorem DeletePath.unsaved (path : DeletePath fuel prepare lists k ops)
    (disabled : tnChkIrqDisabled m.cpsr = true) (unsaved : m.saved = 0)
    (run : MaskRun false ops m m') : m'.cpsr = 0 := by
  induction path generalizing m with
  | deleted k =>
      have after := run.disableIfEnabled_inv.enable_inv
      rw [if_pos disabled] at after
      rw [after.nil_eq]
      exact unsaved
  | empty done rest ih => exact ih disabled unsaved run
  | released waiters released rest ih =>
      have after := run.disableIfEnabled_inv
      rw [if_pos disabled] at after
      exact ih disabled unsaved after
  | switched waiters released later rest ih =>
      exact absurd run.disableIfEnabled_inv.enable_inv.switch_running
        (by decide)

/-- A call that passes the check of its context with interrupts disabled comes
before the system runs. -/
theorem not_running_of_disabled (allowed : k.wrongNonIntContext = false)
    (disabled : k.irqDisabled = true) : k.tnSystemRunning = false := by
  simp only [Kernel.wrongNonIntContext, disabled, Bool.true_and,
    Bool.or_eq_false_iff] at allowed
  exact allowed.2

theorem allowed_of_passes {object : Option Nat}
    {badParam valid : Nat → Bool} {wrongContext : Bool}
    (passed : passes object badParam valid wrongContext = true) :
    wrongContext = false := by
  cases object with
  | none => cases passed
  | some id =>
      simp only [passes, Bool.and_eq_true, Bool.not_eq_true'] at passed
      exact passed.2

theorem deleteOps_sameMask_iff {cpsr : ControlByte} {object : Option Nat}
    {valid : Nat → Bool} {lists : Nat → List WaitList}
    (path : DeleteOps fuel k object valid prepare lists ops)
    (agrees : tnChkIrqDisabled cpsr = k.irqDisabled)
    (run : MaskRun k.tnSystemRunning ops (.atCall cpsr) m') :
    SameMask cpsr m'.cpsr ↔ ¬(k.irqDisabled = true ∧
      passes object (fun _ => false) valid k.wrongNonIntContext = true) := by
  unfold DeleteOps at path
  split at path
  case isFalse refused =>
      subst path
      rw [run.nil_eq]
      exact iff_of_true rfl fun loses => refused loses.2
  case isTrue passed =>
      obtain ⟨id, -, path⟩ := path
      cases irq : k.irqDisabled
      case false =>
          refine iff_of_true ?_ fun loses => absurd loses.1 (by decide)
          rw [irq] at agrees
          exact path.sameMask agrees (.inl ⟨agrees, .refl cpsr⟩) run
      case true =>
          rw [irq] at agrees
          refine iff_of_false (fun same => ?_) (not_not.mpr ⟨rfl, passed⟩)
          rw [not_running_of_disabled (allowed_of_passes passed) irq] at run
          have zero := path.unsaved agrees rfl run
          have enabled := same.chk
          rw [zero, agrees] at enabled
          exact absurd enabled (by decide)

/-- A service that enters its critical section while the system runs has found
interrupts enabled. -/
theorem Kernel.enabled_of_allowed (allowed : k.wrongNonIntContext = false)
    (running : k.tnSystemRunning = true) : k.irqDisabled = false := by
  by_contra disabled
  have stopped := not_running_of_disabled allowed (eq_true_of_ne_false disabled)
  exact absurd (stopped.symm.trans running) (by decide)

theorem Call.enabled_of_enters {call : Call} (enters : call.enters k = true)
    (running : k.tnSystemRunning = true) : k.irqDisabled = false := by
  refine Kernel.enabled_of_allowed ?_ running
  cases call
  case taskSleep timeout =>
      simp only [Call.enters, Bool.and_eq_true, Bool.not_eq_true'] at enters
      exact enters.2
  all_goals first
    | cases enters
    | exact allowed_of_passes enters

theorem Call.sameMask_iff {cpsr : ControlByte} {call : Call} {reply : Reply}
    (agrees : tnChkIrqDisabled cpsr = k.irqDisabled)
    (run : MaskRun k.tnSystemRunning (call.maskOps k reply) (.atCall cpsr)
      m') :
    SameMask cpsr m'.cpsr ↔
      ¬(TaskService.service (.plain call)).LosesMask k := by
  unfold Call.maskOps at run
  split at run
  case h_1 =>
      refine iff_of_true ?_ id
      split at run
      · rw [run.disable_inv.enable_inv.nil_eq]
        exact .refl cpsr
      · rw [run.nil_eq]
        exact .refl cpsr
  case h_2 priority value =>
      split_ifs at run with context refused
      · rw [run.nil_eq]
        refine iff_of_true (.refl cpsr) fun loses => ?_
        exact absurd (loses.2.1.symm.trans context) (by decide)
      · rw [run.disable_inv.nil_eq]
        refine (sameMask_tnCpuSaveSr_iff cpsr).trans ?_
        rw [agrees]
        simp [TaskService.LosesMask, refused, context]
      · rw [run.disable_inv.enable_inv.nil_eq]
        exact iff_of_true (.refl cpsr) fun loses => refused loses.2.2
  case h_3 notCreate notSlice =>
      refine iff_of_true ?_ ?_
      · split at run
        case isTrue enters =>
            refine sectionOps_sameMask run fun running => ?_
            rw [show (MaskState.atCall cpsr).cpsr = cpsr from rfl, agrees]
            exact Call.enabled_of_enters enters running
        case isFalse =>
            rw [run.nil_eq]
            exact .refl cpsr
      · unfold TaskService.LosesMask
        split
        case h_1 equal =>
            cases equal
            exact absurd rfl (notSlice _ _)
        case h_7 => exact id
        all_goals
          rename_i equal
          cases equal

end Paths

/-! ## The discipline -/

/-- A service that returns to its caller leaves the IRQ mask and the mode as they
were at the call, up to the two slips. -/
theorem mask_kept {tnTaskExit : Word} {fuel : Nat} {k : Kernel}
    {service : TaskService} {ops : List MaskOp} {cpsr : ControlByte}
    {m' : MaskState} (path : service.Path tnTaskExit fuel k ops)
    (agrees : tnChkIrqDisabled cpsr = k.irqDisabled)
    (run : MaskRun k.tnSystemRunning ops (.atCall cpsr) m') :
    SameMask cpsr m'.cpsr ↔ ¬service.LosesMask k := by
  have enabled {task : Option TaskId} (passed : k.passesTask task = true)
      (running : k.tnSystemRunning = true) :
      tnChkIrqDisabled cpsr = false :=
    agrees.trans (Kernel.enabled_of_allowed (allowed_of_passes passed) running)
  cases path with
  | plain => exact Call.sameMask_iff agrees run
  | taskTerminate | taskDelete =>
      refine iff_of_true ?_ id
      split at run
      case isTrue passed => exact sectionOps_sameMask run (enabled passed)
      case isFalse =>
          rw [run.nil_eq]
          exact .refl cpsr
  | semDelete path => exact deleteOps_sameMask_iff path agrees run
  | eventDelete path => exact deleteOps_sameMask_iff path agrees run
  | queueDelete path => exact deleteOps_sameMask_iff path agrees run
  | fmemDelete path => exact deleteOps_sameMask_iff path agrees run
  | mutexDelete path => exact deleteOps_sameMask_iff path agrees run
  | taskExit =>
      rw [run.nil_eq]
      exact iff_of_true (.refl cpsr) id

/-- The semaphore is signalled by a task in supervisor mode. -/
theorem mask_kept_withSem : SameMask 0x13 0x13 ↔
    ¬(TaskService.service (.plain (.semSignal (some 0)))).LosesMask
      .withSem :=
  @mask_kept 0 0 .withSem _ [.disable, .enable] 0x13 ⟨0x13, 0x13⟩
    (@TaskService.Path.plain 0 0 .withSem (.semSignal (some 0))
      (tnSemSignal 0 .withSem (some 0)).after (.ret .overflow) rfl)
    rfl (.step (.disable _) (.step (.enable _) (.done _)))

/-- The system after its start: the first refusal freezes it.  Before its start:
a deletion with interrupts disabled writes 0 to the control byte. -/
theorem mask_lost :
    (∃ k ops m', Reachable .sample (fun _ _ => True) k ∧
      (TaskService.service (.plain (.sysTsliceTicks 0 1))).Path
        Image.sample.tnTaskExit 0 k ops ∧
      tnChkIrqDisabled 0x13 = k.irqDisabled ∧
      MaskRun k.tnSystemRunning ops (.atCall 0x13) m' ∧
      ¬SameMask 0x13 m'.cpsr) ∧
    ∃ k ops m', k = (tnSemCreate .zeroed (some 0) 1 1).after ∧
      (TaskService.service (.semDelete (some 0))).Path
        Image.sample.tnTaskExit 0 k ops ∧
      tnChkIrqDisabled 0xD3 = k.irqDisabled ∧
      MaskRun k.tnSystemRunning ops (.atCall 0xD3) m' ∧
      ¬SameMask 0xD3 m'.cpsr := by
  constructor
  · exact ⟨.started, [.disable], _,
      .start Kernel.fresh_zeroed tnStartSystem_started,
      @TaskService.Path.plain _ 0 .started (.sysTsliceTicks 0 1)
        (tnSysTsliceTicks .started 0 1).after (.ret .wrongParam) rfl, rfl,
      .step (.disable _) (.done _), by decide⟩
  · exact ⟨_, [.disableIfEnabled, .enable], _, rfl,
      .semDelete ⟨0, rfl, .empty rfl (.deleted _)⟩, rfl,
      .step (.disableIfEnabled _) (.step (.enable _) (.done _)), by decide⟩

end UsbBulk
