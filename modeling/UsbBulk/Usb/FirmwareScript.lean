import UsbBulk.Kernel.Script
import UsbBulk.Usb.Firmware

/-!
# Runs of the firmware that are written down

A script lists what the tasks and the interrupt routines do.  The links are tabulated
as in the scripts of the kernel.
-/

namespace UsbBulk

/-! ## A board -/

def Lane.number : Lane → Nat
  | ep2Rx => 0
  | ep2Tx => 1
  | ep5Rx => 2
  | ep5Tx => 3
  | epExch => 4

def AppTask.number : AppTask → Nat
  | processing => 2
  | io => 3
  | ep2Rx => 4
  | ep2Tx => 5
  | ep5Rx => 6
  | ep5Tx => 7

/-- One layout: the pools have 1024 bytes each. -/
def Board.layout (build : Build) : Board build where
  image := .sample
  task := AppTask.number
  queue := Lane.number
  memPool := Lane.number
  taskFunc _ := 0x1000
  taskStack t := BitVec.ofNat 32 (0x40000000 + 0x200 * t.number)
  queueMem _ _ := 0
  poolMem c := BitVec.ofNat 32 (0x40004000 + 0x400 * c.number)
  task_inj := by
    intro t t' same
    cases t <;> cases t' <;> first | rfl | cases same
  task_ne_idle t := by cases t <;> decide
  task_ne_timer t := by cases t <;> decide
  queue_inj := by
    intro c c' same
    cases c <;> cases c' <;> first | rfl | cases same
  memPool_inj := by
    intro c c' same
    cases c <;> cases c' <;> first | rfl | cases same
  aligned c := by cases c <;> decide
  notNull c := by cases c <;> decide
  bounded c := by
    cases build <;> cases c <;> simp [Lane.size, Lane.number, usbMaxPacket0]
  apart c c' different := by
    cases build <;> cases c <;> cases c' <;>
      first
      | exact absurd rfl different
      | simp [Lane.size, Lane.number, usbMaxPacket0]

/-- The firmware without DMA. -/
abbrev Board.sample : Board .noDma := .layout .noDma

/-- The firmware when the interrupts are enabled. -/
def Firmware.booted (k : Kernel) : Firmware :=
  .atStart k (.atStart 0 0 fun _ => 0)

/-! ## Scripts -/

/-- One step of a task, or of the scheduler. -/
inductive TaskMove where
  | app (task : AppTask)
  | timer
  | switch

namespace TaskMove

/-- A task sleeps. -/
def sleep (st : Firmware) (timeout : Word) : Option Firmware :=
  (tnTaskSleep st.kernel timeout).map fun after =>
    { st with kernel := after.1 }

/-- The task runs. -/
def running (st : Firmware) (task : TaskId) : Bool :=
  st.kernel.tnCurrRunTask = task ∧ (st.kernel.tcb task).taskState = .runnable

section Steps

variable {build : Build} {b : Board build} {fuel : Nat} {st st' : Firmware}

/-- The state after a step that is possible. -/
def exec (b : Board build) (fuel : Nat) (st : Firmware) :
    TaskMove → Option Firmware
  | app task =>
      if running st (b.task task) then
        match task with
        | .processing | .io => sleep st 10
        | .ep2Rx => b.taskEp2RxFunc fuel st
        | .ep2Tx => b.taskEp2TxFunc fuel st
        | .ep5Rx => b.taskEp5RxFunc fuel st
        | .ep5Tx => b.taskEp5TxFunc fuel st
      else none
  | timer =>
      if running st b.image.timerTask then sleep st tnWaitInfinite else none
  | switch =>
      (tnSwitchContext st.kernel).map fun k => { st with kernel := k }

theorem sleep_step {task : TaskId} {timeout : Word}
    (sleeper : b.Sleeper task timeout) (runs : st.Runs task)
    (run : sleep st timeout = some st') : CommonStep b st st' := by
  obtain ⟨⟨k, reply⟩, slept, rfl⟩ := Option.map_eq_some_iff.mp run
  exact .sleep sleeper runs slept

theorem running_runs {task : TaskId} (runs : running st task = true) :
    st.Runs task := by
  obtain ⟨current, runnable⟩ := of_decide_eq_true runs
  exact ⟨current, runnable⟩

theorem exec_step {move : TaskMove} (run : move.exec b fuel st = some st') :
    CommonStep b st st' := by
  cases move with
  | app task =>
      obtain ⟨runs, run⟩ := Option.ite_none_right_eq_some.mp run
      have runs := running_runs runs
      cases task with
      | processing => exact sleep_step .processing runs run
      | io => exact sleep_step .io runs run
      | ep2Rx => exact .ep2Rx fuel runs run
      | ep2Tx => exact .ep2Tx fuel runs run
      | ep5Rx => exact .ep5Rx fuel runs run
      | ep5Tx => exact .ep5Tx fuel runs run
  | timer =>
      obtain ⟨runs, run⟩ := Option.ite_none_right_eq_some.mp run
      exact sleep_step .timer (running_runs runs) run
  | switch =>
      obtain ⟨k, dispatch, rfl⟩ := Option.map_eq_some_iff.mp run
      exact .dispatch dispatch

end Steps

end TaskMove

/-- One step of a script. -/
inductive FirmwareMove where
  | task (move : TaskMove)
  | usb (int : UsbInterrupt)

def FirmwareMove.exec (b : Board .noDma) (fuel : Nat) (st : Firmware) :
    FirmwareMove → Option Firmware
  | task move => move.exec b fuel st
  | usb int =>
      (b.tnUsbIntFunc fuel int { st with kernel := st.kernel.enterIrq }).map
        fun st => { st with kernel := st.kernel.leaveIrq }

theorem FirmwareMove.exec_firmwareStep {b : Board .noDma} {fuel : Nat}
    {st st' : Firmware} {move : FirmwareMove}
    (run : move.exec b fuel st = some st') : FirmwareStep b st st' := by
  cases move with
  | task move => exact .common (TaskMove.exec_step run)
  | usb int =>
      obtain ⟨after, ran, rfl⟩ := Option.map_eq_some_iff.mp run
      exact .usb fuel int ran

/-- The state after all steps of a script. -/
def Firmware.follow (b : Board .noDma) (fuel : Nat) (stage : Stage) :
    Firmware → List FirmwareMove → Option Firmware
  | st, [] => some st
  | st, move :: moves => (move.exec b fuel st).bind fun st =>
      st.kernel.settle stage fun k =>
        Firmware.follow b fuel stage { st with kernel := k } moves

section Scripts

variable {b : Board .noDma} {fuel : Nat} {stage : Stage} {moves : List FirmwareMove}
variable {st st' : Firmware}

theorem FirmwareRun.follow (before : FirmwareRun b st)
    (run : st.follow b fuel stage moves = some st') : FirmwareRun b st' := by
  induction moves generalizing st with
  | nil =>
      cases run
      exact before
  | cons move moves ih =>
      obtain ⟨st₁, exec, run⟩ := Option.bind_eq_some_iff.mp run
      rw [Kernel.settle_eq] at run
      exact ih (.next before (FirmwareMove.exec_firmwareStep exec)) run

/-- What is found at the end of a script holds of the state of a run. -/
theorem FirmwareRun.of_script {holds : Firmware → Bool}
    (found : ((Board.sample.makeCalls fuel Board.sample.tnAppInit
      .started).bind fun k => k.settle stage fun k =>
        (Firmware.booted k).follow .sample fuel stage moves).any holds =
          true) :
    ∃ st, FirmwareRun .sample st ∧ holds st = true := by
  obtain ⟨st, run, ends⟩ := (Option.any_eq_true ..).mp found
  obtain ⟨k, init, run⟩ := Option.bind_eq_some_iff.mp run
  rw [Kernel.settle_eq] at run
  exact ⟨st, FirmwareRun.follow (.start fuel Kernel.fresh_zeroed
    tnStartSystem_started init) run, ends⟩

end Scripts

/-! ## What happens in the scripts -/

/-- The lists in which tasks are in these scripts. -/
def Stage.firmware : Stage where
  tasks := [0, 1, 2, 3, 4, 5, 6, 7]
  heads := [.ready 0, .ready 5, .ready 6, .ready 7, .ready 8, .ready 9,
    .wait (.dqueSend 1), .wait (.dqueReceive 0), .wait (.dqueReceive 2),
    .wait (.dqueReceive 4)]
  mutexes := []

def UsbPacket.sample : UsbPacket where
  len := 8
  words := [1, 2]
  bounded := by decide
  whole := by decide

/-- An endpoint has an interrupt; if it is one from the host, it has a packet. -/
def UsbInterrupt.bulk (c : Lane) : UsbInterrupt where
  devIntSt := 0
  devStatus := 0
  devIntStNext := epSlow
  epIntSt := c.epIntBit
  stp := none
  incoming := []
  packet _ := some .sample

/-- The first task that copies runs. -/
def wakeMoves : List TaskMove := [.timer, .switch, .app .processing, .switch]

/-- All tasks but one wait.  The last one to wait takes so many steps until all its
blocks are filled. -/
def waitMoves (fills : Nat) : List TaskMove :=
  wakeMoves ++ [.app .ep5Tx, .switch, .app .ep5Rx, .switch] ++
  List.replicate fills (.app .ep2Tx)

/-- Two tasks copy a packet that has come in. -/
def copyMoves : List TaskMove :=
  [.switch] ++ List.replicate 19 (.app .ep2Rx) ++ [.switch] ++
  List.replicate 21 (.app .ep5Tx) ++ [.switch, .app .ep2Rx, .app .ep2Rx]

end UsbBulk
