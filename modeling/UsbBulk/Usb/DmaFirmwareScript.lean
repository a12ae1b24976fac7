import UsbBulk.Usb.DmaFirmware
import UsbBulk.Usb.FirmwareScript

/-!
# Runs of the firmware with DMA that are written down

Beside the tasks, the engine takes packets from the bus, and its interrupts are served.
-/

namespace UsbBulk

/-- The firmware with DMA on a calm bus. -/
abbrev Board.sampleDma : Board (.dma .calm) := .layout (.dma .calm)

/-- The firmware with DMA when the interrupts are enabled. -/
def DmaFirmware.booted (k : Kernel) : DmaFirmware :=
  .atStart k (.atStart 0 0 fun _ => 0) fun _ => 0

/-- Only the engine has an interrupt, and it waits for the routine. -/
def DmaInterrupt.calm : DmaInterrupt where
  usb := {
    devIntSt := 0
    devStatus := 0
    devIntStNext := 0
    epIntSt := 0
    stp := none
    incoming := []
    packet _ := none }
  reads _ := none
  serves _ _ := none

/-- One step of a script. -/
inductive DmaMove where
  | task (move : TaskMove)
  | transfer (e : Endpoint) (packet : UsbPacket)
  | interrupt

/-- The state after a step that is possible. -/
def DmaMove.exec (b : Board (.dma .calm)) (fuel : Nat) (st : DmaFirmware) :
    DmaMove → Option DmaFirmware
  | task move => (move.exec b fuel st.toFirmware).map st.setFirmware
  | transfer e packet =>
      if e.lane.isOut = true ∧
          ddRetired st.engine.ram ((st.ep e).current (b.edi e)) = false then
        some ((st.setEp e ((st.ep e).transfer (b.edi e) packet 0 1
          false)).acknowledge e packet)
      else none
  | interrupt =>
      (b.tnUsbDmaIntFunc fuel .calm (st.setKernel st.kernel.enterIrq)).map
        fun st => st.setKernel st.kernel.leaveIrq

/-- The state after all steps of a script. -/
def DmaFirmware.follow (b : Board (.dma .calm)) (fuel : Nat) (stage : Stage) :
    DmaFirmware → List DmaMove → Option DmaFirmware
  | st, [] => some st
  | st, move :: moves => (move.exec b fuel st).bind fun st =>
      st.kernel.settle stage fun k =>
        DmaFirmware.follow b fuel stage (st.setKernel k) moves

section Scripts

variable {b : Board (.dma .calm)} {fuel : Nat} {stage : Stage}
variable {moves : List DmaMove} {st st' : DmaFirmware}

theorem DmaMove.exec_dmaStep {move : DmaMove}
    (run : move.exec b fuel st = some st') : DmaFirmwareStep b st st' := by
  cases move with
  | task move =>
      obtain ⟨after, ran, rfl⟩ := Option.map_eq_some_iff.mp run
      exact .common (TaskMove.exec_step ran)
  | transfer e packet =>
      obtain ⟨⟨out, active⟩, run⟩ := Option.ite_none_right_eq_some.mp run
      cases run
      exact .transfer out packet 0 1 false active (by decide)
  | interrupt =>
      obtain ⟨after, ran, rfl⟩ := Option.map_eq_some_iff.mp run
      refine .interrupt fuel .calm (fun _ => ⟨⟨fun _ => rfl, fun _ _ => rfl⟩,
        fun resets => ?_⟩) ran
      cases resets

theorem DmaFirmwareRun.follow (before : DmaFirmwareRun b st)
    (run : st.follow b fuel stage moves = some st') : DmaFirmwareRun b st' := by
  induction moves generalizing st with
  | nil =>
      cases run
      exact before
  | cons move moves ih =>
      obtain ⟨st₁, exec, run⟩ := Option.bind_eq_some_iff.mp run
      rw [Kernel.settle_eq] at run
      exact ih (.next before (DmaMove.exec_dmaStep exec)) run

/-- What is found at the end of a script holds of the state of a run. -/
theorem DmaFirmwareRun.of_script {holds : DmaFirmware → Bool}
    (found : ((Board.sampleDma.makeCalls fuel Board.sampleDma.tnAppInit
      .started).bind fun k => k.settle stage fun k =>
        (DmaFirmware.booted k).follow .sampleDma fuel stage moves).any holds =
          true) :
    ∃ st, DmaFirmwareRun .sampleDma st ∧ holds st = true := by
  obtain ⟨st, run, ends⟩ := (Option.any_eq_true ..).mp found
  obtain ⟨k, init, run⟩ := Option.bind_eq_some_iff.mp run
  rw [Kernel.settle_eq] at run
  exact ⟨st, DmaFirmwareRun.follow (.start _ fuel Kernel.fresh_zeroed
    tnStartSystem_started init) run, ends⟩

end Scripts

end UsbBulk
