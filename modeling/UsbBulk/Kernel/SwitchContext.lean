import UsbBulk.ArmMachine
import UsbBulk.Kernel.Port

/-!
# Saving a context (`tn_port_asm.s`)

The instructions with which the kernel leaves one task and goes on with another.
Three routines write the frame of a task: one for a new task, one for a task that
gives up the processor, and one for a task that has been interrupted.
-/

namespace UsbBulk

open Arm

/-- Where the linker puts the variables that the routines use. -/
structure Symbols where
  tnCurrRunTask : Word
  tnNextTaskToRun : Word
  tnIntCounter : Word
  tnContextSwitchRequest : Word

namespace Symbols

variable (symbols : Symbols)

def tnSwitchContextExit : List Instr := [
  .mrsCpsr (.r 0), .orr (.r 0) (.r 0) noIntBits, .msrCpsrC (.r 0),
  .ldrConst (.r 0) symbols.tnCurrRunTask,
  .ldrConst (.r 1) symbols.tnNextTaskToRun,
  .ldr (.r 1) (.r 1), .ldr .sp (.r 1),
  .str (.r 1) (.r 0),
  .ldmfd .sp true [.r 0], .ldmfd .sp true [.r 0], .msrCpsrC (.r 0),
  .mrsCpsr (.r 0), .bic (.r 0) (.r 0) noIntBits, .msrCpsrC (.r 0),
  .ldmfd .sp true (lowRegs ++ [.lr, .pc])]

/-- `tn_switch_context` up to the first comparison. -/
def pushContext : List Instr := [
  .stmfd .sp [.lr], .stmfd .sp (lowRegs ++ [.lr]),
  .mrsCpsr (.r 0), .stmfd .sp [.r 0], .mrsSpsr (.r 0), .stmfd .sp [.r 0],
  .mrsCpsr (.r 4), .orr (.r 4) (.r 4) noIntBits, .msrCpsrC (.r 4),
  .ldrConst (.r 1) symbols.tnCurrRunTask,
  .ldrConst (.r 0) symbols.tnNextTaskToRun,
  .cmp (.r 0) 0]

def storeStack : List Instr := [.ldr (.r 2) (.r 1), .str .sp (.r 2)]

/-- `tn_switch_context` from there on. -/
def restoreContext : List Instr := [
  .ldr (.r 0) (.r 0), .ldr .sp (.r 0), .str (.r 0) (.r 1),
  .ldmfd .sp true [.r 0], .ldmfd .sp true [.r 1],
  .msrCpsr (.r 1), .msrSpsr (.r 0),
  .mrsCpsr (.r 4), .bic (.r 4) (.r 4) noIntBits, .msrCpsrC (.r 4),
  .ldmfd .sp true (lowRegs ++ [.lr, .pc])]

/-- The first half of `tn_switch_context`, unless it goes to `tn_sw_restore` at
once. -/
def saveContext (cpu : Cpu) : Option Cpu :=
  let cpu := exec symbols.pushContext cpu
  if cpu.zero then none
  else
    let cpu := exec [.cmpReg (.r 1) (.r 0)] cpu
    if cpu.zero then none else some (exec storeStack cpu)

/-- `tn_cpu_irq_isr` up to the call of `tn_cpu_irq_handler`. -/
def enterIsr : List Instr := [
  .stmfd .sp (lowRegs ++ [.lr]),
  .ldrConst (.r 2) symbols.tnIntCounter, .ldr (.r 3) (.r 2),
  .add (.r 0) (.r 3) 1, .str (.r 0) (.r 2)]

def countDown : List Instr := [
  .ldrConst (.r 2) symbols.tnIntCounter, .ldr (.r 1) (.r 2),
  .sub (.r 3) (.r 1) 1, .str (.r 3) (.r 2), .cmp (.r 3) 0]

def readRequest : List Instr := [
  .ldrConst (.r 0) symbols.tnContextSwitchRequest, .ldr (.r 1) (.r 0),
  .cmp (.r 1) 0]

def clearRequest : List Instr := [.movImm (.r 1) 0, .str (.r 1) (.r 0)]

/-- `tn_int_ctx_switch` up to the store into the control block. -/
def moveContext : List Instr := [
  .mrsSpsr (.r 0), .orr (.r 0) (.r 0) noIntBits, .bic (.r 0) (.r 0) tBit,
  .msrCpsrC (.r 0),
  .mov (.r 1) .sp, .mov (.r 2) .lr,
  .bic (.r 0) (.r 0) modeBits, .orr (.r 0) (.r 0) irqMode, .msrCpsrC (.r 0),
  .mov (.r 3) .sp, .add .sp .sp 48, .ldmfd .sp true [.r 12, .lr],
  .sub .lr .lr 4,
  .stmfd (.r 1) [.r 2, .lr],
  .stmfd (.r 1)
    [.r 4, .r 5, .r 6, .r 7, .r 8, .r 9, .r 10, .r 11, .r 12],
  .mov (.r 6) (.r 1), .mov (.r 4) (.r 3),
  .ldmfd (.r 4) false [.r 0, .r 1, .r 2, .r 3],
  .stmfd (.r 6) [.r 0, .r 1, .r 2, .r 3],
  .mrsSpsr (.r 3), .stmfd (.r 6) [.r 3], .sub (.r 6) (.r 6) 4,
  .ldrConst (.r 4) symbols.tnCurrRunTask, .ldr (.r 5) (.r 4),
  .str (.r 6) (.r 5)]

/-- `tn_cpu_irq_isr` after the call, if it switches to another task. -/
def saveInterrupted (cpu : Cpu) : Option Cpu :=
  let cpu := exec symbols.countDown cpu
  if cpu.zero then
    let cpu := exec symbols.readRequest cpu
    if cpu.zero then none
    else some (exec (clearRequest ++ symbols.moveContext) cpu)
  else none

/-- `tn_int_ctx_switch` from there on. -/
def restoreNext : List Instr := [
  .ldrConst (.r 6) symbols.tnNextTaskToRun, .ldr (.r 6) (.r 6),
  .ldr (.r 5) (.r 6), .str (.r 6) (.r 4), .add (.r 5) (.r 5) 4,
  .ldmfd (.r 5) true [.r 4],
  .orr (.r 0) (.r 4) noIntBits, .bic (.r 0) (.r 0) tBit, .msrCpsrC (.r 0),
  .msrSpsr (.r 4), .mov .sp (.r 5),
  .ldmfdStatus .sp (lowRegs ++ [.lr, .pc])]

end Symbols

/-- What a task goes on with. -/
structure Context where
  r : Fin 13 → Word
  sp : Word
  lr : Word
  pc : Word
  cpsr : Word

namespace Context

/-- The words of the frame, without the saved status register. -/
def words (c : Context) : List Word :=
  [c.cpsr, c.r 0, c.r 1, c.r 2, c.r 3, c.r 4, c.r 5, c.r 6, c.r 7, c.r 8, c.r 9,
    c.r 10, c.r 11, c.r 12, c.lr, c.pc]

/-- A new task calls its function with its argument. -/
def initial (tnTaskExit taskFunc stackStart param : Word) : Context where
  r := fun i => [param, 0x01010101, 0x02020202, 0x03030303, 0x04040404,
    0x05050505, 0x06060606, 0x07070707, 0x08080808, 0x09090909, 0x10101010,
    0x11111111, 0x12121212].getD i 0
  sp := stackStart + 4
  lr := tnTaskExit
  pc := taskFunc
  cpsr := 0x13

end Context

/-- The context of a task that goes on at an address. -/
def Arm.Cpu.context (cpu : Cpu) (pc : Word) : Context where
  r := cpu.r
  sp := cpu.sp svcMode
  lr := cpu.lr svcMode
  pc := pc
  cpsr := cpu.cpsr

/-- A frame is where the control block says, and above it is the stack of the
task. -/
structure Saved (mem : Word → Word) (tcb stk : Word) (c : Context) : Prop where
  taskStk : mem tcb = stk
  sp : wordAt stk 17 = c.sp
  frame : readWords mem (wordAt stk 1) 16 = c.words

/-- Neither the control block nor the variable that says which task runs is on the
stack of the task. -/
structure Symbols.Apart (symbols : Symbols) (tcb stk : Word) : Prop where
  tcb : ∀ i < 17, wordAt stk i ≠ tcb
  tnCurrRunTask : ∀ i < 17, wordAt stk i ≠ symbols.tnCurrRunTask

section Save

variable {symbols : Symbols} {cpu after : Cpu} {tcb stk : Word}

theorem exec_append (first second : List Instr) (cpu : Cpu) :
    exec (first ++ second) cpu = exec second (exec first cpu) :=
  List.foldl_append

theorem wordAt_below (address : Word) (n : Nat) :
    wordAt (address - BitVec.ofNat 32 (4 * n)) n = address := by
  rw [wordAt, BitVec.sub_add_cancel]

theorem Saved.of_write {c : Context} (mem : Word → Word)
    (sp : wordAt stk 17 = c.sp) (outside : ∀ i < 17, wordAt stk i ≠ tcb) :
    Saved (Function.update (writeWords mem (wordAt stk 1) c.words) tcb stk) tcb
      stk c := by
  refine ⟨Function.update_self _ _ _, sp, ?_⟩
  have written : readWords (writeWords mem (wordAt stk 1) c.words)
      (wordAt stk 1) 16 = c.words :=
    readWords_writeWords_self (show c.words.length = 16 from rfl) (by omega)
  refine (readWords_congr fun i small => Function.update_of_ne ?_ _ _).trans
    written
  rw [wordAt_wordAt]
  exact outside (1 + i) (by omega)

theorem storeDown_eq (mem : Word → Word) (stk : Word) (values : List Word)
    (small : 4 * values.length ≤ 2 ^ 32) :
    storeDown mem stk values = writeWords mem
      (stk + 4 - BitVec.ofNat 32 (4 * values.length)) values.reverse := by
  induction values generalizing mem stk with
  | nil => rfl
  | cons value values ih =>
      rw [List.length_cons] at small
      have bottom : stk + 4 - BitVec.ofNat 32 (4 * (values.length + 1)) =
          stk - BitVec.ofNat 32 (4 * values.length) := by
        rw [Nat.mul_succ, BitVec.ofNat_add]
        bv_omega
      have stored : Function.update mem stk value = writeWords mem stk [value] :=
        rfl
      rw [storeDown, ih _ _ (by omega), BitVec.sub_add_cancel, stored,
        writeWords_append, List.reverse_cons, List.length_cons, bottom]
      · rw [List.length_reverse]
        exact wordAt_below stk _
      · rw [List.length_reverse]
        exact small

/-- `tn_stack_init` writes the frame of a new task. -/
theorem tnStackInit_saved (tnTaskExit : Word) (mem : Word → Word)
    (taskFunc stackStart param : Word)
    (outside : ∀ i < 17, wordAt (stackStart - 64) i ≠ tcb) :
    let made := tnStackInit tnTaskExit mem taskFunc stackStart param
    Saved (Function.update made.1 tcb made.2) tcb made.2
      (.initial tnTaskExit taskFunc stackStart param) := by
  have bottom : stackStart + 4 - BitVec.ofNat 32 (4 * 17) = stackStart - 64 := by
    bv_omega
  have reversed : (taskFunc :: tnTaskExit :: stackFillers ++
      [param, 0x13, 0x13]).reverse =
      0x13 :: (Context.initial tnTaskExit taskFunc stackStart param).words := rfl
  have stored : (tnStackInit tnTaskExit mem taskFunc stackStart param).1 =
      writeWords (Function.update mem (stackStart - 64) 0x13)
        (wordAt (stackStart - 64) 1)
        (Context.initial tnTaskExit taskFunc stackStart param).words := by
    rw [tnStackInit, storeDown_eq _ _ _ (by simp [stackFillers]), reversed]
    simp only [stackFillers, List.cons_append, List.length_cons, List.nil_append,
      List.length_nil, bottom]
    exact writeWords_cons _ _
  dsimp only
  rw [stored]
  refine .of_write _ ?_ outside
  rw [← bottom]
  exact wordAt_below (stackStart + 4) 17

/-- The words that `tn_switch_context` pushes in four groups make one row. -/
theorem pushed_eq (mem : Word → Word) (top pc cpsr spsr : Word)
    (regs : List Word) (length : regs.length = 14) :
    writeWords (writeWords (writeWords (writeWords mem (top - 4#32) [pc])
      (top - 4#32 - 56#32) regs)
      (top - 4#32 - 56#32 - 4#32) [cpsr])
      (top - 4#32 - 56#32 - 4#32 - 4#32) [spsr] =
    writeWords mem (top - 68#32) (spsr :: cpsr :: (regs ++ [pc])) := by
  have bottom : top - 4#32 - 56#32 - 4#32 - 4#32 = top - 68#32 := by bv_omega
  have first : wordAt (top - 4#32 - 56#32) regs.length = top - 4#32 := by
    rw [length]
    exact wordAt_below _ 14
  have lowest : wordAt (top - 4#32 - 56#32 - 4#32 - 4#32)
      ([spsr] ++ [cpsr]).length = top - 4#32 - 56#32 := by
    rw [BitVec.sub_sub _ 4#32 4#32]
    exact wordAt_below _ 2
  rw [writeWords_append first (by simp [length]),
    writeWords_append (wordAt_below _ 1) (by simp),
    writeWords_append lowest (by simp [length]), bottom]
  rfl

theorem saveContext_eq (run : symbols.saveContext cpu = some after) :
    after = exec Symbols.storeStack
      (exec [.cmpReg (.r 1) (.r 0)] (exec symbols.pushContext cpu)) := by
  unfold Symbols.saveContext at run
  dsimp only at run
  split at run
  · cases run
  split at run
  · cases run
  · exact (Option.some.inj run).symm

/-- The first half of `tn_switch_context` writes the frame of the running task. -/
theorem saveContext_saved (svc : cpu.mode = svcMode)
    (run : symbols.saveContext cpu = some after)
    (running : cpu.mem symbols.tnCurrRunTask = tcb)
    (apart : symbols.Apart tcb (cpu.sp svcMode - 68#32)) :
    Saved after.mem tcb (cpu.sp svcMode - 68#32)
      (cpu.context (cpu.lr svcMode)) := by
  have svc : cpu.cpsr &&& modeBits = svcMode := svc
  let c := cpu.context (cpu.lr svcMode)
  let frame := writeWords cpu.mem (c.sp - 68#32) (cpu.spsr svcMode :: c.words)
  have kept : frame symbols.tnCurrRunTask = tcb := by
    refine (writeWords_outside fun i inside => ?_).trans running
    exact (apart.tnCurrRunTask i inside).symm
  have pushed := pushed_eq cpu.mem c.sp c.pc c.cpsr (cpu.spsr svcMode)
    [c.r 0, c.r 1, c.r 2, c.r 3, c.r 4, c.r 5, c.r 6, c.r 7, c.r 8, c.r 9,
      c.r 10, c.r 11, c.r 12, c.lr] rfl
  have mem : after.mem = Function.update frame (frame symbols.tnCurrRunTask)
      (c.sp - 68#32) := by
    have bottom : c.sp - 4#32 - 56#32 - 4#32 - 4#32 = c.sp - 68#32 := by
      bv_omega
    rw [saveContext_eq run, ← bottom]
    have isFrame : frame = _ := pushed.symm
    rw [isFrame]
    simp [exec, Symbols.storeStack, Symbols.pushContext, Instr.exec, Cpu.set,
      Cpu.get, Cpu.mode, lowRegs, svc, c, Cpu.context]
  have stored : frame = writeWords (Function.update cpu.mem (c.sp - 68#32)
      (cpu.spsr svcMode)) (wordAt (c.sp - 68#32) 1) c.words :=
    writeWords_cons _ _
  rw [mem, kept, stored]
  exact .of_write _ (wordAt_below c.sp 17) apart.tcb

end Save

/-! ## Preemption -/

/-- What `tn_cpu_irq_isr` has pushed on the stack of the IRQ mode. -/
def Context.pushed (c : Context) : List Word :=
  [c.r 0, c.r 1, c.r 2, c.r 3, c.r 4, c.r 5, c.r 6, c.r 7, c.r 8, c.r 9, c.r 10,
    c.r 11, c.r 12, c.pc + 4]

/-- Where the context of an interrupted task is. -/
structure Interrupted (c : Context) (cpu : Cpu) : Prop where
  mode : cpu.mode = irqMode
  sp : cpu.sp svcMode = c.sp
  lr : cpu.lr svcMode = c.lr
  spsr : cpu.spsr irqMode = c.cpsr
  high : ∀ i : Fin 13, 4 ≤ i → i < 12 → cpu.r i = c.r i
  stack : readWords cpu.mem (cpu.sp irqMode) 14 = c.pushed

/-- What `tn_cpu_irq_handler`, a C function, leaves as it finds it. -/
structure Symbols.Handled (symbols : Symbols) (cpu cpu' : Cpu) : Prop where
  mode : cpu'.mode = cpu.mode
  spIrq : cpu'.sp irqMode = cpu.sp irqMode
  spSvc : cpu'.sp svcMode = cpu.sp svcMode
  lrSvc : cpu'.lr svcMode = cpu.lr svcMode
  spsr : cpu'.spsr irqMode = cpu.spsr irqMode
  high : ∀ i : Fin 13, 4 ≤ i → i < 12 → cpu'.r i = cpu.r i
  stack : readWords cpu'.mem (cpu.sp irqMode) 14 =
    readWords cpu.mem (cpu.sp irqMode) 14
  tnCurrRunTask : cpu'.mem symbols.tnCurrRunTask =
    cpu.mem symbols.tnCurrRunTask

/-- The stack of the IRQ mode is neither the stack of the task nor a variable of
the kernel. -/
structure Symbols.IrqApart (symbols : Symbols) (bottom stk : Word) : Prop where
  task : ∀ i < 14, ∀ j < 17, wordAt bottom i ≠ wordAt stk j
  tnIntCounter : ∀ i < 14, wordAt bottom i ≠ symbols.tnIntCounter
  tnContextSwitchRequest : ∀ i < 14,
    wordAt bottom i ≠ symbols.tnContextSwitchRequest
  tnCurrRunTask : ∀ i < 14, wordAt bottom i ≠ symbols.tnCurrRunTask
  counter : symbols.tnCurrRunTask ≠ symbols.tnIntCounter
  request : symbols.tnCurrRunTask ≠ symbols.tnContextSwitchRequest

section Preempt

variable {symbols : Symbols} {cpu after : Cpu} {tcb stk : Word} {c : Context}

theorem highReg_ne {i : Fin 13} (high : 4 ≤ i) (j : Fin 13) (low : j < 4) :
    i ≠ j := by
  rintro rfl
  exact absurd high (Fin.not_le.mpr low)

/-- The instructions between the call and `tn_int_ctx_switch`. -/
theorem counted_eq (symbols : Symbols) (irq : cpu.mode = irqMode) :
    let counted := exec (symbols.countDown ++ symbols.readRequest ++
      Symbols.clearRequest) cpu
    counted.mode = irqMode ∧ counted.sp = cpu.sp ∧ counted.lr = cpu.lr ∧
      counted.spsr = cpu.spsr ∧
      (∀ i : Fin 13, 4 ≤ i → counted.r i = cpu.r i) ∧
      ∃ counter, counted.mem = Function.update
        (Function.update cpu.mem symbols.tnIntCounter counter)
        symbols.tnContextSwitchRequest 0 := by
  have irq : cpu.cpsr &&& modeBits = irqMode := irq
  simp [exec, Symbols.countDown, Symbols.readRequest, Symbols.clearRequest,
    Instr.exec, Cpu.set, Cpu.get, Cpu.mode, irq]
  refine ⟨fun i high => ?_, _, rfl⟩
  simp [Function.update_of_ne, highReg_ne high]

/-- A word of the interrupted context, on the stack of the IRQ mode. -/
theorem Interrupted.read (interrupted : Interrupted c cpu) {i : Nat}
    (small : i < 14) :
    cpu.mem (wordAt (cpu.sp irqMode) i) = c.pushed.getD i 0 := by
  have inside : i < (readWords cpu.mem (cpu.sp irqMode) 14).length := by
    rw [length_readWords]
    exact small
  rw [← getElem_readWords cpu.mem (cpu.sp irqMode) inside, ← interrupted.stack,
    List.getD_eq_getElem?_getD, List.getElem?_eq_getElem inside,
    Option.getD_some]

/-- The words that `tn_int_ctx_switch` moves before it reads the stack of the IRQ
mode once more. -/
theorem movedFirst_eq (mem : Word → Word) (top : Word) (middle high : List Word)
    (lengthMiddle : middle.length = 9) (lengthHigh : high.length = 2) :
    writeWords (writeWords mem (top - 8#32) high) (top - 8#32 - 36#32) middle =
      writeWords mem (wordAt (top - 68#32) 6) (middle ++ high) := by
  have first : wordAt (top - 8#32 - 36#32) middle.length = top - 8#32 := by
    rw [lengthMiddle]
    exact wordAt_below _ 9
  have bottom : top - 8#32 - 36#32 = wordAt (top - 68#32) 6 := by
    rw [wordAt]
    bv_omega
  rw [writeWords_append first (by omega), bottom]

theorem moved_eq (mem : Word → Word) (top cpsr : Word)
    (low above : List Word) (lengthLow : low.length = 4)
    (lengthAbove : above.length = 11) :
    writeWords (writeWords (writeWords mem (wordAt (top - 68#32) 6) above)
      (top - 8#32 - 36#32 - 16#32) low)
      (top - 8#32 - 36#32 - 16#32 - 4#32) [cpsr] =
    writeWords mem (wordAt (top - 68#32) 1) (cpsr :: (low ++ above)) := by
  have second : wordAt (top - 8#32 - 36#32 - 16#32) low.length =
      wordAt (top - 68#32) 6 := by
    rw [lengthLow, wordAt, wordAt]
    bv_omega
  have bottom : top - 8#32 - 36#32 - 16#32 - 4#32 = wordAt (top - 68#32) 1 := by
    rw [wordAt]
    bv_omega
  rw [writeWords_append second (by omega),
    writeWords_append (wordAt_below _ 1) (by simp [*]), bottom]
  rfl

theorem moveContext_mem (interrupted : Interrupted c cpu)
    (svc : c.cpsr &&& modeBits = svcMode)
    (running : cpu.mem symbols.tnCurrRunTask = tcb)
    (apart : symbols.Apart tcb (c.sp - 68#32))
    (irqApart : symbols.IrqApart (cpu.sp irqMode) (c.sp - 68#32)) :
    (exec symbols.moveContext cpu).mem =
      Function.update (writeWords cpu.mem (wordAt (c.sp - 68#32) 1) c.words) tcb
        (c.sp - 68#32) := by
  have irq : cpu.cpsr &&& modeBits = irqMode := interrupted.mode
  have lowest : c.sp - 8#32 - 36#32 - 16#32 - 4#32 - 4#32 = c.sp - 68#32 := by
    bv_omega
  have top : cpu.sp irqMode + 48#32 + 4#32 = wordAt (cpu.sp irqMode) 13 := by
    rw [wordAt]
    bv_omega
  let bottom := cpu.sp irqMode
  let high := writeWords cpu.mem (c.sp - 8#32)
    [c.lr, cpu.mem (bottom + 48#32 + 4#32) - 4#32]
  let middle := writeWords high (c.sp - 8#32 - 36#32)
    [cpu.r 4, cpu.r 5, cpu.r 6, cpu.r 7, cpu.r 8, cpu.r 9, cpu.r 10, cpu.r 11,
      cpu.mem (bottom + 48#32)]
  let low := writeWords middle (c.sp - 8#32 - 36#32 - 16#32)
    [middle bottom, middle (bottom + 4#32), middle (bottom + 4#32 + 4#32),
      middle (bottom + 4#32 + 4#32 + 4#32)]
  let frame := writeWords low (c.sp - 8#32 - 36#32 - 16#32 - 4#32) [c.cpsr]
  have ran : (exec symbols.moveContext cpu).mem =
      Function.update frame (frame symbols.tnCurrRunTask)
        (c.sp - 8#32 - 36#32 - 16#32 - 4#32 - 4#32) := by
    simp [exec, Symbols.moveContext, Instr.exec, Cpu.set, Cpu.get, Cpu.mode, irq,
      Cpu.load, readWords, interrupted.spsr, svc, interrupted.sp, interrupted.lr,
      frame, low, middle, high, bottom]
  have twelfth : cpu.mem (bottom + 48#32) = c.r 12 :=
    interrupted.read (show 12 < 14 by omega)
  have last : cpu.mem (bottom + 48#32 + 4#32) - 4#32 = c.pc := by
    rw [top, interrupted.read (show 13 < 14 by omega)]
    exact BitVec.add_sub_cancel c.pc 4
  have above : middle = writeWords cpu.mem (wordAt (c.sp - 68#32) 6)
      [c.r 4, c.r 5, c.r 6, c.r 7, c.r 8, c.r 9, c.r 10, c.r 11, c.r 12, c.lr,
        c.pc] := by
    simp (disch := decide) only [middle, high, twelfth, last, interrupted.high]
    exact movedFirst_eq _ _ _ _ rfl rfl
  have kept : ∀ i < 14, middle (wordAt bottom i) = c.pushed.getD i 0 := by
    intro i small
    rw [above, writeWords_outside, interrupted.read small]
    intro j inside
    rw [wordAt_wordAt]
    exact irqApart.task i small (6 + j) (Nat.add_lt_add_left inside 6)
  have row : [middle bottom, middle (bottom + 4#32),
      middle (bottom + 4#32 + 4#32), middle (bottom + 4#32 + 4#32 + 4#32)] =
      [c.r 0, c.r 1, c.r 2, c.r 3] := by
    have read : readWords middle bottom 4 = c.pushed.take 4 := by
      refine List.ext_getElem rfl fun i inside _ => ?_
      have small : i < 4 := by simpa using inside
      have member : i < c.pushed.length := show i < 14 by omega
      rw [getElem_readWords, kept i (by omega), List.getElem_take,
        List.getD_eq_getElem?_getD, List.getElem?_eq_getElem member,
        Option.getD_some]
    simpa only [readWords, Context.pushed, List.take_succ_cons,
      List.take_zero, BitVec.ofNat_eq_ofNat] using read
  have isFrame : frame = writeWords cpu.mem (wordAt (c.sp - 68#32) 1) c.words := by
    simp only [frame, low, row]
    rw [above]
    exact moved_eq cpu.mem c.sp c.cpsr [c.r 0, c.r 1, c.r 2, c.r 3]
      [c.r 4, c.r 5, c.r 6, c.r 7, c.r 8, c.r 9, c.r 10, c.r 11, c.r 12, c.lr,
        c.pc] rfl rfl
  have current : frame symbols.tnCurrRunTask = tcb := by
    rw [isFrame, writeWords_outside, running]
    intro i inside
    rw [wordAt_wordAt]
    exact (apart.tnCurrRunTask (1 + i) (Nat.add_lt_add_left inside 1)).symm
  rw [ran, current, isFrame, lowest]

theorem entered_eq (symbols : Symbols) (task : Cpu) :
    let entered := exec symbols.enterIsr task.takeIrq
    entered.mode = irqMode ∧ entered.sp svcMode = task.sp svcMode ∧
      entered.sp irqMode = task.sp irqMode - 56#32 ∧
      entered.lr svcMode = task.lr svcMode ∧
      entered.spsr irqMode = task.cpsr ∧
      (∀ i : Fin 13, 4 ≤ i → entered.r i = task.r i) ∧
      ∃ counter, entered.mem = Function.update
        (writeWords task.mem (task.sp irqMode - 56#32)
          (task.context task.pc).pushed) symbols.tnIntCounter counter := by
  have different : svcMode ≠ irqMode := by decide
  simp [exec, Symbols.enterIsr, Instr.exec, Cpu.set, Cpu.get, Cpu.mode,
    Cpu.takeIrq, lowRegs, different, Context.pushed, Cpu.context]
  intro i high
  simp [Function.update_of_ne, highReg_ne high]

theorem enterIsr_interrupted (task : Cpu)
    (tnIntCounter : ∀ i < 14, wordAt (task.sp irqMode - 56#32) i ≠
      symbols.tnIntCounter) :
    Interrupted (task.context task.pc)
      (exec symbols.enterIsr task.takeIrq) := by
  obtain ⟨mode, spSvc, spIrq, lr, spsr, high, counter, mem⟩ :=
    entered_eq symbols task
  refine ⟨mode, spSvc, lr, spsr, fun i low _ => high i low, ?_⟩
  have written : readWords (writeWords task.mem (task.sp irqMode - 56#32)
      (task.context task.pc).pushed) (task.sp irqMode - 56#32) 14 =
      (task.context task.pc).pushed :=
    readWords_writeWords_self rfl (by omega)
  rw [mem, spIrq]
  refine (readWords_congr fun i small => ?_).trans written
  exact Function.update_of_ne (tnIntCounter i small) _ _

theorem Interrupted.handled (interrupted : Interrupted c cpu)
    (handled : symbols.Handled cpu after) : Interrupted c after where
  mode := handled.mode.trans interrupted.mode
  sp := handled.spSvc.trans interrupted.sp
  lr := handled.lrSvc.trans interrupted.lr
  spsr := handled.spsr.trans interrupted.spsr
  high i low small := (handled.high i low small).trans
    (interrupted.high i low small)
  stack := by
    rw [handled.spIrq]
    exact handled.stack.trans interrupted.stack

/-- The instructions between the call and `tn_int_ctx_switch` change two variables
of the kernel. -/
theorem Interrupted.counted (interrupted : Interrupted c cpu)
    (irqApart : symbols.IrqApart (cpu.sp irqMode) stk) :
    let counted := exec (symbols.countDown ++ symbols.readRequest ++
      Symbols.clearRequest) cpu
    Interrupted c counted ∧ counted.sp irqMode = cpu.sp irqMode ∧
      counted.mem symbols.tnCurrRunTask = cpu.mem symbols.tnCurrRunTask := by
  obtain ⟨mode, sp, lr, spsr, high, counter, mem⟩ :=
    counted_eq symbols interrupted.mode
  refine ⟨⟨mode, ?_, ?_, ?_, fun i low small => ?_, ?_⟩, ?_, ?_⟩
  · rw [sp, interrupted.sp]
  · rw [lr, interrupted.lr]
  · rw [spsr, interrupted.spsr]
  · rw [high i low, interrupted.high i low small]
  · rw [mem, sp, ← interrupted.stack]
    refine readWords_congr fun i small => ?_
    rw [Function.update_of_ne (irqApart.tnContextSwitchRequest i small),
      Function.update_of_ne (irqApart.tnIntCounter i small)]
  · rw [sp]
  · rw [mem, Function.update_of_ne irqApart.request,
      Function.update_of_ne irqApart.counter]

theorem saveInterrupted_eq (run : symbols.saveInterrupted cpu = some after) :
    after = exec symbols.moveContext (exec (symbols.countDown ++
      symbols.readRequest ++ Symbols.clearRequest) cpu) := by
  unfold Symbols.saveInterrupted at run
  dsimp only at run
  split at run
  · split at run
    · cases run
    · rw [← Option.some.inj run, exec_append, exec_append, exec_append]
  · cases run

/-- An interrupt writes the frame of the running task if it switches to another
one. -/
theorem saveInterrupted_saved {task handled : Cpu}
    (svc : task.cpsr &&& modeBits = svcMode)
    (running : task.mem symbols.tnCurrRunTask = tcb)
    (apart : symbols.Apart tcb (task.sp svcMode - 68#32))
    (irqApart : symbols.IrqApart (task.sp irqMode - 56#32)
      (task.sp svcMode - 68#32))
    (handler : symbols.Handled (exec symbols.enterIsr task.takeIrq) handled)
    (run : symbols.saveInterrupted handled = some after) :
    Saved after.mem tcb (task.sp svcMode - 68#32) (task.context task.pc) := by
  obtain ⟨-, -, spIrq, -, -, -, counter, mem⟩ :=
    entered_eq symbols task
  have entered := enterIsr_interrupted task irqApart.tnIntCounter
  have bottom : handled.sp irqMode = task.sp irqMode - 56#32 :=
    handler.spIrq.trans spIrq
  rw [← bottom] at irqApart
  obtain ⟨counted, spCounted, runningCounted⟩ :=
    (entered.handled handler).counted irqApart
  have current : handled.mem symbols.tnCurrRunTask = tcb := by
    rw [handler.tnCurrRunTask, mem, Function.update_of_ne irqApart.counter,
      writeWords_outside, running]
    intro i small
    rw [← bottom]
    exact (irqApart.tnCurrRunTask i small).symm
  rw [← spCounted] at irqApart
  rw [saveInterrupted_eq run, moveContext_mem counted svc
    (runningCounted.trans current) apart irqApart]
  exact .of_write _ (wordAt_below _ 17) apart.tcb

end Preempt

end UsbBulk
