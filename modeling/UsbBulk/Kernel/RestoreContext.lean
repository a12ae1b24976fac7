import UsbBulk.Kernel.SwitchContext

/-!
# Restoring a context (`tn_port_asm.s`)

Three routines read the frame of a task.  Each of them follows any of the three that
write one: what a task continues with, for all nine pairs.
-/

namespace UsbBulk

open Arm

/-! ## Restoring -/

section Restore

variable {symbols : Symbols} {cpu : Cpu} {tcb stk : Word} {c : Context}

/-- The frame of the next task, and the address above it. -/
structure Symbols.Next (symbols : Symbols) (mem : Word → Word) (tcb stk : Word)
    (c : Context) : Prop where
  tnNextTaskToRun : mem symbols.tnNextTaskToRun = tcb
  taskStk : mem tcb = stk
  sp : stk + 4#32 + 4#32 + 60#32 = c.sp
  frame : readWords (Function.update mem symbols.tnCurrRunTask tcb)
    (stk + 4#32) 16 = c.words

/-- The state in which the task goes on. -/
def Arm.Cpu.resumed (cpu : Cpu) (c : Context) (mem : Word → Word)
    (spsr : Word → Word) (cpsr : Word) : Cpu where
  r := c.r
  sp := Function.update cpu.sp svcMode c.sp
  lr := Function.update cpu.lr svcMode c.lr
  spsr := spsr
  pc := c.pc
  cpsr := cpsr
  mem := mem

theorem tnSwitchContextExit_eq (next : symbols.Next cpu.mem tcb stk c)
    (svc : cpu.mode = svcMode) (mode : c.cpsr &&& modeBits = svcMode) :
    let masked := withControl cpu.cpsr (cpu.cpsr ||| noIntBits)
    let restored := withControl masked c.cpsr
    exec symbols.tnSwitchContextExit cpu =
      cpu.resumed c (Function.update cpu.mem symbols.tnCurrRunTask tcb) cpu.spsr
        (withControl restored (restored &&& ~~~noIntBits)) := by
  obtain ⟨next, stored, top, frame⟩ := next
  have svc : cpu.cpsr &&& modeBits = svcMode := svc
  simp only [readWords, Context.words, List.cons.injEq, and_true,
    BitVec.ofNat_eq_ofNat] at frame
  simp [exec, Symbols.tnSwitchContextExit, Instr.exec, Cpu.set, Cpu.get,
    Cpu.mode, svc, next, stored, readWords, wordAt, frame, Cpu.load_one,
    Cpu.load_all, mode, top, Cpu.resumed]

theorem tnSwitchContextExit_flags (next : symbols.Next cpu.mem tcb stk c)
    (svc : cpu.mode = svcMode) (mode : c.cpsr &&& modeBits = svcMode) :
    (exec symbols.tnSwitchContextExit cpu).cpsr &&& flagMask =
      cpu.cpsr &&& flagMask := by
  rw [tnSwitchContextExit_eq next svc mode]
  simp [Cpu.resumed]

theorem restoreContext_eq (next : symbols.Next cpu.mem tcb stk c)
    (svc : cpu.mode = svcMode) (mode : c.cpsr &&& modeBits = svcMode)
    (r0 : cpu.r 0 = symbols.tnNextTaskToRun)
    (r1 : cpu.r 1 = symbols.tnCurrRunTask) :
    ∃ spsr, exec Symbols.restoreContext cpu =
      cpu.resumed c (Function.update cpu.mem symbols.tnCurrRunTask tcb) spsr
        (withControl c.cpsr (c.cpsr &&& ~~~noIntBits)) := by
  obtain ⟨next, stored, top, frame⟩ := next
  have svc : cpu.cpsr &&& modeBits = svcMode := svc
  simp only [readWords, Context.words, List.cons.injEq, and_true,
    BitVec.ofNat_eq_ofNat] at frame
  simp [exec, Symbols.restoreContext, Instr.exec, Cpu.set, Cpu.get,
    Cpu.mode, svc, next, stored, readWords, wordAt, frame, Cpu.load_one,
    Cpu.load_all, mode, top, Cpu.resumed, r0, r1]

theorem restoreNext_eq (next : symbols.Next cpu.mem tcb stk c)
    (mode : c.cpsr &&& modeBits = svcMode)
    (r4 : cpu.r 4 = symbols.tnCurrRunTask) :
    ∃ spsr, exec symbols.restoreNext cpu =
      cpu.resumed c (Function.update cpu.mem symbols.tnCurrRunTask tcb) spsr
        c.cpsr := by
  obtain ⟨next, stored, top, frame⟩ := next
  simp only [readWords, Context.words, List.cons.injEq, and_true,
    BitVec.ofNat_eq_ofNat] at frame
  simp [exec, Symbols.restoreNext, Instr.exec, Cpu.set, Cpu.get,
    Cpu.mode, next, stored, readWords, wordAt, frame, Cpu.load_one,
    Cpu.load_all, mode, top, Cpu.resumed, r4]

end Restore

/-! ## Every pair of routines -/

inductive Saver where
  | tnStackInit
  | tnSwitchContext
  | tnIntCtxSwitch
  deriving DecidableEq

inductive Restorer where
  | tnSwitchContextExit
  | tnSwitchContext
  | tnIntCtxSwitch
  deriving DecidableEq

/-- A routine has saved the context of the task with this control block, and this
is the memory then.  A saved task runs in ARM state and in SVC mode. -/
inductive Symbols.Saves (symbols : Symbols) (tcb : Word) :
    Saver → Context → (Word → Word) → Prop where
  | tnStackInit {tnTaskExit taskFunc stackStart param stk : Word}
      {mem frame : Word → Word} (apart : symbols.Apart tcb (stackStart - 64#32))
      (run : tnStackInit tnTaskExit mem taskFunc stackStart param =
        (frame, stk)) :
      Saves symbols tcb .tnStackInit
        (.initial tnTaskExit taskFunc stackStart param)
        (Function.update frame tcb stk)
  | tnSwitchContext {task after : Cpu} (svc : task.mode = svcMode)
      (arm : task.cpsr &&& tBit = 0)
      (running : task.mem symbols.tnCurrRunTask = tcb)
      (apart : symbols.Apart tcb (task.sp svcMode - 68#32))
      (run : symbols.saveContext task = some after) :
      Saves symbols tcb .tnSwitchContext (task.context (task.lr svcMode))
        after.mem
  | tnIntCtxSwitch {task handled after : Cpu} (svc : task.mode = svcMode)
      (arm : task.cpsr &&& tBit = 0) (taken : task.cpsr &&& 0x80 = 0)
      (running : task.mem symbols.tnCurrRunTask = tcb)
      (apart : symbols.Apart tcb (task.sp svcMode - 68#32))
      (irqApart : symbols.IrqApart (task.sp irqMode - 56#32)
        (task.sp svcMode - 68#32))
      (handler : symbols.Handled (exec symbols.enterIsr task.takeIrq) handled)
      (run : symbols.saveInterrupted handled = some after) :
      Saves symbols tcb .tnIntCtxSwitch (task.context task.pc) after.mem

namespace Restorer

/-- The instructions that read a frame. -/
def code (symbols : Symbols) : Restorer → List Instr
  | tnSwitchContextExit => symbols.tnSwitchContextExit
  | tnSwitchContext => Symbols.restoreContext
  | tnIntCtxSwitch => symbols.restoreNext

/-- What the instructions before them have left. -/
def Ready (symbols : Symbols) (cpu : Cpu) : Restorer → Prop
  | tnSwitchContextExit => cpu.mode = svcMode
  | tnSwitchContext => cpu.mode = svcMode ∧
      cpu.r 0 = symbols.tnNextTaskToRun ∧ cpu.r 1 = symbols.tnCurrRunTask
  | tnIntCtxSwitch => cpu.r 4 = symbols.tnCurrRunTask

end Restorer

/-- The task is the next one, and its frame has not been touched. -/
structure Symbols.Restores (symbols : Symbols) (tcb : Word) (c : Context)
    (mem : Word → Word) (cpu : Cpu) : Prop where
  tnNextTaskToRun : cpu.mem symbols.tnNextTaskToRun = tcb
  taskStk : cpu.mem tcb = mem tcb
  frame : ∀ i < 17,
    cpu.mem (wordAt (c.sp - 68#32) i) = mem (wordAt (c.sp - 68#32) i)

/-- The task goes on where it was, with its registers and interrupts, and after a
preemption with its flags. -/
structure Continues (saver : Saver) (c : Context) (cpu : Cpu) : Prop where
  pc : cpu.pc = c.pc
  r : cpu.r = c.r
  sp : cpu.sp svcMode = c.sp
  lr : cpu.lr svcMode = c.lr
  mode : cpu.mode = svcMode
  arm : cpu.cpsr &&& tBit = 0
  enabled : cpu.cpsr &&& noIntBits = 0
  flags : saver = .tnIntCtxSwitch →
    cpu.cpsr &&& flagMask = c.cpsr &&& flagMask

section Pairs

variable {symbols : Symbols} {cpu after : Cpu} {tcb : Word} {c : Context}
variable {saver : Saver} {mem : Word → Word}

theorem Symbols.Saves.saved (saves : symbols.Saves tcb saver c mem) :
    Saved mem tcb (c.sp - 68#32) c ∧ symbols.Apart tcb (c.sp - 68#32) := by
  cases saves with
  | @tnStackInit tnTaskExit taskFunc stackStart param stk mem frame apart run =>
      have bottom : stackStart + 4#32 - 68#32 = stackStart - 64#32 := by bv_omega
      have saved := tnStackInit_saved tnTaskExit mem taskFunc stackStart param
        apart.tcb
      have isStk : stackStart - 64#32 = stk := congrArg Prod.snd run
      have sp : (Context.initial tnTaskExit taskFunc stackStart param).sp -
          68#32 = stk := bottom.trans isStk
      rw [run] at saved
      rw [isStk] at apart
      rw [sp]
      exact ⟨saved, apart⟩
  | tnSwitchContext svc arm running apart run =>
      exact ⟨saveContext_saved svc run running apart, apart⟩
  | tnIntCtxSwitch svc arm taken running apart irqApart handler run =>
      exact ⟨saveInterrupted_saved svc running apart irqApart handler run,
        apart⟩

theorem Symbols.Saves.control (saves : symbols.Saves tcb saver c mem) :
    c.cpsr &&& modeBits = svcMode ∧ c.cpsr &&& tBit = 0 := by
  cases saves with
  | tnStackInit apart run =>
      exact ⟨show 0x13#32 &&& modeBits = svcMode by decide,
        show 0x13#32 &&& tBit = 0 by decide⟩
  | tnSwitchContext svc arm running apart run => exact ⟨svc, arm⟩
  | tnIntCtxSwitch svc arm taken running apart irqApart handler run =>
      exact ⟨svc, arm⟩

theorem Symbols.Saves.next (saves : symbols.Saves tcb saver c mem)
    (restores : symbols.Restores tcb c mem cpu) :
    symbols.Next cpu.mem tcb (c.sp - 68#32) c := by
  obtain ⟨saved, apart⟩ := saves.saved
  have top : c.sp - 68#32 + 4#32 + 4#32 + 60#32 = c.sp := by bv_omega
  refine ⟨restores.tnNextTaskToRun, ?_, top, ?_⟩
  · rw [restores.taskStk, saved.taskStk]
  · refine (readWords_congr fun i small => ?_).trans saved.frame
    change Function.update cpu.mem symbols.tnCurrRunTask tcb
      (wordAt (wordAt (c.sp - 68#32) 1) i) = _
    rw [wordAt_wordAt,
      Function.update_of_ne (apart.tnCurrRunTask (1 + i) (by omega)),
      restores.frame (1 + i) (by omega), Nat.add_comm, ← wordAt_succ]
    rfl

/-- What a task continues with, whatever its saver and its restorer. -/
theorem continues_of_resumed {spsr : Word → Word} {cpsr : Word}
    {mem' : Word → Word} (mode : cpsr &&& modeBits = svcMode)
    (arm : cpsr &&& tBit = 0) :
    Continues saver c (cpu.resumed c mem' spsr cpsr) ↔
      cpsr &&& noIntBits = 0 ∧
        (saver = .tnIntCtxSwitch → cpsr &&& flagMask = c.cpsr &&& flagMask) where
  mp continues := ⟨continues.enabled, continues.flags⟩
  mpr := fun ⟨enabled, flags⟩ =>
    ⟨rfl, rfl, by simp [Cpu.resumed], by simp [Cpu.resumed], mode, arm, enabled,
      flags⟩

/-- Which of the nine pairs lose something: `tn_switch_context_exit` does not
restore the flags, and `tn_int_ctx_switch` restores the interrupt bits that it
finds. -/
theorem context_continues_iff (restorer : Restorer)
    (saves : symbols.Saves tcb saver c mem) (ready : restorer.Ready symbols cpu)
    (restores : symbols.Restores tcb c mem cpu) :
    Continues saver c (exec (restorer.code symbols) cpu) ↔
      (restorer = .tnIntCtxSwitch → c.cpsr &&& noIntBits = 0) ∧
        (restorer = .tnSwitchContextExit → saver = .tnIntCtxSwitch →
          cpu.cpsr &&& flagMask = c.cpsr &&& flagMask) := by
  obtain ⟨mode, arm⟩ := saves.control
  have next := saves.next restores
  cases restorer with
  | tnSwitchContextExit =>
      have ran := tnSwitchContextExit_eq next ready mode
      rw [Restorer.code, ran,
        continues_of_resumed (by simpa using mode) (by simpa using arm)]
      simp
  | tnSwitchContext =>
      obtain ⟨svc, r0, r1⟩ := ready
      obtain ⟨spsr, ran⟩ := restoreContext_eq next svc mode r0 r1
      rw [Restorer.code, ran,
        continues_of_resumed (by simpa using mode) (by simpa using arm)]
      simp
  | tnIntCtxSwitch =>
      obtain ⟨spsr, ran⟩ := restoreNext_eq next mode ready
      rw [Restorer.code, ran, continues_of_resumed mode arm]
      simp

end Pairs

/-- Four variables side by side. -/
def Symbols.sample : Symbols :=
  ⟨0x40000100, 0x40000104, 0x40000108, 0x4000010c⟩

/-- A new task is resumed by an interrupt. -/
theorem context_continues_new :
    ∃ mem cpu, Symbols.sample.Saves 0x40000200 .tnStackInit
        (.initial 0x8100 0x8000 0x40001000 7) mem ∧
      Restorer.tnIntCtxSwitch.Ready Symbols.sample cpu ∧
      Symbols.sample.Restores 0x40000200 (.initial 0x8100 0x8000 0x40001000 7)
        mem cpu ∧
      Continues .tnStackInit (.initial 0x8100 0x8000 0x40001000 7)
        (exec (Restorer.code Symbols.sample .tnIntCtxSwitch) cpu) := by
  let made := tnStackInit 0x8100 (fun _ => 0) 0x8000 0x40001000 7
  let mem := Function.update made.1 0x40000200 made.2
  let cpu : Cpu := {
    r := fun _ => 0x40000100
    sp := fun _ => 0x40002000
    lr := fun _ => 0
    spsr := fun _ => 0
    pc := 0
    cpsr := 0x92
    mem := Function.update mem 0x40000104 0x40000200 }
  have saves : Symbols.sample.Saves 0x40000200 .tnStackInit
      (.initial 0x8100 0x8000 0x40001000 7) mem :=
    .tnStackInit ⟨by decide, by decide⟩ rfl
  have restores : Symbols.sample.Restores 0x40000200
      (.initial 0x8100 0x8000 0x40001000 7) mem cpu :=
    ⟨by decide, by decide, by decide⟩
  have ready : Restorer.tnIntCtxSwitch.Ready Symbols.sample cpu := rfl
  exact ⟨mem, cpu, saves, ready, restores,
    (context_continues_iff .tnIntCtxSwitch saves ready restores).mpr
      ⟨fun _ => by decide, fun isExit => by cases isExit⟩⟩

/-- A task is interrupted after a comparison that has set Z, and the task that runs
next ends: the flag is lost. -/
theorem switchContextExit_losesFlags :
    ∃ (c : Context) (mem : Word → Word) (cpu : Cpu),
      c.cpsr = 0x40000013 ∧
      Symbols.sample.Saves 0x40000200 .tnIntCtxSwitch c mem ∧
      Restorer.tnSwitchContextExit.Ready Symbols.sample cpu ∧
      Symbols.sample.Restores 0x40000200 c mem cpu ∧
      ¬ Continues .tnIntCtxSwitch c
        (exec (Restorer.code Symbols.sample .tnSwitchContextExit) cpu) := by
  let task : Cpu := {
    r := fun _ => 0
    sp := fun mode => if mode = svcMode then 0x40001000 else 0x40002000
    lr := fun _ => 0
    spsr := fun _ => 0
    pc := 0x8000
    cpsr := 0x40000013
    mem := fun address =>
      if address = 0x40000100 then 0x40000200
      else if address = 0x40000104 then 0x40000300
      else if address = 0x4000010c then 1 else 0 }
  let handled := exec Symbols.sample.enterIsr task.takeIrq
  have switches : (Symbols.sample.saveInterrupted handled).isSome = true := by
    decide
  obtain ⟨after, run⟩ := Option.isSome_iff_exists.mp switches
  let c := task.context task.pc
  have handler : Symbols.sample.Handled handled handled :=
    ⟨rfl, rfl, rfl, rfl, rfl, fun _ _ _ => rfl, rfl, rfl⟩
  have saves : Symbols.sample.Saves 0x40000200 .tnIntCtxSwitch c after.mem :=
    .tnIntCtxSwitch (by decide) (by decide) (by decide) (by decide)
      ⟨by decide, by decide⟩
      ⟨by decide, by decide, by decide, by decide, by decide, by decide⟩
      handler run
  let cpu : Cpu := { task with
    cpsr := 0x13
    mem := Function.update after.mem 0x40000104 0x40000200 }
  have ready : Restorer.tnSwitchContextExit.Ready Symbols.sample cpu :=
    show 0x13#32 &&& modeBits = svcMode by decide
  have taskStk : cpu.mem 0x40000200 = after.mem 0x40000200 :=
    Function.update_of_ne (show 0x40000200#32 ≠ 0x40000104#32 by decide)
      0x40000200 after.mem
  have apart : ∀ i < 17, wordAt (c.sp - 68#32) i ≠ 0x40000104 := by decide
  have restores : Symbols.sample.Restores 0x40000200 c after.mem cpu :=
    ⟨Function.update_self 0x40000104#32 _ after.mem, taskStk,
      fun i small => Function.update_of_ne (apart i small) _ after.mem⟩
  refine ⟨c, after.mem, cpu, rfl, saves, ready, restores, fun continues => ?_⟩
  have kept := continues.flags rfl
  rw [Restorer.code, tnSwitchContextExit_flags (saves.next restores) ready
    saves.control.1] at kept
  have different : 0x13#32 &&& flagMask ≠ 0x40000013#32 &&& flagMask := by
    decide
  exact different kept

end UsbBulk
