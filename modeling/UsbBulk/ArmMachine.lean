import Mathlib.Algebra.GroupWithZero.Nat
import UsbBulk.WordMemory

/-!
# A machine with banked registers

The instructions of an ARM processor that save and restore a context: the status
registers, moves, and loads and stores of one word or of a row of words.  Each mode
has a stack pointer, a link register and a saved status register of its own.
-/

namespace UsbBulk.Arm

/-- The registers as an instruction names them. -/
inductive Reg where
  | r (i : Fin 13)
  | sp
  | lr
  | pc
  deriving DecidableEq

/-- There are registers to number. -/
instance Reg.some : NeZero 13 := ⟨by decide⟩

/-- The state of the machine.  What is banked is indexed by the mode. -/
structure Cpu where
  r : Fin 13 → BitVec 32
  sp : BitVec 32 → BitVec 32
  lr : BitVec 32 → BitVec 32
  spsr : BitVec 32 → BitVec 32
  pc : BitVec 32
  cpsr : BitVec 32
  mem : BitVec 32 → BitVec 32

/-! ## Status words -/

/-- The mode bits. -/
def modeBits : BitVec 32 := 0x1f

/-- The bits that disable IRQ and FIQ. -/
def noIntBits : BitVec 32 := 0xc0

/-- The bit of the Thumb state. -/
def tBit : BitVec 32 := 0x20

/-- The condition flags N, Z, C and V. -/
def flagMask : BitVec 32 := 0xf0000000

def svcMode : BitVec 32 := 0x13

def irqMode : BitVec 32 := 0x12

/-- The control field of a status word is replaced. -/
def withControl (psr new : BitVec 32) : BitVec 32 :=
  (psr &&& 0xffffff00) ||| (new &&& 0xff)

/-- A status word with the flags of a comparison. -/
def withCompared (psr a b : BitVec 32) : BitVec 32 :=
  let negative := (a - b).msb
  let overflow := a.msb != b.msb && negative != a.msb
  (psr &&& 0x0fffffff) |||
    (if negative then 0x80000000 else 0) |||
    (if a = b then 0x40000000 else 0) |||
    (if b ≤ a then 0x20000000 else 0) |||
    (if overflow then 0x10000000 else 0)

namespace Cpu

def mode (cpu : Cpu) : BitVec 32 := cpu.cpsr &&& modeBits

/-- The flag Z. -/
def zero (cpu : Cpu) : Bool := cpu.cpsr.getLsbD 30

def get (cpu : Cpu) : Reg → BitVec 32
  | .r i => cpu.r i
  | .sp => cpu.sp cpu.mode
  | .lr => cpu.lr cpu.mode
  | .pc => cpu.pc

def set (cpu : Cpu) (value : BitVec 32) : Reg → Cpu
  | .r i => { cpu with r := Function.update cpu.r i value }
  | .sp => { cpu with sp := Function.update cpu.sp cpu.mode value }
  | .lr => { cpu with lr := Function.update cpu.lr cpu.mode value }
  | .pc => { cpu with pc := value }

/-- The registers get the words of a row, the first one the first word. -/
def load (cpu : Cpu) : List Reg → List (BitVec 32) → Cpu
  | reg :: regs, word :: words => (cpu.set word reg).load regs words
  | _, _ => cpu

end Cpu

/-- The instructions.  `^` makes a load of the program counter restore the status
register as well. -/
inductive Instr where
  | mov (rd rm : Reg)
  | movImm (rd : Reg) (imm : BitVec 32)
  | add (rd rn : Reg) (imm : BitVec 32)
  | sub (rd rn : Reg) (imm : BitVec 32)
  | orr (rd rn : Reg) (imm : BitVec 32)
  | bic (rd rn : Reg) (imm : BitVec 32)
  | cmp (rn : Reg) (imm : BitVec 32)
  | cmpReg (rn rm : Reg)
  | mrsCpsr (rd : Reg)
  | mrsSpsr (rd : Reg)
  | msrCpsrC (rm : Reg)
  | msrCpsr (rm : Reg)
  | msrSpsr (rm : Reg)
  | ldrConst (rd : Reg) (imm : BitVec 32)
  | ldr (rd rn : Reg)
  | str (rd rn : Reg)
  | stmfd (rn : Reg) (regs : List Reg)
  | ldmfd (rn : Reg) (writeBack : Bool) (regs : List Reg)
  | ldmfdStatus (rn : Reg) (regs : List Reg)

def Instr.exec (cpu : Cpu) : Instr → Cpu
  | mov rd rm => cpu.set (cpu.get rm) rd
  | movImm rd imm => cpu.set imm rd
  | add rd rn imm => cpu.set (cpu.get rn + imm) rd
  | sub rd rn imm => cpu.set (cpu.get rn - imm) rd
  | orr rd rn imm => cpu.set (cpu.get rn ||| imm) rd
  | bic rd rn imm => cpu.set (cpu.get rn &&& ~~~imm) rd
  | cmp rn imm =>
      { cpu with cpsr := withCompared cpu.cpsr (cpu.get rn) imm }
  | cmpReg rn rm =>
      { cpu with cpsr := withCompared cpu.cpsr (cpu.get rn) (cpu.get rm) }
  | mrsCpsr rd => cpu.set cpu.cpsr rd
  | mrsSpsr rd => cpu.set (cpu.spsr cpu.mode) rd
  | msrCpsrC rm => { cpu with cpsr := withControl cpu.cpsr (cpu.get rm) }
  | msrCpsr rm => { cpu with cpsr := cpu.get rm }
  | msrSpsr rm =>
      { cpu with spsr := Function.update cpu.spsr cpu.mode (cpu.get rm) }
  | ldrConst rd imm => cpu.set imm rd
  | ldr rd rn => cpu.set (cpu.mem (cpu.get rn)) rd
  | str rd rn =>
      { cpu with mem := Function.update cpu.mem (cpu.get rn) (cpu.get rd) }
  | stmfd rn regs =>
      let base := cpu.get rn - BitVec.ofNat 32 (4 * regs.length)
      { cpu with mem := writeWords cpu.mem base (regs.map cpu.get) }.set base rn
  | ldmfd rn writeBack regs =>
      let base := cpu.get rn
      let next := if writeBack then wordAt base regs.length else base
      (cpu.set next rn).load regs (readWords cpu.mem base regs.length)
  | ldmfdStatus rn regs =>
      let base := cpu.get rn
      let loaded := (cpu.set (wordAt base regs.length) rn).load regs
        (readWords cpu.mem base regs.length)
      { loaded with cpsr := cpu.spsr cpu.mode }

/-- The instructions one after the other. -/
def exec (code : List Instr) (cpu : Cpu) : Cpu :=
  code.foldl Instr.exec cpu

/-- The processor takes an IRQ before the instruction at `pc`. -/
def Cpu.takeIrq (cpu : Cpu) : Cpu :=
  { cpu with
    lr := Function.update cpu.lr irqMode (cpu.pc + 4)
    spsr := Function.update cpu.spsr irqMode cpu.cpsr
    cpsr := (cpu.cpsr &&& 0xffffff40) ||| 0x92 }

/-- `r0-r12`. -/
def lowRegs : List Reg :=
  [.r 0, .r 1, .r 2, .r 3, .r 4, .r 5, .r 6, .r 7, .r 8, .r 9, .r 10, .r 11,
    .r 12]

@[simp] theorem length_lowRegs : lowRegs.length = 13 :=
  rfl

theorem Cpu.load_one (cpu : Cpu) (reg : Reg) (word : BitVec 32) :
    cpu.load [reg] [word] = cpu.set word reg :=
  rfl

/-- A row with all registers is loaded, the stack pointer apart. -/
theorem Cpu.load_all (cpu : Cpu) (r : Fin 13 → BitVec 32) (lr pc : BitVec 32) :
    cpu.load (lowRegs ++ [.lr, .pc])
        [r 0, r 1, r 2, r 3, r 4, r 5, r 6, r 7, r 8, r 9, r 10, r 11, r 12, lr,
          pc] =
      { cpu with
        r := r
        lr := Function.update cpu.lr cpu.mode lr
        pc := pc } := by
  simp [lowRegs, Cpu.load, Cpu.set, Cpu.mode]
  funext i
  have cases : i = 0 ∨ i = 1 ∨ i = 2 ∨ i = 3 ∨ i = 4 ∨ i = 5 ∨ i = 6 ∨ i = 7 ∨
      i = 8 ∨ i = 9 ∨ i = 10 ∨ i = 11 ∨ i = 12 := by
    omega
  rcases cases with rfl | rfl | rfl | rfl | rfl | rfl | rfl | rfl | rfl | rfl |
    rfl | rfl | rfl <;> rfl

/-! ## Lemmas -/

section Status

variable {psr new imm mask : BitVec 32}

theorem withControl_and (inside : 0xff &&& mask = mask)
    (outside : 0xffffff00 &&& mask = 0#32) :
    withControl psr new &&& mask = new &&& mask := by
  rw [withControl, BitVec.and_or_distrib_right, BitVec.and_assoc,
    BitVec.and_assoc, inside, outside, BitVec.and_zero, BitVec.zero_or]

@[simp] theorem withControl_mode :
    withControl psr new &&& modeBits = new &&& modeBits :=
  withControl_and (by decide) (by decide)

@[simp] theorem withControl_noIntBits :
    withControl psr new &&& noIntBits = new &&& noIntBits :=
  withControl_and (by decide) (by decide)

@[simp] theorem withControl_tBit :
    withControl psr new &&& tBit = new &&& tBit :=
  withControl_and (by decide) (by decide)

/-- The control field has no flags. -/
@[simp] theorem withControl_flags :
    withControl psr new &&& flagMask = psr &&& flagMask := by
  rw [withControl, BitVec.and_or_distrib_right, BitVec.and_assoc,
    BitVec.and_assoc, show 0xff &&& flagMask = 0#32 by decide,
    show 0xffffff00 &&& flagMask = flagMask by decide,
    BitVec.and_zero, BitVec.or_zero]

/-- Other bits have been set. -/
theorem or_and (apart : imm &&& mask = 0#32) :
    (psr ||| imm) &&& mask = psr &&& mask := by
  rw [BitVec.and_or_distrib_right, apart, BitVec.or_zero]

/-- Other bits have been cleared. -/
theorem bic_and (apart : ~~~imm &&& mask = mask) :
    (psr &&& ~~~imm) &&& mask = psr &&& mask := by
  rw [BitVec.and_assoc, apart]

@[simp] theorem noIntBits_or_mode :
    (psr ||| noIntBits) &&& modeBits = psr &&& modeBits :=
  or_and (by decide)

@[simp] theorem noIntBits_bic_mode :
    (psr &&& ~~~noIntBits) &&& modeBits = psr &&& modeBits :=
  bic_and (by decide)

@[simp] theorem noIntBits_bic_tBit :
    (psr &&& ~~~noIntBits) &&& tBit = psr &&& tBit :=
  bic_and (by decide)

@[simp] theorem noIntBits_bic_flags :
    (psr &&& ~~~noIntBits) &&& flagMask = psr &&& flagMask :=
  bic_and (by decide)

@[simp] theorem noIntBits_bic_noIntBits :
    (psr &&& ~~~noIntBits) &&& noIntBits = 0#32 := by
  rw [BitVec.and_assoc, show ~~~noIntBits &&& noIntBits = 0#32 by decide,
    BitVec.and_zero]

@[simp] theorem withCompared_mode (a b : BitVec 32) :
    withCompared psr a b &&& modeBits = psr &&& modeBits := by
  have flag : ∀ (c : Prop) [Decidable c] (bit : BitVec 32),
      bit &&& modeBits = 0#32 → (if c then bit else 0) &&& modeBits = 0#32 := by
    intro c _ bit apart
    split
    · exact apart
    · exact BitVec.zero_and
  unfold withCompared
  rw [or_and (flag _ _ (by decide)), or_and (flag _ _ (by decide)),
    or_and (flag _ _ (by decide)), or_and (flag _ _ (by decide)),
    BitVec.and_assoc, show (0x0fffffff : BitVec 32) &&& modeBits = modeBits by
      decide]

/-- The mode bits are replaced. -/
@[simp] theorem setMode_mode (mode : BitVec 32) :
    ((psr &&& ~~~modeBits) ||| mode) &&& modeBits = mode &&& modeBits := by
  rw [BitVec.and_or_distrib_right, BitVec.and_assoc,
    show ~~~modeBits &&& modeBits = 0#32 by decide, BitVec.and_zero,
    BitVec.zero_or]

@[simp] theorem svcMode_mode : svcMode &&& modeBits = svcMode := by decide

@[simp] theorem irqMode_mode : irqMode &&& modeBits = irqMode := by decide

/-- An IRQ is taken in the mode of its own. -/
@[simp] theorem irqTaken_mode :
    ((psr &&& 0xffffff40#32) ||| 0x92#32) &&& modeBits = irqMode := by
  rw [BitVec.and_or_distrib_right, BitVec.and_assoc,
    show 0xffffff40#32 &&& modeBits = 0#32 by decide, BitVec.and_zero,
    show 0x92#32 &&& modeBits = irqMode by decide, BitVec.zero_or]

@[simp] theorem tBit_bic_mode :
    (psr &&& ~~~tBit) &&& modeBits = psr &&& modeBits :=
  bic_and (by decide)

end Status

end UsbBulk.Arm
