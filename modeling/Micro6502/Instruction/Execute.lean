import Micro6502.Clock
import Micro6502.Instruction.Arithmetic
import Micro6502.Instruction.Operand
import Micro6502.Instruction.Table
import Micro6502.Interrupts

/-!
# Decoding and executing instructions

## Contents

- `Instruction`, an opcode with its entry in the table and its operand
- `Instruction.decode`, from the opcode, with the program counter behind it
- `Mnemonic.execute`, the meaning of the instructions
- `Instruction.execute`, which gives the cycles
-/

namespace Micro6502

/-! ## Instructions -/

/-- A decoded instruction. -/
structure Instruction where
  /-- The opcode as it was given; its low eight bits count. -/
  opcode : Int
  variant : Variant
  descriptor : Descriptor
  operand : Operand
  deriving DecidableEq, Repr

/-- Decodes an opcode. The operand bytes are fetched; those of an undocumented opcode are passed
over. -/
def Instruction.decode (variant : Variant) (opcode : Int) : Action Registers Instruction := do
  let d := Descriptor.ofOpcode (byte opcode)
  if d.isDocumented then
    let operand ← Operand.resolve d.mode
    return ⟨opcode, variant, d, operand⟩
  else
    let r ← Action.get
    Action.tell (.undefinedOpcode opcode (r.pc - 1))
    let operand ← Operand.skip d.mode
    return ⟨opcode, variant, d, operand⟩

/-! ## Patterns of execution -/

namespace Execute

/-- An instruction that only changes registers. -/
def register (f : Registers → Registers) : Action Registers Int := do
  Action.modify f
  return 0

/-- An instruction that reads its operand. -/
def load (o : Operand) (f : Registers → Byte → Registers) : Action Registers Int := do
  let b ← o.read
  Action.modify fun r => f r b
  return 0

/-- An instruction that writes a register to its operand. -/
def store (o : Operand) (f : Registers → Byte) : Action Registers Int := do
  let r ← Action.get
  match o.location with
  | .cell a => Action.write a (f r).toNat
  | _ => pure ()
  return 0

/-- An instruction that works on its operand in place. -/
def update (o : Operand) (f : Registers → Byte → Registers × Int) : Action Registers Int := do
  o.update f
  return 0

/-- Goes on at the operand. -/
def jump (o : Operand) : Action Registers Unit :=
  match o.address? with
  | some a => Action.modify fun r => { r with pc := a }
  | none => pure ()

/-- A branch: one more cycle if it is taken, and another if it leaves the page. -/
def branch (o : Operand) (condition : Status → Bool) : Action Registers Int := do
  let r ← Action.get
  if condition r.status then
    jump o
    return if o.pageCrossed then 2 else 1
  else
    return 0

/-- Pulls the status. The break flag exists on the stack only and is dropped. -/
def pullStatus : Action Registers Unit := do
  let b ← Stack.pull
  Action.modify fun r => { r with status := { Status.unpack b with brk := false } }

/-- An instruction that sets or clears one flag. -/
def flag (f : Flag) (value : Bool) : Action Registers Int := register fun r => r.setFlag f value

end Execute

/-! ## The instructions -/

open Execute in
/-- Executes an instruction on its operand, and gives the cycles that its outcome adds. -/
def Mnemonic.execute (variant : Variant) (o : Operand) : Mnemonic → Action Registers Int
  -- Loads, stores and transfers. A transfer to the stack pointer changes no flag.
  | lda => load o fun r b => { r with a := b }.setNZ b
  | ldx => load o fun r b => { r with x := b }.setNZ b
  | ldy => load o fun r b => { r with y := b }.setNZ b
  | sta => store o Registers.a
  | stx => store o Registers.x
  | sty => store o Registers.y
  | tax => register fun r => { r with x := r.a }.setNZ r.a
  | tay => register fun r => { r with y := r.a }.setNZ r.a
  | txa => register fun r => { r with a := r.x }.setNZ r.x
  | tya => register fun r => { r with a := r.y }.setNZ r.y
  | tsx => register fun r => { r with x := r.sp }.setNZ r.sp
  | txs => register fun r => { r with sp := r.x }
  -- Logic and arithmetic.
  | and => load o fun r b => { r with a := r.a &&& b }.setNZ (r.a &&& b)
  | ora => load o fun r b => { r with a := r.a ||| b }.setNZ (r.a ||| b)
  | eor => load o fun r b => { r with a := r.a ^^^ b }.setNZ (r.a ^^^ b)
  | bit => load o Arithmetic.test
  | adc => load o variant.add
  | sbc => load o variant.subtract
  | cmp => load o fun r b => Arithmetic.compare r r.a b
  | cpx => load o fun r b => Arithmetic.compare r r.x b
  | cpy => load o fun r b => Arithmetic.compare r r.y b
  -- Shifts, rotations and counting.
  | asl => update o Arithmetic.shiftLeft
  | lsr => update o Arithmetic.shiftRight
  | rol => update o Arithmetic.rotateLeft
  | ror => update o Arithmetic.rotateRight
  | inc => update o Arithmetic.increment
  | dec => update o Arithmetic.decrement
  | inx => register fun r => { r with x := r.x + 1 }.setNZ (r.x + 1)
  | dex => register fun r => { r with x := r.x - 1 }.setNZ (r.x - 1)
  | iny => register fun r => { r with y := r.y + 1 }.setNZ (r.y + 1)
  | dey => register fun r => { r with y := r.y - 1 }.setNZ (r.y - 1)
  -- Branches and jumps. A call pushes the address of its own last byte.
  | bcc => branch o fun s => !s.carry
  | bcs => branch o fun s => s.carry
  | beq => branch o fun s => s.zero
  | bne => branch o fun s => !s.zero
  | bmi => branch o fun s => s.negative
  | bpl => branch o fun s => !s.negative
  | bvc => branch o fun s => !s.overflow
  | bvs => branch o fun s => s.overflow
  | jmp => do
    jump o
    return 0
  | jsr => do
    let r ← Action.get
    Stack.pushWord (r.pc - 1).toNat
    jump o
    return 0
  | rts => do
    let pc ← Stack.pullWord
    Action.modify fun r => { r with pc := pc + 1 }
    return 0
  -- The stack. A pushed status has the break flag set.
  | pha => do
    let r ← Action.get
    Stack.push r.a.toNat
    return 0
  | php => do
    let r ← Action.get
    Stack.push { r.status with brk := true }.pack.toNat
    return 0
  | pla => do
    let b ← Stack.pull
    Action.modify fun r => { r with a := b }.setNZ b
    return 0
  | plp => do
    pullStatus
    return 0
  -- Single flags.
  | clc => flag .carry false
  | sec => flag .carry true
  | cli => flag .interrupt false
  | sei => flag .interrupt true
  | clv => flag .overflow false
  | cld => flag .decimal false
  | sed => flag .decimal true
  -- Control.
  | nop => return 0
  | brk => do
    Interrupts.softwareBreak
    return 0
  | rti => do
    pullStatus
    let pc ← Stack.pullWord
    Action.modify fun r => { r with pc := pc }
    return 0
  | skip => return 0

namespace Instruction

/-- Executes a decoded instruction, and gives its cycles with all penalties. -/
def execute (i : Instruction) : Action Registers Int := do
  let extra ← i.descriptor.mnemonic.execute i.variant i.operand
  return Clock.instructionCycles i.descriptor.cycles i.operand.pageCrossed
    i.descriptor.hasPagePenalty extra

end Instruction

end Micro6502
