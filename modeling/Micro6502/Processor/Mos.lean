import Micro6502.Instruction.Execute
import Micro6502.Processor.Basic

/-!
# The processor

The architecture of the 6502 family, and what its processors can do beyond the common part: the
interrupt inputs and the reset sequence.

## Contents

- `Operation`, a completed interrupt or instruction, with its `listing`
- `mos`, the architecture of a variant
- `Cpu`, its processors, with `Cpu.run`, `Cpu.reset`, `Cpu.request` and `Cpu.withdraw`
-/

namespace Micro6502

/-! ## Operations -/

/-- What a processor completed. -/
inductive Operation where
  | interrupt (source : Interrupt)
  | instruction (i : Instruction) (cycles : Int)
  deriving DecidableEq, Repr

/-- A decoded instruction as a line of a listing. -/
def Instruction.listing (i : Instruction) : Listing where
  code := Hex.padded 2 i.opcode
  mnemonic := i.descriptor.mnemonic.text
  operands := if i.operand.text.isEmpty then [] else [i.operand.text]
  bytes := i.operand.bytes
  length := i.descriptor.length

namespace Operation

/-- The cycles of an operation. -/
def cycles : Operation → Int
  | interrupt _ => Interrupts.interruptCycles
  | instruction _ cycles => cycles

/-- The operation as a line of a listing. An interrupt has no opcode. -/
def listing : Operation → Listing
  | interrupt source => ⟨"--", source.name, [], [], 0⟩
  | instruction i _ => i.listing

end Operation

/-! ## The architecture -/

/-- The architecture of a variant. -/
abbrev mos (variant : Variant) : Architecture where
  State := Registers
  Decoded := Instruction
  Operation := Operation
  initial := Registers.initial
  resetState _ := Registers.initial
  restoreState _ given := given
  service := do
    let source ← Interrupts.service
    return source.map Operation.interrupt
  fetch := fetch
  decode opcode := Instruction.decode variant opcode.toNat
  execute i := do
    let cycles ← i.execute
    return Operation.instruction i cycles
  cycles := Operation.cycles
  listing := Operation.listing

/-! ## The processors -/

/-- A processor of the family on a bus. -/
abbrev Cpu (variant : Variant) (β : Type) := Processor (mos variant) β

namespace Cpu

variable {variant : Variant} {β : Type}

/-- A processor at power-up. The program counter waits for a reset. -/
def new (variant : Variant) (bus : β) : Cpu variant β := Processor.new (mos variant) bus

/-- Changes the registers. -/
def modifyRegisters (f : Registers → Registers) : Call (Cpu variant β) Unit :=
  Processor.modify fun p => { p with state := f p.state }

/-- Steps until at least `budget` cycles have passed, and gives how many have. There are at most
`budget` steps, for none is free. -/
def run [HostBus β] (budget : Int) : Call (Cpu variant β) Int :=
  Processor.runFor budget budget.toNat 0

/-- Resets the processor. The cycles are counted once the vector has been read. -/
def reset [HostBus β] : Call (Cpu variant β) Unit := do
  Processor.reset
  Processor.perform (A := mos variant) Interrupts.reset
  Processor.modify fun p =>
    { p with clock := p.clock.charge Interrupts.resetCycles false }

/-- Requests an interrupt. -/
def request (source : Interrupt) : Call (Cpu variant β) Unit :=
  modifyRegisters fun r =>
    match source with
    | .nmi => { r with nmi := true }
    | .irq => { r with irq := true }

/-- Withdraws the request of a maskable interrupt. -/
def withdraw : Call (Cpu variant β) Unit :=
  modifyRegisters fun r => { r with irq := false }

end Cpu

end Micro6502
