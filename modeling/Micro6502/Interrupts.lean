import Micro6502.Stack

/-!
# Interrupts, break and reset

What takes the processor away from the program. An interrupt pushes the program counter and the
status, masks further requests, and goes on at an address from a vector at the top of the bus. A
request waits in its latch and is looked at between two instructions only.

## Contents

- `nmiVector`, `resetVector`, `irqVector`
- `enter`, the sequence that interrupts and break share, and `softwareBreak`
- `service`, which takes the pending interrupt that comes first
- `reset`
-/

namespace Micro6502.Interrupts

/-! ## Vectors -/

/-- Where the address of the handler of non-maskable interrupts stands. -/
def nmiVector : Int := 0xFFFA

/-- Where the address of the first instruction after a reset stands. -/
def resetVector : Int := 0xFFFC

/-- Where the address of the handler of maskable interrupts and of breaks stands. -/
def irqVector : Int := 0xFFFE

def interruptCycles : Int := 7

def resetCycles : Int := 7

def vectorOf : Interrupt → Int
  | .nmi => nmiVector
  | .irq => irqVector

/-! ## Entering a handler -/

/-- Pushes a return address and the status, masks interrupts and goes to the address in a vector.
The pushed status says whether a break instruction was the cause. -/
def enter (vector returnAddress : Int) (isBreak : Bool) : Action Registers Unit := do
  Stack.pushWord returnAddress
  let r ← Action.get
  -- The status is pushed as it was: further requests are masked only after that.
  Stack.push { r.status with brk := isBreak }.pack.toNat
  Action.modify fun r => r.setFlag .interrupt true
  let pc ← Action.readWord vector
  Action.modify fun r => { r with pc := pc }

/-- The break instruction, with the program counter behind its opcode. It skips a byte on return.
A pending non-maskable interrupt is taken along: the break then goes to its vector. -/
def softwareBreak : Action Registers Unit := do
  let r ← Action.get
  if r.nmi then
    Action.modify fun r => { r with nmi := false }
    Action.tell (.breakHijacked (r.pc - 1))
    enter nmiVector (r.pc + 1).toNat true
  else
    enter irqVector (r.pc + 1).toNat true

/-- The interrupt that is taken next: a non-maskable request before a maskable one, and that only
while it is not masked. -/
def due? (r : Registers) : Option Interrupt :=
  if r.nmi then some .nmi
  else if r.irq && !r.status.interrupt then some .irq
  else none

/-- The registers without the request of an interrupt. -/
def acknowledge (source : Interrupt) (r : Registers) : Registers :=
  match source with
  | .nmi => { r with nmi := false }
  | .irq => { r with irq := false }

/-- Takes the interrupt that is due, if there is one, and says which. -/
def service : Action Registers (Option Interrupt) := do
  let r ← Action.get
  match due? r with
  | none => return none
  | some source => do
    Action.modify (acknowledge source)
    Action.tell (.interruptTaken source r.pc)
    enter (vectorOf source) r.pc.toNat false
    return some source

/-! ## Reset -/

/-- Puts all registers into their initial state, drops the requests, and goes to the address in
the reset vector. -/
def reset : Action Registers Unit := do
  Action.modify fun r => { Registers.initial with pc := r.pc }
  let pc ← Action.readWord resetVector
  Action.modify fun r => { r with pc := pc }
  Action.tell (.resetTaken pc)

end Micro6502.Interrupts
