import Micro6502.Processor.Basic
import Micro6502.Text.Hex

/-!
# An adding machine

The smallest architecture that uses every part of a processor. Each opcode is a number that is
added to the accumulator, and its low digit is the price in cycles. One interrupt can be requested;
the request is no part of the state that is saved and restored, and survives a reset.
-/

namespace Micro6502

/-- The state of an adding machine. -/
structure Adder where
  pc : Int := 0
  sp : Int := 0
  acc : Int := 0
  requested : Bool := false
  deriving DecidableEq, Repr

namespace Adder

/-- What an adding machine completed. -/
inductive Operation where
  | interrupt
  | add (opcode : Byte)
  deriving DecidableEq, Repr

def Operation.cycles : Operation → Int
  | interrupt => 5
  | add opcode => if opcode.toNat % 16 = 0 then 1 else (opcode.toNat % 16 : Nat)

/-- The operands of an addition: the number, with a `T` behind it from `$40` on, and none from `$80`
on. -/
def operands (opcode : Byte) : List String :=
  let number := "#" ++ toString opcode.toNat
  if 0x80 ≤ opcode.toNat then []
  else if 0x40 ≤ opcode.toNat then [number, "T"]
  else [number]

/-- The operation as a line of a listing. -/
def Operation.listing : Operation → Listing
  | interrupt => ⟨"--", "INT", [], [], 0⟩
  | add opcode => ⟨Hex.ofByte opcode, "ADD", operands opcode, [], 1⟩

def service : Action Adder (Option Operation) := do
  let s ← Action.get
  if s.requested then
    Action.modify fun s => { s with requested := false, pc := 0x80 }
    return some .interrupt
  else
    return none

/-- Reads the next opcode. The program counter wraps at sixteen bits when it moves on. -/
def fetch : Action Adder Byte := do
  let s ← Action.get
  let b ← Action.read s.pc
  Action.modify fun s => { s with pc := (s.pc + 1) % 0x10000 }
  return b

def execute (opcode : Byte) : Action Adder Operation := do
  Action.modify fun s => { s with acc := (s.acc + opcode.toNat) % 0x100 }
  return .add opcode

end Adder

/-- The architecture of the adding machine. -/
abbrev adder : Architecture where
  State := Adder
  Decoded := Byte
  Operation := Adder.Operation
  initial := {}
  resetState old := { requested := old.requested }
  restoreState old given := { given with requested := old.requested }
  service := Adder.service
  fetch := Adder.fetch
  decode opcode := return opcode
  execute := Adder.execute
  cycles := Adder.Operation.cycles
  listing := Adder.Operation.listing

namespace Adder

variable {β : Type} [HostBus β]

/-- Steps until at least `budget` cycles have passed, and gives how many have. There are at most
`budget` steps. -/
def run (budget : Int) : Call (Processor adder β) Int := Processor.runFor budget budget.toNat 0

theorem everyStepCosts : Processor.EveryStepCosts adder β := by
  intro p q cycles told hstep
  obtain ⟨operation, _, _, rfl, _⟩ := Processor.step_ok hstep
  show 0 < operation.cycles
  cases operation with
  | interrupt => decide
  | add opcode =>
    unfold Operation.cycles
    split <;> omega

/-- The steps are enough. -/
theorem runs_run (budget : Int) (p : Processor adder β) :
    Processor.Runs budget 0 p (run budget p) :=
  Processor.runs_runFor everyStepCosts p (by omega)

end Adder

def Adder.request : Call (Processor adder β) Unit :=
  Processor.modify fun p => { p with state := { p.state with requested := true } }

end Micro6502
