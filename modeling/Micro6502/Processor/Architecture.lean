import Micro6502.Dialogue

/-!
# Architectures

What distinguishes one processor from another: its state, how it takes interrupts, and how it
fetches, decodes and executes an instruction. All else is common to processors and is said once.

## Contents

- `Listing`, an executed operation as a line of a program listing
- `Architecture`, and `Architecture.turn`, what a processor does between two boundaries
-/

namespace Micro6502

/-! ## Listings -/

/-- An operation as it is written in a listing. -/
structure Listing where
  /-- The opcode in hexadecimal digits. -/
  code : String
  mnemonic : String
  operands : List String
  bytes : List Byte
  length : Nat
  deriving DecidableEq, Repr

/-- The mnemonic followed by the operands. -/
def Listing.symbol (line : Listing) : String :=
  if line.operands.isEmpty then line.mnemonic
  else line.mnemonic ++ " " ++ String.intercalate ", " line.operands

/-! ## Architectures -/

/-- A kind of processor. -/
structure Architecture where
  /-- What the processor holds between instructions. -/
  State : Type
  /-- An instruction before it is executed. -/
  Decoded : Type
  /-- A completed instruction or interrupt. -/
  Operation : Type
  initial : State
  /-- The state after a reset. -/
  resetState : State → State
  /-- The state after `given` is put into a processor that holds `old`. -/
  restoreState : (old given : State) → State
  /-- Takes an interrupt, if one is due. -/
  service : Action State (Option Operation)
  fetch : Action State Byte
  /-- Finds out what an opcode means, and fetches its operand. -/
  decode : Byte → Action State Decoded
  execute : Decoded → Action State Operation
  /-- The cycles that an operation took. -/
  cycles : Operation → Int
  /-- The operation as a line of a listing. -/
  listing : Operation → Listing

namespace Architecture

def instruction (A : Architecture) : Action A.State A.Operation := do
  let opcode ← A.fetch
  let decoded ← A.decode opcode
  A.execute decoded

/-- Takes the interrupt that is due, or else executes one instruction. The result says whether it
was an instruction. -/
def turn (A : Architecture) : Action A.State (A.Operation × Bool) := do
  match ← A.service with
  | some operation => return (operation, false)
  | none =>
    let operation ← A.instruction
    return (operation, true)

end Architecture

end Micro6502
