import Micro6502.Dialogue
import Micro6502.Instruction.Mode
import Micro6502.Registers
import Micro6502.Text.Hex

/-!
# Operands

Finding the operand of an instruction: its bytes are fetched from the program, pointers are
followed, and what results is a place, a value, or nothing.

## Contents

- `fetch`, the next byte of the program
- `Location` and `Operand`, with `Operand.text`, the operand in assembler notation
- `Operand.resolve`, by addressing mode, and `Operand.skip`, which only passes over the bytes
- `Operand.read`, `Operand.write` and `Operand.update`
-/

namespace Micro6502

/-! ## Reading the program -/

/-- Reads the byte at the program counter and moves on. -/
def fetch : Action Registers Byte := do
  let r ← Action.get
  let b ← Action.read r.pc.toNat
  Action.modify fun r => { r with pc := r.pc + 1 }
  return b

/-- Reads the word at a pointer in page zero. The pointer wraps within the page. -/
def readPointer (p : Int) : Action Registers Address := do
  let low ← Action.read (p % 0x100)
  let high ← Action.read ((p + 1) % 0x100)
  return wordOf low high

/-! ## Operands -/

/-- Where an operand is. The address of a cell is an integer as it goes onto the bus. -/
inductive Location where
  | nowhere
  | accumulator
  | value (b : Byte)
  | cell (a : Int)
  deriving DecidableEq, Repr

/-- The operand of an instruction. -/
structure Operand where
  mode : Mode
  location : Location
  /-- Whether indexing, or the branch if it is taken, leaves the page. -/
  pageCrossed : Bool
  /-- The operand bytes in program order. -/
  bytes : List Byte
  deriving DecidableEq, Repr

namespace Operand

/-- The operand bytes as one number, the last byte in front. -/
def number (o : Operand) : String := String.join (o.bytes.reverse.map Hex.ofByte)

/-- The operand in assembler notation. A branch shows where it leads. -/
def text (o : Operand) : String :=
  match o.location with
  | .nowhere => if o.bytes.isEmpty then "" else "$" ++ o.number
  | .accumulator => "A"
  | .value _ => "#$" ++ o.number
  | .cell a =>
    match o.mode with
    | .zeroPageX | .absoluteX => "$" ++ o.number ++ ",X"
    | .zeroPageY | .absoluteY => "$" ++ o.number ++ ",Y"
    | .indirect => "($" ++ o.number ++ ")"
    | .indexedIndirect => "($" ++ o.number ++ ",X)"
    | .indirectIndexed => "($" ++ o.number ++ "),Y"
    | .relative => "$" ++ Hex.padded 4 a
    | _ => "$" ++ o.number

def address? (o : Operand) : Option Address :=
  match o.location with
  | .cell a => some (address a)
  | _ => none

def value? (o : Operand) : Option Byte :=
  match o.location with
  | .value b => some b
  | _ => none

def isAccumulator (o : Operand) : Bool := o.mode == .accumulator

/-! ## Resolution -/

/-- The operand at a base address plus an index. -/
def indexed (mode : Mode) (base : Address) (index : Byte) (bytes : List Byte) : Operand :=
  let a : Int := (base.toNat + index.toNat) % 0x10000
  ⟨mode, .cell a, crossesPage base.toNat a, bytes⟩

/-- Fetches the two bytes of an address and gives the operand at that address plus an index. -/
def resolveAbsolute (mode : Mode) (index : Registers → Byte) : Action Registers Operand := do
  let low ← fetch
  let high ← fetch
  let r ← Action.get
  return indexed mode (wordOf low high) (index r) [low, high]

/-- Fetches a place in page zero and gives the operand there, moved by an index within the page. -/
def resolveZeroPage (mode : Mode) (index : Registers → Byte) : Action Registers Operand := do
  let base ← fetch
  let r ← Action.get
  return ⟨mode, .cell ((base.toNat + (index r).toNat) % 0x100), false, [base]⟩

/-- Fetches the operand bytes and finds the operand. The program counter ends behind them. -/
def resolve : Mode → Action Registers Operand
  | .implied => return ⟨.implied, .nowhere, false, []⟩
  | .accumulator => return ⟨.accumulator, .accumulator, false, []⟩
  | .immediate => do
    let value ← fetch
    return ⟨.immediate, .value value, false, [value]⟩
  | .zeroPage => resolveZeroPage .zeroPage fun _ => 0
  | .zeroPageX => resolveZeroPage .zeroPageX Registers.x
  | .zeroPageY => resolveZeroPage .zeroPageY Registers.y
  | .absolute => resolveAbsolute .absolute fun _ => 0
  | .absoluteX => resolveAbsolute .absoluteX Registers.x
  | .absoluteY => resolveAbsolute .absoluteY Registers.y
  | .indirect => do
    let low ← fetch
    let high ← fetch
    let pointer : Int := (wordOf low high).toNat
    let targetLow ← Action.read pointer
    -- The pointer does not leave its page: behind offset $FF comes offset $00.
    let targetHigh ← Action.read (if low = 0xFF then pointer - 0xFF else pointer + 1)
    return ⟨.indirect, .cell (wordOf targetLow targetHigh).toNat, false, [low, high]⟩
  | .indexedIndirect => do
    let base ← fetch
    let r ← Action.get
    let a ← readPointer (base.toNat + r.x.toNat)
    return ⟨.indexedIndirect, .cell a.toNat, false, [base]⟩
  | .indirectIndexed => do
    let pointer ← fetch
    -- The index is added to what the pointer leads to, not to the pointer.
    let base ← readPointer pointer.toNat
    let r ← Action.get
    return indexed .indirectIndexed base r.y [pointer]
  | .relative => do
    let offset ← fetch
    let r ← Action.get
    -- The program counter is behind the instruction here.
    let a : Int := (r.pc.toNat + offset.toInt) % 0x10000
    return ⟨.relative, .cell a, crossesPage r.pc.toNat a, [offset]⟩

def fetchMany : Nat → Action Registers (List Byte)
  | 0 => return []
  | n + 1 => do
    let b ← fetch
    let rest ← fetchMany n
    return b :: rest

/-- Passes over the operand bytes of a mode. -/
def skip (mode : Mode) : Action Registers Operand := do
  let bytes ← fetchMany mode.operandLength
  return ⟨mode, .nowhere, false, bytes⟩

/-! ## Access -/

/-- How to read the operand; there is no way if it is nowhere. -/
def read? (o : Operand) : Option (Action Registers Byte) :=
  match o.location with
  | .nowhere => none
  | .accumulator => some do return (← Action.get).a
  | .value b => some (pure b)
  | .cell a => some (Action.read a)

/-- Reads the operand. One that is nowhere reads as zero; no instruction asks for such a one. -/
def read (o : Operand) : Action Registers Byte := o.read?.getD (pure 0)

/-- Writes the operand, if it has a place. -/
def write (o : Operand) (data : Int) : Action Registers Unit :=
  match o.location with
  | .accumulator => Action.modify fun r => { r with a := byte data }
  | .cell a => Action.write a data
  | _ => pure ()

/-- Reads the operand, works on it, and writes the result back. Flags change before the write. -/
def update (o : Operand) (work : Registers → Byte → Registers × Int) : Action Registers Unit := do
  let b ← o.read
  let r ← Action.get
  let (r, result) := work r b
  Action.modify fun _ => r
  o.write result

end Operand

end Micro6502
