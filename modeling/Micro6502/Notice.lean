import Micro6502.Text.CodePoints
import Micro6502.Text.Hex

/-!
# Notices

Remarks that the machine makes on its way. Nothing that the machine does depends on them.

## Contents

- `Interrupt`, the two interrupt inputs
- `Notice`, with its `level` and its `message`
-/

namespace Micro6502

open Text (CodePoints)

/-- The interrupt inputs of the processor. -/
inductive Interrupt where
  | nmi
  | irq
  deriving DecidableEq, Repr

def Interrupt.name : Interrupt → String
  | nmi => "NMI"
  | irq => "IRQ"

/-- How much a notice matters. -/
inductive Level where
  | debug
  | info
  | warning
  deriving DecidableEq, Repr

def Level.name : Level → String
  | debug => "DEBUG"
  | info => "INFO"
  | warning => "WARNING"

/-- Something worth a remark. -/
inductive Notice where
  /-- A read that no device answered. -/
  | openBusRead (address : Int) (value : Byte)
  /-- A write that no device took. -/
  | openBusWrite (address : Int) (data : Int)
  /-- An interrupt was taken before the instruction at `pc`. -/
  | interruptTaken (source : Interrupt) (pc : Address)
  /-- The break at `pc` went to the vector of a pending non-maskable interrupt. -/
  | breakHijacked (pc : Address)
  /-- The opcode fetched from `pc` has no documented meaning. -/
  | undefinedOpcode (opcode : Int) (pc : Address)
  /-- A reset set the program counter. -/
  | resetTaken (pc : Address)
  /-- A region of unknown type was made of RAM. -/
  | unknownDeviceType (type : CodePoints) (first last : Int)
  /-- A system was built. -/
  | systemBuilt (architecture : CodePoints) (regions : Nat)
  deriving DecidableEq, Repr

def Notice.level : Notice → Level
  | unknownDeviceType .. => .warning
  | resetTaken .. | systemBuilt .. => .info
  | _ => .debug

def Notice.message : Notice → CodePoints
  | openBusRead a value => "Open bus read at $" ++ Hex.padded 4 a ++ " -> $" ++ Hex.ofByte value
  | openBusWrite a data =>
    "Open bus write at $" ++ Hex.padded 4 a ++ " <- $" ++ Hex.padded 2 data ++ " dropped"
  | interruptTaken source pc => source.name ++ " taken at $" ++ Hex.ofAddress pc
  | breakHijacked pc => "BRK at $" ++ Hex.ofAddress pc ++ " hijacked by pending NMI"
  | undefinedOpcode opcode pc =>
    "Undefined opcode $" ++ Hex.padded 2 opcode ++ " at $" ++ Hex.ofAddress pc ++
      " treated as NOP*"
  | resetTaken pc => "Reset vector $FFFC -> PC=$" ++ Hex.ofAddress pc
  | unknownDeviceType type first last =>
    "Unknown device type '" ++ type ++ "' for range " ++ Hex.padded 4 first ++ "-" ++
      Hex.padded 4 last ++ ", defaulting to RAM"
  | systemBuilt architecture regions =>
    "Built " ++ architecture ++ " system with " ++ toString regions ++ " memory region(s)"

end Micro6502
