import Micro6502.Decimal.Whole
import Micro6502.Text.Hex

/-!
# Faults

Why a device or a bus refuses a request, and the sentence that reports each cause.

## Contents

- `MemoryKind`, the two kinds of memory, which some sentences name
- `Fault` and `Fault.message`
-/

namespace Micro6502

/-- Memory that the processor can write, and memory that only the host can fill. -/
inductive MemoryKind where
  | ram
  | rom
  deriving DecidableEq, Repr

def MemoryKind.name : MemoryKind → String
  | ram => "RAM"
  | rom => "ROM"

/-- A refused request. -/
inductive Fault where
  /-- No device answers at the address. -/
  | unmapped (address : Int)
  /-- The offset lies outside the memory. -/
  | outOfBounds (kind : MemoryKind) (offset : Int) (size : Nat)
  /-- The integer to be stored is no byte. -/
  | dataTooWide (data : Int)
  /-- The integer that should fill a memory is no byte. -/
  | fillTooWide (value : Int)
  /-- The integer that should stand on an open bus is no byte. -/
  | openBusTooWide (value : Int)
  /-- A memory needs at least one cell. -/
  | sizeNotPositive
  /-- The ends of a region are out of order or off the bus. -/
  | invalidRange
  /-- The memory does not fill its region. -/
  | sizeMismatch (kind : MemoryKind) (size : Nat) (expected : Int)
  /-- What should be put on the bus is no device. -/
  | notADevice
  deriving DecidableEq, Repr

/-- The sentence about an integer that should be a byte. One with too many digits cannot be written,
and this is reported in its place. -/
def Fault.tooWide (what : String) (n : Int) : String :=
  match Decimal.whole? n with
  | some digits => what ++ " " ++ digits ++ " is not an 8-bit value."
  | none => Decimal.limitMessage

def Fault.message : Fault → String
  | unmapped a => "Address " ++ Hex.marked 6 a ++ " not mapped to any device."
  | outOfBounds kind offset size =>
    "Address " ++ toString offset ++ " out of bounds for " ++ kind.name ++ " of size " ++
      toString size ++ "."
  | dataTooWide data => tooWide "Data" data
  | fillTooWide value => tooWide "Initial value" value
  | openBusTooWide value => tooWide "Open bus value" value
  | sizeNotPositive => "RAM size must be a positive integer."
  | invalidRange =>
    "Invalid address range: start_address must be <= end_address and within $0000-$FFFF."
  | sizeMismatch kind size expected =>
    "Registered " ++ kind.name ++ " device size (" ++ toString size ++
      " bytes) does not match the specified address range size (" ++ toString expected ++
      " bytes)."
  | notADevice => "Device must be an instance of a class derived from Device."

end Micro6502
