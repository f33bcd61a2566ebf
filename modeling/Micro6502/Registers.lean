import Micro6502.Status

/-!
# The registers

What the processor holds between instructions: the program counter, the stack pointer, the three
working registers, the status, and the latches of the two interrupt inputs.

## Contents

- `Registers` and `Registers.initial`, their contents after power-up
- `Register`, the names of the word registers, with `Registers.assign`, which reduces any integer
  to the width of the register
- `Registers.read`, the register contents as integers
-/

namespace Micro6502

/-! ## The register file -/

/-- The contents of the registers. The stack pointer is an offset within page one. -/
structure Registers where
  pc : Address
  sp : Byte
  a : Byte
  x : Byte
  y : Byte
  status : Status
  /-- A maskable interrupt was requested and not taken yet. -/
  irq : Bool
  /-- A non-maskable interrupt was requested and not taken yet. -/
  nmi : Bool
  deriving DecidableEq, Repr

namespace Registers

/-- The contents after power-up: the stack pointer at `$FD`, interrupts masked, all else zero. -/
def initial : Registers where
  pc := 0
  sp := 0xFD
  a := 0
  x := 0
  y := 0
  status := { interrupt := true }
  irq := false
  nmi := false

/-- The initial contents but for the program counter and the stack pointer, which are given as
integers. -/
def startingAt (pc sp : Int) : Registers :=
  { initial with pc := address pc, sp := byte sp }

end Registers

/-! ## Assignment by name -/

/-- The registers that hold a word. -/
inductive Register where
  | pc
  | sp
  | a
  | x
  | y
  | p
  deriving DecidableEq, Repr

namespace Registers

/-- Assigns an integer to a register, reduced to the width of the register. -/
def assign (r : Registers) (register : Register) (value : Int) : Registers :=
  match register with
  | .pc => { r with pc := address value }
  | .sp => { r with sp := byte value }
  | .a => { r with a := byte value }
  | .x => { r with x := byte value }
  | .y => { r with y := byte value }
  | .p => { r with status := .unpack (byte value) }

/-- The contents of a register as a number; the status reads as its byte. -/
def read (r : Registers) : Register → Nat
  | .pc => r.pc.toNat
  | .sp => r.sp.toNat
  | .a => r.a.toNat
  | .x => r.x.toNat
  | .y => r.y.toNat
  | .p => r.status.pack.toNat

def setFlag (r : Registers) (flag : Flag) (value : Bool) : Registers :=
  { r with status := r.status.set flag value }

/-- Sets the flags that describe a result. -/
def setNZ (r : Registers) (result : Byte) : Registers :=
  { r with status := r.status.setNZ result }

/-- Sets flags by name, one after the other. An unknown name ends the list; the flags before it
are set. -/
def updateFlags (r : Registers) : List (String × Bool) → Except Flag.UnknownName Unit × Registers
  | [] => (.ok (), r)
  | (name, value) :: rest =>
    match Flag.ofName? name with
    | .ok flag => (r.setFlag flag value).updateFlags rest
    | .error unknown => (.error unknown, r)

end Registers

end Micro6502
