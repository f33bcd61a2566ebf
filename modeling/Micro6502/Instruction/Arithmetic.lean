import Micro6502.Registers

/-!
# Arithmetic and logic

What the instructions compute. Each function takes the registers and the operand; those that
change the operand also give its new value.

In decimal mode the chip adds digit by digit but takes its flags from stages on the way: `carry`
from the corrected sum, `zero` from the binary sum, `negative` and `overflow` from the sum whose
low digit only is corrected. In a decimal subtraction all flags are those of the binary one.

## Contents

- `addBinary`, `addDecimal`, `subtractBinary`, `subtractDecimal`, `compare`
- `Variant` with `add` and `subtract`, which look at the decimal flag
- `shiftLeft`, `shiftRight`, `rotateLeft`, `rotateRight`, `increment`, `decrement`
-/

namespace Micro6502

/-! ## Addition and subtraction -/

namespace Arithmetic

/-- Adds the operand and the carry to the accumulator. -/
def addBinary (r : Registers) (m : Byte) : Registers :=
  let sum := r.a.toNat + m.toNat + r.status.carry.toNat
  let result : Byte := BitVec.ofNat 8 sum
  { r with
    a := result
    status := { r.status with
      carry := 255 < sum
      overflow := r.a.msb == m.msb && r.a.msb != result.msb
      negative := result.msb
      zero := result == 0 } }

/-- Subtracts the operand, and the carry if it is clear, from the accumulator. -/
def subtractBinary (r : Registers) (m : Byte) : Registers := addBinary r (~~~m)

/-- The sum of the low digits, with a carry into the high digit if it is no digit. -/
def addLowDigits (a m : Byte) (carry : Bool) : Nat :=
  let low := a.toNat % 16 + m.toNat % 16 + carry.toNat
  if 9 < low then (low + 6) % 16 + 16 else low

/-- The sum whose low digit only is corrected. -/
def addHalfCorrected (a m : Byte) (carry : Bool) : Nat :=
  a.toNat / 16 * 16 + m.toNat / 16 * 16 + addLowDigits a m carry

/-- Adds two decimal digits and the carry to the accumulator. -/
def addDecimal (r : Registers) (m : Byte) : Registers :=
  let half := addHalfCorrected r.a m r.status.carry
  let sum := if 0xA0 ≤ half then half + 0x60 else half
  { r with
    a := BitVec.ofNat 8 sum
    status := { r.status with
      carry := 255 < sum
      overflow := r.a.msb == m.msb && r.a.msb != half.testBit 7
      negative := half.testBit 7
      zero := (r.a.toNat + m.toNat + r.status.carry.toNat) % 256 == 0 } }

/-- The difference of the low digits, with a borrow from the high digit if it is negative. -/
def subtractLowDigits (a m : Byte) (carry : Bool) : Int :=
  let low : Int := a.toNat % 16 - m.toNat % 16 + carry.toNat - 1
  if low < 0 then (low - 6) % 16 - 16 else low

/-- Subtracts two decimal digits, and the carry if it is clear, from the accumulator. -/
def subtractDecimal (r : Registers) (m : Byte) : Registers :=
  let half : Int :=
    r.a.toNat / 16 * 16 - m.toNat / 16 * 16 + subtractLowDigits r.a m r.status.carry
  let difference := if half < 0 then half - 0x60 else half
  { subtractBinary r m with a := BitVec.ofInt 8 difference }

/-- Compares a register with the operand. The carry is set when the register is no smaller. -/
def compare (r : Registers) (register m : Byte) : Registers :=
  { r with status := { r.status.setNZ (register - m) with carry := m ≤ register } }

end Arithmetic

/-! ## Variants -/

/-- The chips that differ in decimal arithmetic only. -/
inductive Variant where
  /-- The chip with a decimal mode. -/
  | nmos
  /-- The chip that keeps the decimal flag and never looks at it. -/
  | ricoh2A03
  deriving DecidableEq, Repr

namespace Variant

def hasDecimal : Variant → Bool
  | nmos => true
  | ricoh2A03 => false

def add (variant : Variant) (r : Registers) (m : Byte) : Registers :=
  if variant.hasDecimal && r.status.decimal then Arithmetic.addDecimal r m
  else Arithmetic.addBinary r m

def subtract (variant : Variant) (r : Registers) (m : Byte) : Registers :=
  if variant.hasDecimal && r.status.decimal then Arithmetic.subtractDecimal r m
  else Arithmetic.subtractBinary r m

end Variant

/-! ## Work on one byte -/

namespace Arithmetic

/-- The registers after a shift, with the bit that was shifted out in the carry. -/
def shifted (r : Registers) (result : Int) (carry : Bool) : Registers × Int :=
  ({ r with status := { r.status.setNZ (byte result) with carry := carry } }, result)

/-- Doubles the byte, adds the bit that is shifted in, and drops the bit that is shifted out. -/
def shiftInLow (b : Byte) (bit : Bool) : Int := (2 * b.toNat + bit.toNat) % 0x100

/-- Halves the byte with the bit that is shifted in on top of it. The sum has eight bits. -/
def shiftInHigh (b : Byte) (bit : Bool) : Int := b.toNat / 2 + 0x80 * bit.toNat

/-- Shifts left; zero comes in. -/
def shiftLeft (r : Registers) (b : Byte) : Registers × Int :=
  shifted r (shiftInLow b false) b.msb

/-- Shifts right; zero comes in. -/
def shiftRight (r : Registers) (b : Byte) : Registers × Int :=
  shifted r (shiftInHigh b false) (b.getLsbD 0)

/-- Shifts left; the carry comes in. -/
def rotateLeft (r : Registers) (b : Byte) : Registers × Int :=
  shifted r (shiftInLow b r.status.carry) b.msb

/-- Shifts right; the carry comes in. -/
def rotateRight (r : Registers) (b : Byte) : Registers × Int :=
  shifted r (shiftInHigh b r.status.carry) (b.getLsbD 0)

/-- The registers after counting. -/
def counted (r : Registers) (result : Int) : Registers × Int := (r.setNZ (byte result), result)

def increment (r : Registers) (b : Byte) : Registers × Int := counted r ((b.toNat + 1) % 0x100)

def decrement (r : Registers) (b : Byte) : Registers × Int := counted r ((b.toNat - 1) % 0x100)

/-- Tests the operand: `zero` is that of its conjunction with the accumulator, `negative` and
`overflow` are its own two top bits. -/
def test (r : Registers) (b : Byte) : Registers :=
  { r with status := { r.status with
      zero := r.a &&& b == 0
      overflow := b.getLsbD 6
      negative := b.msb } }

end Arithmetic

end Micro6502
