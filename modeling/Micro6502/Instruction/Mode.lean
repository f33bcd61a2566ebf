/-!
# Addressing modes

The thirteen ways in which an instruction names its operand, and how many operand bytes follow
the opcode in each of them.
-/

namespace Micro6502

/-- The addressing modes. -/
inductive Mode where
  | implied
  | accumulator
  | immediate
  | zeroPage
  | zeroPageX
  | zeroPageY
  | absolute
  | absoluteX
  | absoluteY
  | indirect
  /-- The pointer in page zero is indexed by X. -/
  | indexedIndirect
  /-- What the pointer in page zero points to is indexed by Y. -/
  | indirectIndexed
  | relative
  deriving DecidableEq, Repr

namespace Mode

def all : List Mode :=
  [implied, accumulator, immediate, zeroPage, zeroPageX, zeroPageY, absolute, absoluteX, absoluteY,
    indirect, indexedIndirect, indirectIndexed, relative]

def operandLength : Mode → Nat
  | implied | accumulator => 0
  | absolute | absoluteX | absoluteY | indirect => 2
  | _ => 1

def name : Mode → String
  | implied => "IMPLIED"
  | accumulator => "ACCUMULATOR"
  | immediate => "IMMEDIATE"
  | zeroPage => "ZERO_PAGE"
  | zeroPageX => "ZERO_PAGE_X"
  | zeroPageY => "ZERO_PAGE_Y"
  | absolute => "ABSOLUTE"
  | absoluteX => "ABSOLUTE_X"
  | absoluteY => "ABSOLUTE_Y"
  | indirect => "INDIRECT"
  | indexedIndirect => "INDEXED_INDIRECT"
  | indirectIndexed => "INDIRECT_INDEXED"
  | relative => "RELATIVE"

def ofName? (name : String) : Option Mode := all.find? (·.name == name)

end Mode

end Micro6502
