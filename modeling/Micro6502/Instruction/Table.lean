import Micro6502.Instruction.Mnemonic
import Micro6502.Instruction.Mode
import Micro6502.Word

/-!
# The opcode table

What each of the 256 opcodes means. The documented opcodes stand in a matrix; the others follow a
rule on the fields of the opcode, so that each of them is as long as on the chip.

## Contents

- `Descriptor`, the entry of an opcode, with its length and the rule for the page penalty
- `documented`, the matrix, and `undocumented`, the rule for the gaps
- `Descriptor.ofOpcode`, the entry of any opcode
-/

namespace Micro6502

/-! ## Entries -/

/-- The meaning of an opcode: instruction, addressing mode, and cycles without penalties. -/
structure Descriptor where
  mnemonic : Mnemonic
  mode : Mode
  cycles : Nat
  deriving DecidableEq, Repr

namespace Descriptor

def length (d : Descriptor) : Nat := 1 + d.mode.operandLength

def isDocumented (d : Descriptor) : Bool := d.mnemonic != .skip

/-- Whether the instruction takes one cycle more when indexing leaves the page: it does if it only
reads its operand. Stores and instructions that write back take the longer way always. -/
def hasPagePenalty (d : Descriptor) : Bool :=
  [Mnemonic.lda, .ldx, .ldy, .eor, .and, .ora, .adc, .sbc, .cmp].contains d.mnemonic &&
    [Mode.absoluteX, .absoluteY, .indirectIndexed].contains d.mode

end Descriptor

/-! ## Documented opcodes -/

/-- The documented opcodes: a row for each high digit, in it a column for each low digit. -/
def documented : List (List (Option Descriptor)) :=
  [
    [some ⟨.brk, .implied, 7⟩, some ⟨.ora, .indexedIndirect, 6⟩, none, none, none,
      some ⟨.ora, .zeroPage, 3⟩, some ⟨.asl, .zeroPage, 5⟩, none, some ⟨.php, .implied, 3⟩,
      some ⟨.ora, .immediate, 2⟩, some ⟨.asl, .accumulator, 2⟩, none, none,
      some ⟨.ora, .absolute, 4⟩, some ⟨.asl, .absolute, 6⟩, none],
    [some ⟨.bpl, .relative, 2⟩, some ⟨.ora, .indirectIndexed, 5⟩, none, none, none,
      some ⟨.ora, .zeroPageX, 4⟩, some ⟨.asl, .zeroPageX, 6⟩, none, some ⟨.clc, .implied, 2⟩,
      some ⟨.ora, .absoluteY, 4⟩, none, none, none, some ⟨.ora, .absoluteX, 4⟩,
      some ⟨.asl, .absoluteX, 7⟩, none],
    [some ⟨.jsr, .absolute, 6⟩, some ⟨.and, .indexedIndirect, 6⟩, none, none,
      some ⟨.bit, .zeroPage, 3⟩, some ⟨.and, .zeroPage, 3⟩, some ⟨.rol, .zeroPage, 5⟩, none,
      some ⟨.plp, .implied, 4⟩, some ⟨.and, .immediate, 2⟩, some ⟨.rol, .accumulator, 2⟩, none,
      some ⟨.bit, .absolute, 4⟩, some ⟨.and, .absolute, 4⟩, some ⟨.rol, .absolute, 6⟩, none],
    [some ⟨.bmi, .relative, 2⟩, some ⟨.and, .indirectIndexed, 5⟩, none, none, none,
      some ⟨.and, .zeroPageX, 4⟩, some ⟨.rol, .zeroPageX, 6⟩, none, some ⟨.sec, .implied, 2⟩,
      some ⟨.and, .absoluteY, 4⟩, none, none, none, some ⟨.and, .absoluteX, 4⟩,
      some ⟨.rol, .absoluteX, 7⟩, none],
    [some ⟨.rti, .implied, 6⟩, some ⟨.eor, .indexedIndirect, 6⟩, none, none, none,
      some ⟨.eor, .zeroPage, 3⟩, some ⟨.lsr, .zeroPage, 5⟩, none, some ⟨.pha, .implied, 3⟩,
      some ⟨.eor, .immediate, 2⟩, some ⟨.lsr, .accumulator, 2⟩, none, some ⟨.jmp, .absolute, 3⟩,
      some ⟨.eor, .absolute, 4⟩, some ⟨.lsr, .absolute, 6⟩, none],
    [some ⟨.bvc, .relative, 2⟩, some ⟨.eor, .indirectIndexed, 5⟩, none, none, none,
      some ⟨.eor, .zeroPageX, 4⟩, some ⟨.lsr, .zeroPageX, 6⟩, none, some ⟨.cli, .implied, 2⟩,
      some ⟨.eor, .absoluteY, 4⟩, none, none, none, some ⟨.eor, .absoluteX, 4⟩,
      some ⟨.lsr, .absoluteX, 7⟩, none],
    [some ⟨.rts, .implied, 6⟩, some ⟨.adc, .indexedIndirect, 6⟩, none, none, none,
      some ⟨.adc, .zeroPage, 3⟩, some ⟨.ror, .zeroPage, 5⟩, none, some ⟨.pla, .implied, 4⟩,
      some ⟨.adc, .immediate, 2⟩, some ⟨.ror, .accumulator, 2⟩, none, some ⟨.jmp, .indirect, 5⟩,
      some ⟨.adc, .absolute, 4⟩, some ⟨.ror, .absolute, 6⟩, none],
    [some ⟨.bvs, .relative, 2⟩, some ⟨.adc, .indirectIndexed, 5⟩, none, none, none,
      some ⟨.adc, .zeroPageX, 4⟩, some ⟨.ror, .zeroPageX, 6⟩, none, some ⟨.sei, .implied, 2⟩,
      some ⟨.adc, .absoluteY, 4⟩, none, none, none, some ⟨.adc, .absoluteX, 4⟩,
      some ⟨.ror, .absoluteX, 7⟩, none],
    [none, some ⟨.sta, .indexedIndirect, 6⟩, none, none, some ⟨.sty, .zeroPage, 3⟩,
      some ⟨.sta, .zeroPage, 3⟩, some ⟨.stx, .zeroPage, 3⟩, none, some ⟨.dey, .implied, 2⟩, none,
      some ⟨.txa, .implied, 2⟩, none, some ⟨.sty, .absolute, 4⟩, some ⟨.sta, .absolute, 4⟩,
      some ⟨.stx, .absolute, 4⟩, none],
    [some ⟨.bcc, .relative, 2⟩, some ⟨.sta, .indirectIndexed, 6⟩, none, none,
      some ⟨.sty, .zeroPageX, 4⟩, some ⟨.sta, .zeroPageX, 4⟩, some ⟨.stx, .zeroPageY, 4⟩, none,
      some ⟨.tya, .implied, 2⟩, some ⟨.sta, .absoluteY, 5⟩, some ⟨.txs, .implied, 2⟩, none, none,
      some ⟨.sta, .absoluteX, 5⟩, none, none],
    [some ⟨.ldy, .immediate, 2⟩, some ⟨.lda, .indexedIndirect, 6⟩, some ⟨.ldx, .immediate, 2⟩,
      none, some ⟨.ldy, .zeroPage, 3⟩, some ⟨.lda, .zeroPage, 3⟩, some ⟨.ldx, .zeroPage, 3⟩,
      none, some ⟨.tay, .implied, 2⟩, some ⟨.lda, .immediate, 2⟩, some ⟨.tax, .implied, 2⟩, none,
      some ⟨.ldy, .absolute, 4⟩, some ⟨.lda, .absolute, 4⟩, some ⟨.ldx, .absolute, 4⟩, none],
    [some ⟨.bcs, .relative, 2⟩, some ⟨.lda, .indirectIndexed, 5⟩, none, none,
      some ⟨.ldy, .zeroPageX, 4⟩, some ⟨.lda, .zeroPageX, 4⟩, some ⟨.ldx, .zeroPageY, 4⟩, none,
      some ⟨.clv, .implied, 2⟩, some ⟨.lda, .absoluteY, 4⟩, some ⟨.tsx, .implied, 2⟩, none,
      some ⟨.ldy, .absoluteX, 4⟩, some ⟨.lda, .absoluteX, 4⟩, some ⟨.ldx, .absoluteY, 4⟩, none],
    [some ⟨.cpy, .immediate, 2⟩, some ⟨.cmp, .indexedIndirect, 6⟩, none, none,
      some ⟨.cpy, .zeroPage, 3⟩, some ⟨.cmp, .zeroPage, 3⟩, some ⟨.dec, .zeroPage, 5⟩, none,
      some ⟨.iny, .implied, 2⟩, some ⟨.cmp, .immediate, 2⟩, some ⟨.dex, .implied, 2⟩, none,
      some ⟨.cpy, .absolute, 4⟩, some ⟨.cmp, .absolute, 4⟩, some ⟨.dec, .absolute, 6⟩, none],
    [some ⟨.bne, .relative, 2⟩, some ⟨.cmp, .indirectIndexed, 5⟩, none, none, none,
      some ⟨.cmp, .zeroPageX, 4⟩, some ⟨.dec, .zeroPageX, 6⟩, none, some ⟨.cld, .implied, 2⟩,
      some ⟨.cmp, .absoluteY, 4⟩, none, none, none, some ⟨.cmp, .absoluteX, 4⟩,
      some ⟨.dec, .absoluteX, 7⟩, none],
    [some ⟨.cpx, .immediate, 2⟩, some ⟨.sbc, .indexedIndirect, 6⟩, none, none,
      some ⟨.cpx, .zeroPage, 3⟩, some ⟨.sbc, .zeroPage, 3⟩, some ⟨.inc, .zeroPage, 5⟩, none,
      some ⟨.inx, .implied, 2⟩, some ⟨.sbc, .immediate, 2⟩, some ⟨.nop, .implied, 2⟩, none,
      some ⟨.cpx, .absolute, 4⟩, some ⟨.sbc, .absolute, 4⟩, some ⟨.inc, .absolute, 6⟩, none],
    [some ⟨.beq, .relative, 2⟩, some ⟨.sbc, .indirectIndexed, 5⟩, none, none, none,
      some ⟨.sbc, .zeroPageX, 4⟩, some ⟨.inc, .zeroPageX, 6⟩, none, some ⟨.sed, .implied, 2⟩,
      some ⟨.sbc, .absoluteY, 4⟩, none, none, none, some ⟨.sbc, .absoluteX, 4⟩,
      some ⟨.inc, .absoluteX, 7⟩, none]]

/-! ## Undocumented opcodes -/

/-- The modes of the opcodes `aaabbbcc` with odd `cc`, by `bbb`. -/
def oddModes : List Mode :=
  [.indexedIndirect, .zeroPage, .immediate, .absolute, .indirectIndexed, .zeroPageX, .absoluteY,
    .absoluteX]

/-- The modes of the opcodes `aaabbb00`, by `bbb`. -/
def controlModes : List Mode :=
  [.immediate, .zeroPage, .implied, .absolute, .relative, .zeroPageX, .implied, .absoluteX]

/-- The modes of the opcodes `aaabbb10`, by `bbb`. -/
def shiftModes : List Mode :=
  [.immediate, .zeroPage, .implied, .absolute, .implied, .zeroPageX, .implied, .absoluteX]

/-- The mode of an undocumented opcode `aaabbbcc`. It is that of the column `bbb` in the group
`cc`, except that stores and loads of X index by Y, and that the opcodes on which the chip jams have
no operand. -/
def undocumentedMode (opcode : Nat) : Mode :=
  let group := opcode % 4
  let column := opcode / 4 % 8
  if group == 1 || group == 3 then
    if opcode == 0x97 || opcode == 0xB7 then .zeroPageY
    else if opcode == 0x9F || opcode == 0xBF then .absoluteY
    else oddModes.getD column .implied
  else if group == 0 then controlModes.getD column .implied
  else if opcode == 0x9E then .absoluteY
  else if column == 0 && opcode < 0x80 then .implied
  else shiftModes.getD column .implied

/-- The cycles of an undocumented opcode, by its mode. There is no page penalty. -/
def undocumentedCycles : Mode → Nat
  | .zeroPage => 3
  | .zeroPageX | .zeroPageY | .absolute | .absoluteX | .absoluteY => 4
  | .indirectIndexed => 5
  | .indexedIndirect => 6
  | _ => 2

def undocumented (opcode : Nat) : Descriptor :=
  ⟨.skip, undocumentedMode opcode, undocumentedCycles (undocumentedMode opcode)⟩

/-! ## All opcodes -/

def Descriptor.ofOpcode (opcode : Byte) : Descriptor :=
  let n := opcode.toNat
  ((documented.getD (n / 16) []).getD (n % 16) none).getD (undocumented n)

end Micro6502
