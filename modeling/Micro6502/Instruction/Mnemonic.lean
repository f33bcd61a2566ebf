/-!
# Mnemonics

The 56 documented instructions by name, and `skip`, which stands for every opcode without a
documented meaning: it passes over its operand bytes and does nothing else.
-/

namespace Micro6502

/-- The instructions. -/
inductive Mnemonic where
  | lda | ldx | ldy | sta | stx | sty | tax | tay | txa | tya | tsx | txs
  | and | ora | eor | bit | adc | sbc | cmp | cpx | cpy
  | asl | lsr | rol | ror | inc | dec | inx | dex | iny | dey
  | bcc | bcs | beq | bne | bmi | bpl | bvc | bvs | jmp | jsr | rts
  | pha | php | pla | plp
  | clc | sec | cli | sei | clv | cld | sed
  | nop | brk | rti
  /-- No documented meaning. -/
  | skip
  deriving DecidableEq, Repr

namespace Mnemonic

def text : Mnemonic → String
  | lda => "LDA"
  | ldx => "LDX"
  | ldy => "LDY"
  | sta => "STA"
  | stx => "STX"
  | sty => "STY"
  | tax => "TAX"
  | tay => "TAY"
  | txa => "TXA"
  | tya => "TYA"
  | tsx => "TSX"
  | txs => "TXS"
  | and => "AND"
  | ora => "ORA"
  | eor => "EOR"
  | bit => "BIT"
  | adc => "ADC"
  | sbc => "SBC"
  | cmp => "CMP"
  | cpx => "CPX"
  | cpy => "CPY"
  | asl => "ASL"
  | lsr => "LSR"
  | rol => "ROL"
  | ror => "ROR"
  | inc => "INC"
  | dec => "DEC"
  | inx => "INX"
  | dex => "DEX"
  | iny => "INY"
  | dey => "DEY"
  | bcc => "BCC"
  | bcs => "BCS"
  | beq => "BEQ"
  | bne => "BNE"
  | bmi => "BMI"
  | bpl => "BPL"
  | bvc => "BVC"
  | bvs => "BVS"
  | jmp => "JMP"
  | jsr => "JSR"
  | rts => "RTS"
  | pha => "PHA"
  | php => "PHP"
  | pla => "PLA"
  | plp => "PLP"
  | clc => "CLC"
  | sec => "SEC"
  | cli => "CLI"
  | sei => "SEI"
  | clv => "CLV"
  | cld => "CLD"
  | sed => "SED"
  | nop => "NOP"
  | brk => "BRK"
  | rti => "RTI"
  | skip => "NOP*"

end Mnemonic

end Micro6502
