import Micro6502.Text.Hex
import Micro6502.Text.Blank
import Micro6502.Text.Digit
import Micro6502.Text.Case
import Micro6502.Text.Printable
import Micro6502.Text.Quoted
import Micro6502.Registers
import Micro6502.Registers.Edit
import Micro6502.Memory
import Micro6502.Bus.Mapped
import Micro6502.Bus.Flat
import Micro6502.Dialogue
import Micro6502.Instruction.Table
import Micro6502.Clock
import Micro6502.Instruction.Operand
import Micro6502.Instruction.Arithmetic
import Micro6502.Instruction.Execute
import Micro6502.Processor.Mos
import Micro6502.Processor.Adder
import Micro6502.Decimal.Shortest
import Micro6502.Config.Source
import Micro6502.Config.Build
import Micro6502.Yaml.Scalar
import Micro6502.Yaml.Lexer
import Micro6502.Yaml.Document
import Micro6502.Proofs.Traffic
import Micro6502.Proofs.Rewind
import Micro6502.Proofs.History
import Micro6502.Proofs.Variants
import Micro6502.Proofs.Sharing
import Micro6502.Proofs.Record
import Micro6502.Proofs.Dependence
import Micro6502.Proofs.Logging
import Micro6502.Proofs.Refinement
import Micro6502.Proofs.Target
import Micro6502.Proofs.Writes
import Micro6502.Proofs.Effects
import Micro6502.Proofs.Masking
import Micro6502.Proofs.Accounts
import Micro6502.Proofs.StackPage
import Micro6502.Proofs.Returns
import Micro6502.Proofs.BreakFlag
import Micro6502.Proofs.Tracing
import Micro6502.Proofs.Reading
import Micro6502.Proofs.Building
import Micro6502.Proofs.Radix
import Micro6502.Proofs.Chains
import Micro6502.Proofs.BinaryChains
import Micro6502.Proofs.DecimalChains
import Micro6502.Proofs.Timing
import Micro6502.Proofs.Running
import Micro6502.Proofs.Shifts
import Micro6502.Proofs.LastInFirstOut
import Micro6502.Proofs.Effective
import Micro6502.Proofs.Refusals
import Micro6502.Proofs.Loading
import Micro6502.Proofs.Disassembly
import Micro6502.Proofs.Validity
import Micro6502.Proofs.Spelling
import Micro6502.Proofs.Respelling
import Micro6502.Proofs.FlagNames
import Micro6502.Proofs.Masks
import Micro6502.Proofs.Edits
