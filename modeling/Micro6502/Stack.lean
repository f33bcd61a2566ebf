import Micro6502.Dialogue
import Micro6502.Registers

/-!
# The stack

The stack lives in page one and grows downwards. A push writes at the stack pointer and then lowers
it; a pull raises it and then reads. The pointer wraps within the page, and nothing is checked.

## Contents

- `Stack.slot`, the address behind a stack pointer
- `push` and `pull` for bytes, `pushWord` and `pullWord` for words, high byte pushed first
-/

namespace Micro6502.Stack

/-- The address of a stack cell. -/
def slot (sp : Byte) : Int := 0x100 + sp.toNat

/-- Pushes the low eight bits of an integer. -/
def push (value : Int) : Action Registers Unit := do
  let r ← Action.get
  Action.write (slot r.sp) (value % 0x100)
  Action.modify fun r => { r with sp := r.sp - 1 }

def pull : Action Registers Byte := do
  Action.modify fun r => { r with sp := r.sp + 1 }
  let r ← Action.get
  Action.read (slot r.sp)

/-- Pushes the low sixteen bits of an integer. -/
def pushWord (value : Int) : Action Registers Unit := do
  push (value / 256)
  push value

def pullWord : Action Registers Address := do
  let low ← pull
  let high ← pull
  return wordOf low high

end Micro6502.Stack
