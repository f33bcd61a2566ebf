import Micro6502.Notice
import Micro6502.Registers

/-!
# Edits of the registers

Everything that can be done to the registers from outside: words are assigned, latches are set, and
flags are changed one by one, by name, together, or as a byte. Only a name that no flag has is
refused.

## Contents

- `Registers.getFlag` and `Registers.setNamed`, one flag by its name
- `Registers.latch`, the latch of an interrupt input
- `Changes` and `Registers.replace`, a copy with other contents for some of the registers
- `Edit`, with `Registers.edit` and `Registers.editAll`
-/

namespace Micro6502

namespace Registers

/-! ## Flags by name -/

def getFlag (r : Registers) (name : String) : Except Flag.UnknownName Bool :=
  (Flag.ofName? name).map r.status.get

def setNamed (r : Registers) (name : String) (value : Bool) :
    Except Flag.UnknownName Unit × Registers :=
  match Flag.ofName? name with
  | .ok flag => (.ok (), r.setFlag flag value)
  | .error unknown => (.error unknown, r)

/-! ## Latches -/

/-- Sets the latch of an interrupt input. -/
def latch (r : Registers) (input : Interrupt) (requested : Bool) : Registers :=
  match input with
  | .nmi => { r with nmi := requested }
  | .irq => { r with irq := requested }

/-- Whether a request waits in the latch of an interrupt input. -/
def pending (r : Registers) : Interrupt → Bool
  | .nmi => r.nmi
  | .irq => r.irq

end Registers

/-! ## Copies -/

/-- Other contents for some of the registers and latches. -/
structure Changes where
  word : Register → Option Int := fun _ => none
  pending : Interrupt → Option Bool := fun _ => none

namespace Registers

/-- A copy of the registers with some changes. All registers of the copy are assigned: what is
given for them, or else what they hold. -/
def replace (r : Registers) (changes : Changes) : Registers :=
  let assigned := [Register.pc, .sp, .a, .x, .y, .p].foldl (fun copy register =>
    copy.assign register ((changes.word register).getD (r.read register))) initial
  { assigned with
    irq := (changes.pending .irq).getD r.irq
    nmi := (changes.pending .nmi).getD r.nmi }

end Registers

/-! ## Edits -/

/-- Something that is done to the registers. -/
inductive Edit where
  | assign (register : Register) (value : Int)
  | latch (input : Interrupt) (requested : Bool)
  /-- All flags together, as the bits of an integer. -/
  | unpack (value : Int)
  | setFlag (flag : Flag) (value : Bool)
  | setNamed (name : String) (value : Bool)
  | updateFlags (flags : List (String × Bool))
  /-- The flags that describe an integer as a result. -/
  | setNZ (result : Int)
  /-- Goes on with a copy. -/
  | replace (changes : Changes)

namespace Registers

/-- Makes an edit. What is refused may have been made in part. -/
def edit (r : Registers) : Edit → Except Flag.UnknownName Unit × Registers
  | .assign register value => (.ok (), r.assign register value)
  | .latch input requested => (.ok (), r.latch input requested)
  | .unpack value => (.ok (), r.assign .p value)
  | .setFlag flag value => (.ok (), r.setFlag flag value)
  | .setNamed name value => r.setNamed name value
  | .updateFlags flags => r.updateFlags flags
  | .setNZ result => (.ok (), r.setNZ (byte result))
  | .replace changes => (.ok (), r.replace changes)

/-- Makes edits one after the other. After one that is refused the next goes on with what it has
left. -/
def editAll (r : Registers) (edits : List Edit) : Registers :=
  edits.foldl (fun r edit => (r.edit edit).2) r

end Registers

end Micro6502
