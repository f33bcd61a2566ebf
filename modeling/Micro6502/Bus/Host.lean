import Micro6502.Call
import Micro6502.Word

/-!
# Hosts

What the processor needs of the machine around it: a host answers reads and writes of single
bytes, one at a time. It may also keep a record of the accesses.

## Contents

- `Activity`, an access on record
- `HostBus`, the class of hosts
- `HostBus.readWord`, two reads as one word
-/

namespace Micro6502

/-! ## Accesses on record -/

/-- One access to a bus. A write keeps what the cell held before, if there was a cell. -/
inductive Activity where
  | read (address : Int) (data : Byte)
  | write (address : Int) (data : Int) (previous : Option Byte)
  deriving DecidableEq, Repr

/-! ## Hosts -/

/-- A host that answers the accesses of a processor. Any access may be refused. -/
class HostBus (β : Type) where
  read : (address : Int) → Call β Byte
  write : (address data : Int) → Call β Unit
  /-- The accesses on record, oldest first; the record is empty afterwards. A host without a
  record gives none. -/
  takeActivity : β → List Activity × β := fun bus => ([], bus)

namespace HostBus

/-- The word at an address, low byte first. Addresses wrap at sixteen bits. -/
def readWord [HostBus β] (a : Int) : Call β Address := do
  let low ← read (a % 0x10000)
  let high ← read ((a + 1) % 0x10000)
  return wordOf low high

end HostBus

end Micro6502
