import Micro6502.Bus.Host
import Micro6502.Memory

/-!
# Flat buses

The plainest host: 64 KiB of memory that answer everywhere, and no record of the accesses.
Addresses wrap at sixteen bits and data at eight.
-/

namespace Micro6502

/-- A bus that is all memory. -/
structure FlatBus where
  bytes : Bytes

namespace FlatBus

def zeroed : FlatBus := ⟨.uniform 0⟩

def peek (bus : FlatBus) (a : Int) : Byte := bus.bytes.get (address a).toNat

def store (bus : FlatBus) (a data : Int) : FlatBus :=
  ⟨bus.bytes.set 16 (address a).toNat (byte data)⟩

theorem peek_store (bus : FlatBus) (a b data : Int) :
    (bus.store a data).peek b = if address b = address a then byte data else bus.peek b := by
  rw [peek, store, Bytes.get_set _ _ (address a).isLt (address b).isLt]
  simp only [BitVec.toNat_inj, peek]

def storeBytes (bus : FlatBus) (a : Int) : List Byte → FlatBus
  | [] => bus
  | b :: rest => (bus.store a b.toNat).storeBytes (a + 1) rest

instance : HostBus FlatBus where
  read a := fun bus => ⟨.ok (bus.peek a), bus, []⟩
  write a data := fun bus => ⟨.ok (), bus.store a data, []⟩

end FlatBus

end Micro6502
