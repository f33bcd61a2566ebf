import Micro6502.Memory

/-!
# Devices

What can answer on a bus. A device sees offsets, not addresses.

## Contents

- `Device`: memory of either kind, and an echo, which is no memory
- `Device.misfit?`, why a device does not fill a number of addresses
- `Device.read`, `Device.write` and `Device.load`, the way in for the host
- `Device.exchange`, a write that gives the byte that was there before
-/

namespace Micro6502

/-- A device. -/
inductive Device where
  /-- Memory. The processor cannot write memory of the kind ROM. -/
  | memory (kind : MemoryKind) (cells : Memory)
  /-- A device that reads as the low byte of the offset and keeps all that is written to it. -/
  | echo (received : Array (Int × Int))

namespace Device

/-- A fresh memory as a device. -/
def makeMemory? (kind : MemoryKind) (size fill : Int) : Except Fault Device :=
  (Memory.make? size fill).map (memory kind)

def freshEcho : Device := echo #[]

/-- The number of cells, if the device is a memory. -/
def size? : Device → Option Nat
  | memory _ cells => some cells.size
  | echo _ => none

/-- Why a device does not fill a number of addresses, if it does not. A memory has to have one cell
for each of them. -/
def misfit? : Device → (length : Int) → Option Fault
  | memory kind cells, length =>
    if (cells.size : Int) = length then none else some (.sizeMismatch kind cells.size length)
  | echo _, _ => none

def read : Device → Int → Except Fault Byte
  | memory kind cells, offset => cells.read kind offset
  | echo _, offset => .ok (byte offset)

/-- Stores an integer at an offset, whatever the kind of memory. -/
def load : Device → Int → Int → Except Fault Unit × Device
  | memory kind cells, offset, data =>
    let (result, cells) := cells.store kind offset data
    (result, memory kind cells)
  | echo received, offset, data => (.ok (), echo (received.push (offset, data)))

/-- Writes an integer at an offset. A memory of the kind ROM looks at the offset only and keeps
what it holds. -/
def write : Device → Int → Int → Except Fault Unit × Device
  | memory .rom cells, offset, _ => ((cells.read .rom offset).map fun _ => (), memory .rom cells)
  | device, offset, data => device.load offset data

/-- Writes an integer at an offset, and gives the byte that was there before. -/
def exchange (device : Device) (offset data : Int) : Except Fault Byte × Device :=
  match device.read offset with
  | .error fault => (.error fault, device)
  | .ok previous =>
    -- The read comes first, and a device that answers reads may still refuse the write.
    match device.write offset data with
    | (.ok (), device) => (.ok previous, device)
    | (.error fault, device) => (.error fault, device)

/-! ### The size is kept -/

theorem misfit?_load (device : Device) (offset data length : Int) :
    (device.load offset data).2.misfit? length = device.misfit? length := by
  cases device with
  | memory kind cells =>
    simp only [load, misfit?, Memory.store]
    split
    · rfl
    · split <;> rfl
  | echo received => rfl

theorem misfit?_write (device : Device) (offset data length : Int) :
    (device.write offset data).2.misfit? length = device.misfit? length := by
  cases device with
  | memory kind cells =>
    cases kind with
    | rom => rfl
    | ram => exact misfit?_load _ _ _ _
  | echo received => rfl

theorem misfit?_exchange (device : Device) (offset data length : Int) :
    (device.exchange offset data).2.misfit? length = device.misfit? length := by
  have hwrite := device.misfit?_write offset data length
  unfold exchange
  cases device.read offset with
  | error fault => rfl
  | ok previous =>
    generalize device.write offset data = o at hwrite
    obtain ⟨_ | _, after⟩ := o <;> exact hwrite

end Device

end Micro6502
