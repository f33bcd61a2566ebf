import Micro6502.Bus.Host
import Micro6502.Bus.Region

/-!
# Mapped buses

A bus that hands each access to the first region that holds the address, and so to a device. A
device may be registered more than once, and then it is the same device at all of these addresses:
what is written at one of them is found at the others. Where no region holds an address, an open bus
answers with a fixed byte and swallows writes; without one the access is refused. Reads and writes
are on record, `peek` and `load` are the unrecorded ways in for the host.

## Contents

- `Bus`, with `make?`
- `Source`, what is registered, and `Bus.register`
- `Bus.place?`, where an address leads
- `Bus.peek` and `Bus.read`, `Bus.write`
- `Bus.load` and `Bus.loadBytes`
-/

namespace Micro6502

/-! ## The bus -/

/-- A bus of regions. -/
structure Bus where
  /-- What a read finds where no region answers. -/
  openBus : Option Byte
  /-- The devices, which the regions name by their numbers. -/
  devices : List Device
  /-- The regions, the one that was registered first in front. -/
  regions : List Region
  /-- The accesses on record, the latest in front. -/
  recent : List Activity
  /-- Each region has a device, which fills it if it is a memory. -/
  fitted : ∀ region ∈ regions, region.misfit? devices = none

namespace Bus

/-- A bus without regions. -/
def empty (openBus : Option Byte) : Bus := ⟨openBus, [], [], [], nofun⟩

def make? : (openBus : Option Int) → Except Fault Bus
  | none => .ok (empty none)
  | some value =>
    if isByte value then .ok (empty (some (byte value))) else .error (.openBusTooWide value)

/-- The accesses on record, oldest first. -/
def activity (bus : Bus) : List Activity := bus.recent.reverse

/-- The bus with one more access on record. -/
def record (bus : Bus) (access : Activity) : Bus :=
  { bus with recent := access :: bus.recent }

end Bus

/-! ## Registering -/

/-- What is registered. -/
inductive Source where
  /-- A device that is not on the bus yet. -/
  | fresh (device : Device)
  /-- The device of the region of this number once more. -/
  | again (region : Nat)
  /-- No device at all. -/
  | nothing

namespace Source

/-- The devices that join those of the bus. -/
def devices : Source → List Device
  | fresh device => [device]
  | _ => []

/-- The number of the device once it is on the bus. -/
def number? (bus : Bus) : Source → Option Nat
  | fresh _ => some bus.devices.length
  | again region => bus.regions[region]?.map (·.device)
  | nothing => none

end Source

namespace Bus

/-- The bus with more devices, and with a region behind those that are there. -/
def attach (bus : Bus) (more : List Device)
    (region : { region : Region // region.misfit? (bus.devices ++ more) = none }) : Bus where
  openBus := bus.openBus
  devices := bus.devices ++ more
  regions := bus.regions ++ [region.val]
  recent := bus.recent
  fitted := List.forall_mem_append.mpr
    ⟨fun other h => Region.misfit?_append (bus.fitted other h) more,
      List.forall_mem_singleton.mpr region.property⟩

/-- Puts a device at the addresses from `first` to `last`, behind the regions that are there. -/
def register (first last : Int) (source : Source) : Call Bus Unit :=
  Call.ofExcept fun bus =>
    match Region.make? (bus.devices ++ source.devices) first last (source.number? bus) with
    | .ok region => (.ok (), bus.attach source.devices region)
    | .error fault => (.error fault, bus)

/-! ## Looking -/

def regionAt? (bus : Bus) (a : Int) : Option Region := bus.regions.find? (·.holds a)

/-- Where an address leads, if anywhere. -/
def place? (bus : Bus) (a : Int) : Option Place := (bus.regionAt? a).map (·.place a)

/-- The device of a number. For those of the regions there is one. -/
def device (bus : Bus) (n : Nat) : Device := bus.devices[n]?.getD Device.freshEcho

def peek (bus : Bus) (a : Int) : Except Fault Byte :=
  match bus.place? a with
  | some place => (bus.device place.device).read place.offset
  | none =>
    match bus.openBus with
    | some value => .ok value
    | none => .error (.unmapped a)

/-- The notice of a read that only the open bus answers. -/
def readNotices (bus : Bus) (a : Int) : List Notice :=
  match bus.place? a, bus.openBus with
  | none, some value => [.openBusRead a value]
  | _, _ => []

/-- Looks at the byte at an address, off the record. -/
def look (a : Int) : Call Bus Byte := fun bus => ⟨bus.peek a, bus, bus.readNotices a⟩

/-! ## Changing -/

/-- A device that takes the place of another of the same size fits all of its regions. -/
theorem fitted_set (bus : Bus) (n : Nat) {device : Device}
    (h : ∀ length, device.misfit? length = (bus.device n).misfit? length) :
    ∀ region ∈ bus.regions, region.misfit? (bus.devices.set n device) = none := by
  intro region hregion
  have hfits := bus.fitted region hregion
  unfold Region.misfit? at hfits ⊢
  rw [List.getElem?_set]
  by_cases hn : n = region.device
  · subst hn
    cases hdevice : bus.devices[region.device]? with
    | none => simp [hdevice] at hfits
    | some other =>
      have hlt : region.device < bus.devices.length := (List.getElem?_eq_some_iff.mp hdevice).1
      have hsame : bus.device region.device = other := by simp [Bus.device, hdevice]
      rw [hdevice] at hfits
      rw [if_pos rfl, if_pos hlt]
      exact (h _).trans (hsame ▸ hfits)
  · rw [if_neg hn]
    exact hfits

/-- The bus with another device in the place of one of the same size. -/
def withDevice (bus : Bus) (n : Nat) (device : Device)
    (h : ∀ length, device.misfit? length = (bus.device n).misfit? length) : Bus :=
  { bus with devices := bus.devices.set n device, fitted := bus.fitted_set n h }

/-- Reads the byte at an address, on the record. -/
def read (a : Int) : Call Bus Byte := fun bus =>
  match bus.peek a with
  | .ok value => ⟨.ok value, bus.record (.read a value), bus.readNotices a⟩
  | .error fault => ⟨.error fault, bus, bus.readNotices a⟩

/-- Writes an integer to a place, and gives the byte that was there before. -/
def exchange (bus : Bus) (place : Place) (data : Int) : Except Fault Byte × Bus :=
  (((bus.device place.device).exchange place.offset data).1,
    bus.withDevice place.device ((bus.device place.device).exchange place.offset data).2
      (Device.misfit?_exchange _ _ _))

/-- Stores an integer in a place, whatever the kind of memory. -/
def store (bus : Bus) (place : Place) (data : Int) : Except Fault Unit × Bus :=
  (((bus.device place.device).load place.offset data).1,
    bus.withDevice place.device ((bus.device place.device).load place.offset data).2
      (Device.misfit?_load _ _ _))

/-- Writes an integer at an address, on the record. -/
def write (a data : Int) : Call Bus Unit := fun bus =>
  match bus.place? a with
  | some place =>
    match bus.exchange place data with
    | (.ok previous, bus) => ⟨.ok (), bus.record (.write a data (some previous)), []⟩
    -- What is refused is not on the record.
    | (.error fault, bus) => ⟨.error fault, bus, []⟩
  | none =>
    match bus.openBus with
    | some _ => ⟨.ok (), bus.record (.write a data none), [.openBusWrite a data]⟩
    | none => ⟨.error (.unmapped a), bus, []⟩

/-- Stores an integer at an address for the host: off the record, into memory of either kind, and
never into an open bus. -/
def load (a data : Int) : Call Bus Unit := fun bus =>
  match bus.place? a with
  | some place =>
    let (result, bus) := bus.store place data
    ⟨result, bus, []⟩
  | none => ⟨.error (.unmapped a), bus, []⟩

/-- Stores bytes from an address on. Addresses wrap at sixteen bits. -/
def loadBytes (a : Int) : List Byte → Call Bus Unit
  | [] => pure ()
  | b :: rest => do
    load (a % 0x10000) b.toNat
    loadBytes (a + 1) rest

instance : HostBus Bus where
  read := read
  write := write
  takeActivity bus := (bus.activity, { bus with recent := [] })

end Bus

end Micro6502
