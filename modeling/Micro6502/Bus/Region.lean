import Micro6502.Bus.Device

/-!
# Regions

A region is a row of addresses at which a device of a store answers. It names the device by its
number, so one device may answer in several regions. The first address of a region is offset zero of
the device.

## Contents

- `Place`, an offset in a device of a store
- `Region`, whose ends are in order and on the bus
- `Region.misfit?`, why a region does not fit its device
- `Region.make?`, which refuses regions that do not
-/

namespace Micro6502

/-- An offset in a device, which is named by its number in a store. -/
structure Place where
  device : Nat
  offset : Int
  deriving DecidableEq, Repr

/-- The addresses from `first` to `last`, and the number of the device that answers there. -/
structure Region where
  first : Int
  last : Int
  device : Nat
  /-- The ends are in order and on the bus. -/
  onBus : 0 ≤ first ∧ first ≤ last ∧ last ≤ 0xFFFF

namespace Region

def holds (region : Region) (a : Int) : Bool := region.first ≤ a && a ≤ region.last

/-- Where an address of the region leads. -/
def place (region : Region) (a : Int) : Place := ⟨region.device, a - region.first⟩

/-- Why the region does not fit its device, if it does not. -/
def misfit? (devices : List Device) (region : Region) : Option Fault :=
  match devices[region.device]? with
  | some device => device.misfit? (region.last - region.first + 1)
  | none => some .notADevice

/-- A region that fits its device does so when others join the store. -/
theorem misfit?_append {devices : List Device} {region : Region}
    (h : region.misfit? devices = none) (more : List Device) :
    region.misfit? (devices ++ more) = none := by
  unfold misfit? at h ⊢
  cases hdevice : devices[region.device]? with
  | none => simp [hdevice] at h
  | some device =>
    have hlt : region.device < devices.length := (List.getElem?_eq_some_iff.mp hdevice).1
    rw [List.getElem?_append_left hlt, hdevice]
    rwa [hdevice] at h

/-- The region with the given ends at which a device of the store answers. The ends are checked
first, and then whether there is a device at all, and whether it has the right size. -/
def make? (devices : List Device) (first last : Int) :
    (device : Option Nat) → Except Fault { region : Region // region.misfit? devices = none }
  | none =>
    if 0 ≤ first ∧ first ≤ last ∧ last ≤ 0xFFFF then .error .notADevice else .error .invalidRange
  | some device =>
    if ends : 0 ≤ first ∧ first ≤ last ∧ last ≤ 0xFFFF then
      match fits : misfit? devices ⟨first, last, device, ends⟩ with
      | none => .ok ⟨_, fits⟩
      | some fault => .error fault
    else .error .invalidRange

section Make

variable {devices : List Device} {first last : Int} {device : Nat}

theorem make?_eq_ok (ends : 0 ≤ first ∧ first ≤ last ∧ last ≤ 0xFFFF)
    (fits : misfit? devices ⟨first, last, device, ends⟩ = none) :
    make? devices first last (some device) = .ok ⟨⟨first, last, device, ends⟩, fits⟩ := by
  rw [make?, dif_pos ends]
  split
  · rfl
  · next fault hfault => rw [fits] at hfault; exact nomatch hfault

theorem make?_eq_error (ends : 0 ≤ first ∧ first ≤ last ∧ last ≤ 0xFFFF) {fault : Fault}
    (misfit : misfit? devices ⟨first, last, device, ends⟩ = some fault) :
    make? devices first last (some device) = .error fault := by
  rw [make?, dif_pos ends]
  split
  · next fits => rw [fits] at misfit; exact nomatch misfit
  · next other hother => rw [hother] at misfit; exact congrArg _ (Option.some.inj misfit)

end Make

end Region

end Micro6502
