import Micro6502.Proofs.Conduct
import Micro6502.Proofs.Sharing

/-!
# One access to a mapped bus

Whatever devices are on a bus, an access that is refused leaves it as it was, and one that is
answered puts exactly one entry in front of its record. A write reaches the device to which the
address leads, and of this device no more than the one cell, which other addresses may share.

## Contents

- `Memory.store_refused`, and `read_store_of_ne`, and the same for devices
- `Bus.withDevice_eq` and `Bus.peek_withDevice`, a bus on which one device is another
- `Bus.Frozen`, addresses at which no write changes anything
- `Bus.Wrote`, a bus after a write
- `Bus.read_spec`, `Bus.write_spec` and `Bus.load_spec`
-/

namespace Micro6502

/-! ## Memories -/

namespace Memory

theorem hasOffset_iff {m : Memory} {offset : Int} :
    m.hasOffset offset = true ↔ 0 ≤ offset ∧ offset < m.size := by
  simp [hasOffset]

/-- A memory that refuses a store is as it was. -/
theorem store_refused {m : Memory} {kind : MemoryKind} {offset data : Int} {fault : Fault}
    (h : (m.store kind offset data).1 = .error fault) : (m.store kind offset data).2 = m := by
  unfold store at h ⊢
  split at h
  · next hoffset => rw [if_pos hoffset]
  · next hoffset =>
    split at h
    · next hdata => rw [if_neg hoffset, if_pos hdata]
    · exact nomatch h

theorem read_set_of_ne (m : Memory) (kind : MemoryKind) {offset other : Int} (value : Byte)
    (hoffset : m.hasOffset offset = true) (hne : other ≠ offset) :
    (m.set offset.toNat value).read kind other = m.read kind other := by
  unfold read
  have hsame : (m.set offset.toNat value).hasOffset other = m.hasOffset other := rfl
  rw [hsame]
  split
  · next hother =>
    -- Offsets are no negative numbers, so different ones stay different.
    rw [hasOffset_iff] at hoffset hother
    rw [get_set value (by omega) (by omega), if_neg (by omega)]
  · rfl

/-- A store changes what is read at its own offset only. -/
theorem read_store_of_ne (m : Memory) (kind : MemoryKind) {offset other : Int} (data : Int)
    (hne : other ≠ offset) : (m.store kind offset data).2.read kind other = m.read kind other := by
  unfold store
  split
  · rfl
  · next hoffset =>
    split
    · rfl
    · exact read_set_of_ne m kind _ (by simpa using hoffset) hne

end Memory

/-! ## Devices -/

namespace Device

/-- A device that refuses a load is as it was. -/
theorem load_refused {device : Device} {offset data : Int} {fault : Fault}
    (h : (device.load offset data).1 = .error fault) : (device.load offset data).2 = device := by
  cases device with
  | memory kind cells => exact congrArg (memory kind) (Memory.store_refused h)
  | echo received => exact nomatch h

/-- A device that refuses a write is as it was. -/
theorem write_refused {device : Device} {offset data : Int} {fault : Fault}
    (h : (device.write offset data).1 = .error fault) : (device.write offset data).2 = device := by
  cases device with
  | memory kind cells =>
    cases kind with
    | rom => rfl
    | ram => exact congrArg (memory .ram) (Memory.store_refused h)
  | echo received => exact nomatch h

/-- A write changes what a device reads at its own offset only. -/
theorem read_write_of_ne (device : Device) {offset other : Int} (data : Int)
    (hne : other ≠ offset) : (device.write offset data).2.read other = device.read other := by
  cases device with
  | memory kind cells =>
    cases kind with
    | rom => rfl
    | ram => exact cells.read_store_of_ne .ram data hne
  | echo received => rfl

/-- A write on record does to the device what a write does, if the read before it is answered. -/
theorem exchange_eq (device : Device) (offset data : Int) :
    device.exchange offset data =
      match device.read offset, (device.write offset data).1 with
      | .error fault, _ => (.error fault, device)
      | .ok previous, .ok () => (.ok previous, (device.write offset data).2)
      | .ok _, .error fault => (.error fault, (device.write offset data).2) := by
  unfold exchange
  cases device.read offset with
  | error fault => rfl
  | ok previous =>
    generalize device.write offset data = o
    obtain ⟨_ | _, after⟩ := o <;> rfl

/-- A device that refuses a write on record is as it was. -/
theorem exchange_refused {device : Device} {offset data : Int} {fault : Fault}
    (h : (device.exchange offset data).1 = .error fault) :
    (device.exchange offset data).2 = device := by
  rw [exchange_eq] at h ⊢
  cases hread : device.read offset with
  | error fault => rfl
  | ok previous =>
    -- The read is answered, so it is the write that is refused.
    cases hwrite : (device.write offset data).1 with
    | ok done => simp [hread, hwrite] at h
    | error fault => exact write_refused hwrite

theorem read_exchange_of_ne (device : Device) {offset other : Int} (data : Int)
    (hne : other ≠ offset) : (device.exchange offset data).2.read other = device.read other := by
  rw [exchange_eq]
  split
  · rfl
  · exact device.read_write_of_ne data hne
  · exact device.read_write_of_ne data hne

/-- A write on record gives what was read before it. -/
theorem read_of_exchange {device : Device} {offset data : Int} {previous : Byte}
    (h : (device.exchange offset data).1 = .ok previous) :
    device.read offset = .ok previous := by
  rw [exchange_eq] at h
  cases hread : device.read offset with
  | error fault => simp [hread] at h
  | ok b => cases hwrite : (device.write offset data).1 <;> simp_all

/-- The device is a ROM. -/
def IsRom (device : Device) : Prop := ∃ cells, device = .memory .rom cells

/-- A write changes nothing in a ROM. -/
theorem IsRom.exchange_eq {device : Device} (h : device.IsRom) (offset data : Int) :
    (device.exchange offset data).2 = device := by
  obtain ⟨cells, rfl⟩ := h
  rw [Device.exchange_eq]
  split <;> rfl

end Device

/-! ## Buses on which one device is another -/

namespace Bus

variable {bus : Bus} {a : Int} {place : Place} {device : Device}

/-- A byte that is seen at an address, from the option of it, which can be computed. -/
theorem peek_eq_ok {b : Byte} (h : (bus.peek a).toOption = some b) : bus.peek a = .ok b := by
  cases hpeek : bus.peek a with
  | error fault => simp [hpeek, Except.toOption] at h
  | ok c =>
    obtain rfl : c = b := by simpa [hpeek, Except.toOption] using h
    rfl

theorem peek_of_place? (h : bus.place? a = some place) :
    bus.peek a = (bus.device place.device).read place.offset := by
  rw [peek, h]

/-- A bus that is given a device of its own back is as it was. -/
theorem withDevice_eq {n : Nat}
    (hsize : ∀ length, device.misfit? length = (bus.device n).misfit? length)
    (h : device = bus.device n) : bus.withDevice n device hsize = bus := by
  have hdevices : bus.devices.set n device = bus.devices := by
    refine List.ext_getElem? fun m => ?_
    rw [List.getElem?_set, h]
    split
    · next hn =>
      subst hn
      split
      · next hlt => simp [Bus.device, hlt]
      · next hlt => rw [List.getElem?_eq_none (by omega)]
    · rfl
  -- Apart from the devices nothing was replaced.
  obtain ⟨openBus, devices, regions, recent, fitted⟩ := bus
  simp only [withDevice] at hdevices ⊢
  simp only [hdevices]

theorem device_withDevice (h : bus.place? a = some place)
    (hsize : ∀ length, device.misfit? length = (bus.device place.device).misfit? length) :
    (bus.withDevice place.device device hsize).device place.device = device := by
  show (bus.devices.set place.device device)[place.device]?.getD _ = device
  rw [List.getElem?_set_self (device_lt h)]
  rfl

theorem device_withDevice_of_ne {n m : Nat}
    (hsize : ∀ length, device.misfit? length = (bus.device n).misfit? length) (hne : m ≠ n) :
    (bus.withDevice n device hsize).device m = bus.device m := by
  show (bus.devices.set n device)[m]?.getD _ = bus.devices[m]?.getD _
  rw [List.getElem?_set_ne hne.symm]

/-- A device that reads as before but at one offset changes what is seen at the addresses of this
cell only. -/
theorem peek_withDevice (h : bus.place? a = some place)
    (hsize : ∀ length, device.misfit? length = (bus.device place.device).misfit? length)
    (hread : ∀ other, other ≠ place.offset →
      device.read other = (bus.device place.device).read other)
    {b : Int} (hb : bus.same a b = false) :
    (bus.withDevice place.device device hsize).peek b = bus.peek b := by
  cases hplace : bus.place? b with
  | none =>
    have hplace' : (bus.withDevice place.device device hsize).place? b = none := hplace
    rw [peek, peek, hplace, hplace']
    rfl
  | some place' =>
    have hplace' : (bus.withDevice place.device device hsize).place? b = some place' := hplace
    rw [peek_of_place? hplace, peek_of_place? hplace']
    -- At another place of the same device the offset is another one.
    by_cases hdevice : place'.device = place.device
    · rw [hdevice, device_withDevice h hsize]
      exact hread _ (offset_ne hb h hplace hdevice)
    · rw [device_withDevice_of_ne hsize hdevice]

/-! ## Accesses -/

/-- At the address nothing can be written: no region holds it, or its device is a ROM. -/
def Frozen (bus : Bus) (a : Int) : Prop :=
  ∀ place, bus.place? a = some place → (bus.device place.device).IsRom

/-- The byte that is held at an address. -/
def held? (bus : Bus) (a : Int) : Option Byte :=
  (bus.place? a).bind fun place => ((bus.device place.device).read place.offset).toOption

/-- A bus after a write. The access is on record with the byte that was there before, and nothing
has changed but what is read at the addresses that share the cell; nor has that in a ROM. -/
structure Wrote (a data : Int) (bus after : Bus) : Prop where
  openBus : after.openBus = bus.openBus
  regions : after.regions = bus.regions
  recent : after.recent = .write a data (bus.held? a) :: bus.recent
  peek : ∀ b, bus.same a b = false → after.peek b = bus.peek b
  rom : ∀ n, (bus.device n).IsRom → after.device n = bus.device n

theorem read_spec (a : Int) (bus : Bus) :
    (read a bus).Satisfies (fun b after => bus.peek a = .ok b ∧ after = bus.record (.read a b))
      (fun _ after => after = bus) := by
  unfold read
  cases bus.peek a with
  | ok b => exact ⟨rfl, rfl⟩
  | error fault => rfl

theorem write_spec (a data : Int) (bus : Bus) :
    (write a data bus).Satisfies (fun _ after => bus.Wrote a data after)
      (fun _ after => after = bus) := by
  unfold write
  cases hplace : bus.place? a with
  | some place =>
    have hsize := (bus.device place.device).misfit?_exchange place.offset data
    cases hresult : ((bus.device place.device).exchange place.offset data).1 with
    | error fault =>
      -- What is refused has not changed the device either.
      have hsame := withDevice_eq hsize (Device.exchange_refused hresult)
      simp only [exchange, hresult]
      exact hsame
    | ok previous =>
      simp only [exchange, hresult]
      -- What is seen elsewhere is as before, and a ROM has been given its own contents back.
      refine ⟨rfl, rfl, ?_, fun b hb => ?_, fun n hn => ?_⟩
      · rw [held?, hplace]
        simp [record, withDevice, Device.read_of_exchange hresult, Except.toOption]
      · exact peek_withDevice hplace hsize (fun _ => Device.read_exchange_of_ne _ data) hb
      · show (bus.withDevice _ _ hsize).device n = bus.device n
        by_cases hdevice : n = place.device
        · subst hdevice
          rw [device_withDevice hplace, hn.exchange_eq]
        · exact device_withDevice_of_ne hsize hdevice
  | none =>
    -- Nothing is there to be changed, so only the record differs.
    cases hopen : bus.openBus with
    | none => rfl
    | some value =>
      refine ⟨rfl, rfl, ?_, fun _ _ => rfl, fun _ _ => rfl⟩
      rw [held?, hplace]
      rfl

theorem load_spec (a data : Int) (bus : Bus) :
    (load a data bus).Satisfies (fun _ after => after.recent = bus.recent)
      (fun _ after => after = bus) := by
  unfold load
  cases hplace : bus.place? a with
  | some place =>
    cases hresult : ((bus.device place.device).load place.offset data).1 with
    | error fault =>
      have hsame := withDevice_eq (Device.misfit?_load _ _ _) (Device.load_refused hresult)
      simp only [store, hresult]
      exact hsame
    | ok _ =>
      simp only [store, hresult]
      exact rfl
  | none => exact rfl

end Bus

end Micro6502
