import Micro6502.Bus.Mapped
import Mathlib.Data.List.Nodup

/-!
# Addresses that share a cell

A device that is registered more than once answers at all of these addresses, and an address of one
region may lead to the same offset of it as an address of another. Such addresses share a cell:
whatever is written at one of them is found at the other. Which addresses do depends on the regions
only, so no access changes it, nor does the registration of a device that is new to the bus.

## Contents

- `Bus.exists_region`, the region through which an address leads to a place, and
  `Bus.device_of_mem`, its device
- `Bus.same`, whether two addresses share a cell, an equivalence
- `Bus.Apart`, buses without such addresses, and `Bus.apart_of_nodup`
- `Bus.Elsewhere`, an address that shares no cell with some others
- `Bus.place?_attach` and `Bus.same_attach`, what a registration changes
-/

namespace Micro6502.Bus

variable {bus other : Bus} {a b c : Int}

/-! ## Places -/

/-- An address leads somewhere through the first region that holds it. -/
theorem exists_region {place : Place} (h : bus.place? a = some place) :
    ∃ region ∈ bus.regions, bus.regionAt? a = some region ∧ region.holds a = true ∧
      region.place a = place := by
  obtain ⟨region, hregion, hplace⟩ := Option.map_eq_some_iff.mp h
  have hfind : bus.regions.find? (·.holds a) = some region := hregion
  have hholds := List.find?_some hfind
  exact ⟨region, List.mem_of_find?_eq_some hfind, hregion, hholds, hplace⟩

/-- The device of a region is on the bus, and the region fits it. -/
theorem device_of_mem {region : Region} (h : region ∈ bus.regions) :
    bus.devices[region.device]? = some (bus.device region.device) ∧
      (bus.device region.device).misfit? (region.last - region.first + 1) = none := by
  have hfits := bus.fitted region h
  unfold Region.misfit? at hfits
  -- A region without a device would not fit.
  cases hdevice : bus.devices[region.device]? with
  | none => simp [hdevice] at hfits
  | some device =>
    have hsame : bus.device region.device = device := by simp [Bus.device, hdevice]
    rw [hdevice] at hfits
    exact ⟨hsame ▸ rfl, hsame ▸ hfits⟩

theorem device_lt_of_mem {region : Region} (h : region ∈ bus.regions) :
    region.device < bus.devices.length :=
  (List.getElem?_eq_some_iff.mp (device_of_mem h).1).1

theorem device_lt {place : Place} (h : bus.place? a = some place) :
    place.device < bus.devices.length := by
  obtain ⟨region, hregion, -, -, rfl⟩ := exists_region h
  exact device_lt_of_mem hregion

theorem isSome_place? (bus : Bus) (a : Int) :
    (bus.place? a).isSome = (bus.regionAt? a).isSome := by
  rw [place?, Option.isSome_map]

theorem place?_congr (h : other.regions = bus.regions) : other.place? = bus.place? := by
  funext a
  rw [place?, place?, regionAt?, regionAt?, h]

/-! ## Sharing -/

/-- Whether two addresses share a cell, as they do if they are one address or lead to one place. -/
def same (bus : Bus) (a b : Int) : Bool :=
  a == b || ((bus.place? a).isSome && bus.place? a == bus.place? b)

theorem same_iff :
    bus.same a b = true ↔
      a = b ∨ ∃ place, bus.place? a = some place ∧ bus.place? b = some place := by
  simp only [same, Bool.or_eq_true, beq_iff_eq, Bool.and_eq_true, Option.isSome_iff_exists]
  refine or_congr_right ⟨?_, ?_⟩
  · rintro ⟨⟨place, hplace⟩, hsame⟩
    exact ⟨place, hplace, hsame ▸ hplace⟩
  · rintro ⟨place, ha, hb⟩
    exact ⟨⟨place, ha⟩, ha.trans hb.symm⟩

@[simp] theorem same_self (bus : Bus) (a : Int) : bus.same a a = true := same_iff.mpr (.inl rfl)

theorem place?_eq_of_same (h : bus.same a b = true) : bus.place? a = bus.place? b := by
  rcases same_iff.mp h with rfl | ⟨place, ha, hb⟩
  · rfl
  · exact ha.trans hb.symm

/-- Addresses that lead to one place share a cell. -/
theorem same_of_place? {place : Place} (ha : bus.place? a = some place)
    (hb : bus.place? b = some place) : bus.same a b = true := same_iff.mpr (.inr ⟨place, ha, hb⟩)

/-- Addresses that share no cell lead to different offsets, if to one device at all. -/
theorem offset_ne {place place' : Place} (h : bus.same a b = false)
    (ha : bus.place? a = some place) (hb : bus.place? b = some place')
    (hdevice : place'.device = place.device) : place'.offset ≠ place.offset := by
  intro hoffset
  obtain rfl : place' = place := by
    cases place
    cases place'
    exact congr (congrArg Place.mk hdevice) hoffset
  rw [same_of_place? ha hb] at h
  exact nomatch h

theorem same_comm (bus : Bus) (a b : Int) : bus.same a b = bus.same b a := by
  rw [Bool.eq_iff_iff, same_iff, same_iff, eq_comm]
  exact or_congr_right ⟨fun ⟨place, h⟩ => ⟨place, h.symm⟩, fun ⟨place, h⟩ => ⟨place, h.symm⟩⟩

theorem same_trans (h : bus.same a b = true) (h' : bus.same b c = true) :
    bus.same a c = true := by
  -- One address is passed on as it is; else all three lead to one place.
  rcases same_iff.mp h with rfl | ⟨place, ha, -⟩
  · exact h'
  · rcases same_iff.mp h' with rfl | _
    · exact h
    · exact same_of_place? ha (((place?_eq_of_same h).trans (place?_eq_of_same h')).symm.trans ha)

theorem same_congr (h : other.regions = bus.regions) : other.same = bus.same := by
  funext a b
  rw [same, same, place?_congr h]

/-! ## Addresses apart -/

/-- No two addresses share a cell. -/
def Apart (bus : Bus) : Prop := ∀ a b, bus.same a b = true → a = b

theorem Apart.same_eq_false (h : bus.Apart) (hne : a ≠ b) : bus.same a b = false :=
  Bool.eq_false_iff.mpr fun hsame => hne (h a b hsame)

theorem Apart.same_eq (h : bus.Apart) (a b : Int) : bus.same a b = decide (a = b) := by
  by_cases hab : a = b
  · rw [hab, same_self, decide_eq_true rfl]
  · rw [h.same_eq_false hab, decide_eq_false hab]

/-- So it is if each region has a device of its own. -/
theorem apart_of_nodup (h : (bus.regions.map Region.device).Nodup) : bus.Apart := by
  intro a b hsame
  rcases same_iff.mp hsame with rfl | ⟨place, ha, hb⟩
  · rfl
  obtain ⟨region, hregion, -, -, rfl⟩ := exists_region ha
  obtain ⟨region', hregion', -, -, hplace⟩ := exists_region hb
  obtain ⟨hdevice, hoffset⟩ := Place.mk.inj hplace
  -- One device has one region, and in it the offsets of different addresses differ.
  obtain rfl := List.inj_on_of_nodup_map h hregion' hregion hdevice
  omega

/-- A bus with one RAM at all addresses, which holds the given bytes. -/
def ramOf (bytes : Bytes) : Bus where
  openBus := none
  devices := [.memory .ram ⟨0x10000, bytes⟩]
  regions := [⟨0, 0xFFFF, 0, by decide⟩]
  recent := []
  fitted := List.forall_mem_singleton.mpr rfl

/-- A bus with one RAM at all addresses. -/
def ram : Bus := ramOf (.uniform 0)

theorem apart_ramOf (bytes : Bytes) : (ramOf bytes).Apart :=
  apart_of_nodup (List.nodup_singleton _)

/-! ## Elsewhere -/

/-- The address shares no cell with any of some others. -/
def Elsewhere (bus : Bus) (addresses : List Int) (a : Int) : Prop :=
  ∀ b ∈ addresses, bus.same b a = false

theorem elsewhere_nil (bus : Bus) (a : Int) : bus.Elsewhere [] a := nofun

theorem elsewhere_cons {addresses : List Int} :
    bus.Elsewhere (b :: addresses) a ↔ bus.same b a = false ∧ bus.Elsewhere addresses a :=
  List.forall_mem_cons

section Attach

variable {more : List Device}
  {region : { region : Region // region.misfit? (bus.devices ++ more) = none }}

/-- A region behind the others holds what they do not. -/
theorem place?_attach :
    (bus.attach more region).place? a =
      (bus.place? a).or (if region.val.holds a then some (region.val.place a) else none) := by
  show Option.map _ ((bus.regions ++ [region.val]).find? _) = _
  rw [List.find?_append, place?, regionAt?]
  -- If a region holds the address already, the new one is not asked.
  cases bus.regions.find? (·.holds a) with
  | some first => rfl
  | none => cases hholds : region.val.holds a <;> simp [hholds]

/-- The devices of the bus stay what they are. -/
theorem device_attach {n : Nat} (h : n < bus.devices.length) :
    (bus.attach more region).device n = bus.device n := by
  show (bus.devices ++ more)[n]?.getD _ = bus.devices[n]?.getD _
  rw [List.getElem?_append_left h]

/-- A region for a device that is new to the bus shares no cells with the others. -/
theorem same_attach (hnew : region.val.device = bus.devices.length) :
    (bus.attach more region).same = bus.same := by
  funext a b
  rw [Bool.eq_iff_iff, same_iff, same_iff, place?_attach, place?_attach]
  -- Two addresses lead to one place through the old regions, through the new one, or through both.
  refine or_congr_right' fun hne => ⟨?_, ?_⟩
  · rintro ⟨place, ha, hb⟩
    cases ha' : bus.place? a <;> cases hb' : bus.place? b <;>
      simp only [ha', hb', Option.some_or, Option.none_or, Option.ite_none_right_eq_some,
        Option.some.injEq] at ha hb
    case some.some => exact ⟨place, congrArg some ha, congrArg some hb⟩
    -- In the new region no two addresses have the same offset.
    case none.none =>
      have hoffset := congrArg Place.offset (ha.2.trans hb.2.symm)
      simp only [Region.place] at hoffset
      omega
    -- A place on the bus so far is none in the new device.
    case none.some =>
      have hlt := device_lt hb'
      rw [hb, ← ha.2, Region.place, hnew] at hlt
      exact absurd hlt (Nat.lt_irrefl _)
    case some.none =>
      have hlt := device_lt ha'
      rw [ha, ← hb.2, Region.place, hnew] at hlt
      exact absurd hlt (Nat.lt_irrefl _)
  · rintro ⟨place, ha, hb⟩
    exact ⟨place, by rw [ha]; rfl, by rw [hb]; rfl⟩

end Attach

end Micro6502.Bus
