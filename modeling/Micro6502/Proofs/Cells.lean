import Micro6502.Proofs.Record
import Micro6502.Proofs.Simulation

/-!
# A bus of memories as a map of cells

Regions may overlap, and the first that holds an address answers; and a memory may be registered
more than once. Seen from outside, a bus of memories is simpler: each address has a cell of one kind
of memory, or it has none, and some addresses may share a cell. `CellBus` is that view, with the
same accesses, and `Bus.cells` takes a bus to its view. Each access of the bus commutes with it.

## Contents

- `CellBus`, with `read`, `write` and `load`
- `Device.load_memory` and `Device.exchange_memory`, what a memory does at an offset, and
  `Bus.cells_withDevice`, what that does to the cells
- `Bus.cells_read`, `Bus.cells_write` and `Bus.cells_load`
- `Bus.LooksLike`, buses with the same view, which a processor cannot tell apart
-/

namespace Micro6502

/-! ## Cells -/

/-- A cell of memory. -/
structure Cell where
  kind : MemoryKind
  value : Byte
  deriving DecidableEq, Repr

/-- A bus on which each address has a cell or has none. -/
@[ext] structure CellBus where
  /-- What a read finds where there is no cell. -/
  openBus : Option Byte
  cell? : Int → Option Cell
  /-- Whether two addresses share a cell. -/
  same : Int → Int → Bool
  /-- The accesses on record, the latest in front. -/
  recent : List Activity

namespace CellBus

/-- The bus with one more access on record. -/
def record (bus : CellBus) (access : Activity) : CellBus :=
  { bus with recent := access :: bus.recent }

/-- The bus with the cell at an address replaced, and so at all addresses that share it. -/
def put (bus : CellBus) (a : Int) (cell : Cell) : CellBus :=
  { bus with cell? := fun b => if bus.same a b then some cell else bus.cell? b }

/-- To share a cell is an equivalence of addresses, and those that share one have the same. -/
structure Coherent (bus : CellBus) : Prop where
  same_self : ∀ a, bus.same a a = true
  same_comm : ∀ a b, bus.same a b = bus.same b a
  same_trans : ∀ a b c, bus.same a b = true → bus.same b c = true → bus.same a c = true
  cell? : ∀ a b, bus.same a b = true → bus.cell? b = bus.cell? a

namespace Coherent

variable {bus : CellBus}

theorem cell?_put (h : bus.Coherent) (a : Int) (cell : Cell) :
    (bus.put a cell).cell? a = some cell := by
  simp [CellBus.put, h.same_self a]

/-- What shares a cell with one of two addresses that share one shares it with the other. -/
theorem same_congr (h : bus.Coherent) {b c : Int} (hbc : bus.same b c = true) (a : Int) :
    bus.same a c = bus.same a b := by
  rw [Bool.eq_iff_iff]
  exact ⟨fun hac => h.same_trans a c b hac (h.same_comm b c ▸ hbc),
    fun hab => h.same_trans a b c hab hbc⟩

protected theorem put (h : bus.Coherent) (a : Int) (cell : Cell) : (bus.put a cell).Coherent where
  same_self := h.same_self
  same_comm := h.same_comm
  same_trans := h.same_trans
  cell? b c hbc := by
    show (if bus.same a c then _ else bus.cell? c) = if bus.same a b then _ else bus.cell? b
    -- Both addresses share the cell that was put, or neither does.
    rw [h.same_congr hbc, h.cell? b c hbc]

end Coherent

/-- If no two addresses share a cell, then one address gets another cell. -/
theorem put_of_apart {bus : CellBus} (h : ∀ a b, bus.same a b = decide (a = b)) (a : Int)
    (cell : Cell) : bus.put a cell =
      { bus with cell? := fun b => if b = a then some cell else bus.cell? b } := by
  refine CellBus.ext rfl (funext fun b => ?_) rfl rfl
  simp only [put, h, decide_eq_true_eq, @eq_comm _ b a]

theorem put_self {bus : CellBus} (h : bus.Coherent) {a : Int} {cell : Cell}
    (hcell : bus.cell? a = some cell) : bus.put a cell = bus := by
  refine CellBus.ext rfl (funext fun b => ?_) rfl rfl
  simp only [put]
  split
  · next hsame => rw [h.cell? a b hsame, hcell]
  · rfl

/-- The byte at an address. -/
def peek (bus : CellBus) (a : Int) : Except Fault Byte :=
  match bus.cell? a, bus.openBus with
  | some cell, _ => .ok cell.value
  | none, some value => .ok value
  | none, none => .error (.unmapped a)

/-- Reads the byte at an address, on the record. -/
def read (a : Int) : Call CellBus Byte := fun bus =>
  match bus.cell? a, bus.openBus with
  | some cell, _ => ⟨.ok cell.value, bus.record (.read a cell.value), []⟩
  | none, some value => ⟨.ok value, bus.record (.read a value), [.openBusRead a value]⟩
  | none, none => ⟨.error (.unmapped a), bus, []⟩

/-- Writes an integer at an address, on the record. Only a cell of RAM keeps it. -/
def write (a data : Int) : Call CellBus Unit := fun bus =>
  match bus.cell? a, bus.openBus with
  | some ⟨.ram, previous⟩, _ =>
    if isByte data then
      ⟨.ok (), (bus.put a ⟨.ram, byte data⟩).record (.write a data (some previous)), []⟩
    else ⟨.error (.dataTooWide data), bus, []⟩
  | some ⟨.rom, previous⟩, _ => ⟨.ok (), bus.record (.write a data (some previous)), []⟩
  | none, some _ => ⟨.ok (), bus.record (.write a data none), [.openBusWrite a data]⟩
  | none, none => ⟨.error (.unmapped a), bus, []⟩

/-- A byte that is written to a cell stays there unless it is ROM. -/
theorem write_byte {bus : CellBus} (h : bus.Coherent) {a data : Int} {cell : Cell}
    (hcell : bus.cell? a = some cell) (hdata : isByte data = true) :
    ∃ after, write a data bus = ⟨.ok (), after, []⟩ ∧
      after.peek a = .ok (if cell.kind = .rom then cell.value else byte data) ∧
      ∀ b, bus.same a b = false → after.peek b = bus.peek b := by
  obtain ⟨kind, value⟩ := cell
  unfold write
  rw [hcell]
  cases kind with
  | rom => exact ⟨_, rfl, by simp [peek, record, hcell], fun b _ => rfl⟩
  | ram =>
    simp only [hdata, if_true]
    refine ⟨_, rfl, by simp [peek, record, h.cell?_put], fun b hb => ?_⟩
    simp [peek, record, put, hb]

/-- Stores an integer in the cell at an address for the host. -/
def load (a data : Int) : Call CellBus Unit := fun bus =>
  match bus.cell? a with
  | some cell =>
    if isByte data then ⟨.ok (), bus.put a { cell with value := byte data }, []⟩
    else ⟨.error (.dataTooWide data), bus, []⟩
  | none => ⟨.error (.unmapped a), bus, []⟩

/-- A byte is stored in a cell of either kind. -/
theorem load_byte {bus : CellBus} {a : Int} {cell : Cell} (hcell : bus.cell? a = some cell)
    (x : Byte) : load a x.toNat bus = ⟨.ok (), bus.put a { cell with value := x }, []⟩ := by
  have hbyte : isByte x.toNat = true := by
    have := x.isLt
    exact isByte_iff.mpr ⟨by omega, by omega⟩
  simp [load, hcell, hbyte]

end CellBus

/-! ## Devices -/

namespace Device

/-- The device is a memory. -/
def IsMemory (device : Device) : Prop := ∃ kind cells, device = .memory kind cells

/-- The cell at an offset. -/
def cell? : Device → Int → Option Cell
  | memory kind cells, offset => some ⟨kind, cells.get offset.toNat⟩
  | echo _, _ => none

/-- Loading a byte into a memory stores it; anything else is refused. -/
theorem load_memory (kind : MemoryKind) {cells : Memory} {offset : Int}
    (hoffset : cells.hasOffset offset = true) (data : Int) :
    (memory kind cells).load offset data =
      if isByte data then (.ok (), memory kind (cells.set offset.toNat (byte data)))
      else (.error (.dataTooWide data), memory kind cells) := by
  cases hdata : isByte data <;> simp [load, Memory.store, hoffset, hdata]

/-- Writing a RAM is loading it, and writing a ROM changes nothing. -/
theorem exchange_memory (kind : MemoryKind) {cells : Memory} {offset : Int}
    (hoffset : cells.hasOffset offset = true) (data : Int) :
    (memory kind cells).exchange offset data =
      match kind with
      | .ram =>
        if isByte data then
          (.ok (cells.get offset.toNat), memory .ram (cells.set offset.toNat (byte data)))
        else (.error (.dataTooWide data), memory .ram cells)
      | .rom => (.ok (cells.get offset.toNat), memory .rom cells) := by
  cases kind with
  | rom => simp [exchange, read, write, Memory.read, hoffset, Except.map]
  | ram =>
    cases hdata : isByte data <;>
      simp [exchange, read, write, load, Memory.read, Memory.store, hoffset, hdata]

end Device

/-! ## Buses of memories -/

namespace Bus

/-- Every region of the bus is one of a memory. -/
def AllMemory (bus : Bus) : Prop := ∀ region ∈ bus.regions, (bus.device region.device).IsMemory

theorem allMemory_ramOf (bytes : Bytes) : (ramOf bytes).AllMemory :=
  List.forall_mem_singleton.mpr ⟨_, _, rfl⟩

theorem allMemory_ram : ram.AllMemory := allMemory_ramOf _

/-- The bus as a map of cells. -/
def cells (bus : Bus) : CellBus where
  openBus := bus.openBus
  cell? a := (bus.place? a).bind fun place => (bus.device place.device).cell? place.offset
  same := bus.same
  recent := bus.recent

theorem cells_record (bus : Bus) (access : Activity) :
    (bus.record access).cells = bus.cells.record access := rfl

/-- Addresses that lead to one place find one cell there. -/
theorem coherent_cells (bus : Bus) : bus.cells.Coherent where
  same_self := bus.same_self
  same_comm := bus.same_comm
  same_trans _ _ _ h h' := same_trans h h'
  cell? a b h := by
    show (bus.place? b).bind _ = (bus.place? a).bind _
    rw [place?_eq_of_same h]

section Memory

variable {bus : Bus} {a : Int} {place : Place}

/-- Where an address leads to a memory, the memory has the offset. -/
theorem hasOffset_of_place? {kind : MemoryKind} {memory : Memory} (h : bus.place? a = some place)
    (hdevice : bus.device place.device = .memory kind memory) :
    memory.hasOffset place.offset = true := by
  obtain ⟨region, hregion, -, hholds, rfl⟩ := exists_region h
  -- The memory has a cell for each address of the region.
  have hfits := (device_of_mem hregion).2
  rw [show bus.device region.device = _ from hdevice] at hfits
  simp only [Device.misfit?, ite_eq_left_iff, reduceCtorEq, imp_false, not_not] at hfits
  simp only [Region.holds, Bool.and_eq_true, decide_eq_true_eq] at hholds
  rw [Memory.hasOffset_iff]
  simp only [Region.place]
  omega

theorem cell?_of_place? {kind : MemoryKind} {memory : Memory} (h : bus.place? a = some place)
    (hdevice : bus.device place.device = .memory kind memory) :
    bus.cells.cell? a = some ⟨kind, memory.get place.offset.toNat⟩ := by
  show (bus.place? a).bind _ = _
  rw [h, Option.bind_some, hdevice]
  rfl

/-- A bus of memories has a cell exactly where the address leads somewhere, and it reads as what the
cell holds. -/
theorem place?_cases (hmemory : bus.AllMemory) (a : Int) :
    (bus.place? a = none ∧ bus.cells.cell? a = none) ∨
      ∃ place kind memory, bus.place? a = some place ∧
        bus.device place.device = .memory kind memory ∧
        memory.hasOffset place.offset = true ∧
        bus.cells.cell? a = some ⟨kind, memory.get place.offset.toNat⟩ := by
  cases hplace : bus.place? a with
  | none =>
    refine .inl ⟨rfl, ?_⟩
    show (bus.place? a).bind _ = none
    rw [hplace]
    rfl
  | some place =>
    obtain ⟨region, hregion, -, -, rfl⟩ := exists_region hplace
    obtain ⟨kind, memory, hdevice⟩ := hmemory region hregion
    exact .inr ⟨_, kind, memory, rfl, hdevice, hasOffset_of_place? hplace hdevice,
      cell?_of_place? hplace hdevice⟩

/-- A cell is one of a memory. -/
theorem exists_place_of_cell? {cell : Cell} (h : bus.cells.cell? a = some cell) :
    ∃ place memory, bus.place? a = some place ∧
      bus.device place.device = .memory cell.kind memory ∧
      memory.hasOffset place.offset = true ∧ memory.get place.offset.toNat = cell.value := by
  obtain ⟨place, hplace, hcell⟩ := Option.bind_eq_some_iff.mp h
  cases hdevice : bus.device place.device with
  -- What a device of another kind holds is no cell.
  | echo received => simp [Device.cell?, hdevice] at hcell
  | memory kind memory =>
    simp only [Device.cell?, hdevice, Option.some.injEq] at hcell
    subst hcell
    exact ⟨place, memory, hplace, hdevice, hasOffset_of_place? hplace hdevice, rfl⟩

/-- A cell is seen at its addresses. -/
theorem peek_of_cell? {cell : Cell} (h : bus.cells.cell? a = some cell) :
    bus.peek a = .ok cell.value := by
  obtain ⟨place, memory, hplace, hdevice, hoffset, hvalue⟩ := exists_place_of_cell? h
  simp [peek_of_place? hplace, hdevice, Device.read, Memory.read, hoffset, hvalue]

/-- There is a cell exactly where some region answers. -/
theorem isSome_cell? (hmemory : bus.AllMemory) (a : Int) :
    (bus.cells.cell? a).isSome = (bus.regionAt? a).isSome := by
  rw [← isSome_place?]
  rcases place?_cases hmemory a with ⟨hplace, hcell⟩ | ⟨_, _, _, hplace, -, -, hcell⟩
  · rw [hplace, hcell]
    rfl
  · rw [hplace, hcell]
    rfl

/-- A memory in which one byte is another has another cell at all addresses that share it. -/
theorem cells_withDevice {kind : MemoryKind} {memory : Memory} {value : Byte}
    (h : bus.place? a = some place) (hdevice : bus.device place.device = .memory kind memory)
    (hsize : ∀ length, (Device.memory kind (memory.set place.offset.toNat value)).misfit? length =
      (bus.device place.device).misfit? length) :
    (bus.withDevice place.device (.memory kind (memory.set place.offset.toNat value)) hsize).cells =
      bus.cells.put a ⟨kind, value⟩ := by
  -- The addresses that share the place see the new byte; all others lead to another offset of the
  -- memory, or to another device.
  have hself := device_withDevice h hsize
  have hoffset := hasOffset_of_place? h hdevice
  have hlt {offset : Int} (h : memory.hasOffset offset = true) : offset.toNat < memory.size := by
    rw [Memory.hasOffset_iff] at h
    omega
  refine CellBus.ext rfl (funext fun b => ?_) rfl rfl
  show (bus.place? b).bind _ = if bus.same a b then _ else (bus.place? b).bind _
  by_cases hsame : bus.same a b = true
  · rw [if_pos hsame, ← place?_eq_of_same hsame, h, Option.bind_some, hself]
    rw [Device.cell?, Memory.get_set value (hlt hoffset) (hlt hoffset), if_pos rfl]
  · rw [if_neg hsame]
    refine Option.bind_congr fun place' hplace => ?_
    by_cases hdevice' : place'.device = place.device
    · -- In the same memory it is another offset.
      have hoffset' := hasOffset_of_place? hplace (hdevice' ▸ hdevice)
      have hne : place'.offset.toNat ≠ place.offset.toNat := by
        have hdiffer := offset_ne (Bool.eq_false_iff.mpr hsame) h hplace hdevice'
        rw [Memory.hasOffset_iff] at hoffset hoffset'
        omega
      rw [hdevice', hself, hdevice, Device.cell?, Device.cell?,
        Memory.get_set value (hlt hoffset) (hlt hoffset'), if_neg hne]
    · rw [device_withDevice_of_ne hsize hdevice']

/-- A memory in the place of another leaves a bus of memories one. -/
theorem allMemory_withDevice {device : Device} (hmemory : bus.AllMemory)
    (h : bus.place? a = some place) (hdevice : device.IsMemory)
    (hsize : ∀ length, device.misfit? length = (bus.device place.device).misfit? length) :
    (bus.withDevice place.device device hsize).AllMemory := by
  intro region hregion
  -- A region may name the same device, and then it has the new memory.
  by_cases hn : region.device = place.device
  · rw [hn, device_withDevice h hsize]
    exact hdevice
  · rw [device_withDevice_of_ne hsize hn]
    exact hmemory region hregion

/-- What a store leaves on the bus, from what it leaves of the device. -/
theorem store_eq {data : Int} {result : Except Fault Unit} {device : Device}
    (h : (bus.device place.device).load place.offset data = (result, device)) :
    ∃ hsize, bus.store place data = (result, bus.withDevice place.device device hsize) := by
  have hsize := (bus.device place.device).misfit?_load place.offset data
  rw [h] at hsize
  exact ⟨hsize, by simp only [store, h]⟩

/-- What a write on record leaves on the bus, from what it leaves of the device. -/
theorem exchange_eq {data : Int} {result : Except Fault Byte} {device : Device}
    (h : (bus.device place.device).exchange place.offset data = (result, device)) :
    ∃ hsize, bus.exchange place data = (result, bus.withDevice place.device device hsize) := by
  have hsize := (bus.device place.device).misfit?_exchange place.offset data
  rw [h] at hsize
  exact ⟨hsize, by simp only [exchange, h]⟩

/-! ## Accesses as accesses to cells -/

theorem cells_peek (hmemory : bus.AllMemory) (a : Int) : bus.peek a = bus.cells.peek a := by
  unfold peek CellBus.peek
  rcases place?_cases hmemory a with
    ⟨hplace, hcell⟩ | ⟨place, kind, memory, hplace, hdevice, hoffset, hcell⟩
  · rw [hplace, hcell]
    cases hopen : bus.openBus <;> simp [cells, hopen]
  · rw [hplace, hcell]
    simp only [hdevice, Device.read, Memory.read, hoffset, if_true]

theorem cells_read (hmemory : bus.AllMemory) (a : Int) :
    (read a bus).mapMachine cells = CellBus.read a bus.cells := by
  unfold read CellBus.read readNotices
  rw [cells_peek hmemory, CellBus.peek]
  rcases place?_cases hmemory a with ⟨hplace, hcell⟩ | ⟨place, _, _, hplace, -, -, hcell⟩
  · have hopen : bus.cells.openBus = bus.openBus := rfl
    rw [hplace, hcell, hopen]
    cases bus.openBus <;> rfl
  · simp only [hplace, hcell]
    rfl

theorem allMemory_read (hmemory : bus.AllMemory) (a : Int) : (read a bus).machine.AllMemory := by
  unfold read
  split <;> exact hmemory

theorem cells_load (hmemory : bus.AllMemory) (a data : Int) :
    (load a data bus).mapMachine cells = CellBus.load a data bus.cells ∧
      (load a data bus).machine.AllMemory := by
  unfold load CellBus.load
  rcases place?_cases hmemory a with
    ⟨hplace, hcell⟩ | ⟨place, kind, memory, hplace, hdevice, hoffset, hcell⟩
  · rw [hplace, hcell]
    exact ⟨rfl, hmemory⟩
  · -- What the memory does decides for the bus, which keeps what it leaves.
    have hload := Device.load_memory kind hoffset data
    rw [← hdevice] at hload
    rw [hplace, hcell]
    cases hdata : isByte data with
    | true =>
      rw [hdata, if_pos rfl] at hload
      obtain ⟨hsize, hstore⟩ := store_eq hload
      simp only [hstore, Outcome.mapMachine, cells_withDevice hplace hdevice hsize, if_true]
      exact ⟨trivial, allMemory_withDevice hmemory hplace ⟨_, _, rfl⟩ hsize⟩
    | false =>
      rw [hdata, if_neg Bool.false_ne_true] at hload
      obtain ⟨hsize, hstore⟩ := store_eq hload
      simp only [hstore, withDevice_eq hsize rfl, Outcome.mapMachine, Bool.false_eq_true, if_false]
      exact ⟨trivial, hmemory⟩

theorem cells_write (hmemory : bus.AllMemory) (a data : Int) :
    (write a data bus).mapMachine cells = CellBus.write a data bus.cells ∧
      (write a data bus).machine.AllMemory := by
  unfold write CellBus.write
  rcases place?_cases hmemory a with
    ⟨hplace, hcell⟩ | ⟨place, kind, memory, hplace, hdevice, hoffset, hcell⟩
  · have hopen : bus.cells.openBus = bus.openBus := rfl
    rw [hplace, hcell, hopen]
    cases bus.openBus <;> exact ⟨rfl, hmemory⟩
  · -- Whether the write is kept depends on the kind of the memory and on the data.
    have hexchange := Device.exchange_memory kind hoffset data
    rw [← hdevice] at hexchange
    rw [hplace, hcell]
    cases kind with
    | ram =>
      cases hdata : isByte data with
      | true =>
        rw [hdata, if_pos rfl] at hexchange
        obtain ⟨hsize, hstore⟩ := exchange_eq hexchange
        simp only [hstore, Outcome.mapMachine, cells_record, cells_withDevice hplace hdevice hsize,
          if_true]
        exact ⟨trivial, allMemory_withDevice hmemory hplace ⟨_, _, rfl⟩ hsize⟩
      | false =>
        -- A refused write is not on the record.
        rw [hdata, if_neg Bool.false_ne_true] at hexchange
        obtain ⟨hsize, hstore⟩ := exchange_eq hexchange
        simp only [hstore, withDevice_eq hsize hdevice.symm, Outcome.mapMachine,
          Bool.false_eq_true, if_false]
        exact ⟨trivial, hmemory⟩
    | rom =>
      -- A ROM is given its own contents back.
      obtain ⟨hsize, hstore⟩ := exchange_eq hexchange
      simp only [hstore, withDevice_eq hsize hdevice.symm]
      exact ⟨rfl, hmemory⟩

/-- A byte that is written to a cell of RAM is kept there, and no other cell changes, whatever other
devices are on the bus. -/
theorem write_ram {data : Int} {value : Byte} (h : bus.cells.cell? a = some ⟨.ram, value⟩)
    (hdata : isByte data = true) :
    ∃ after, Bus.write a data bus = ⟨.ok (), after, []⟩ ∧
      after.cells = (bus.cells.put a ⟨.ram, byte data⟩).record (.write a data (some value)) := by
  obtain ⟨place, memory, hplace, hdevice, hoffset, hvalue⟩ := exists_place_of_cell? h
  have hexchange := Device.exchange_memory .ram hoffset data
  rw [← hdevice, hdata, if_pos rfl] at hexchange
  obtain ⟨hsize, hstore⟩ := exchange_eq hexchange
  refine ⟨_, by simp only [write, hplace, hstore]; rfl, ?_⟩
  rw [cells_record, cells_withDevice hplace hdevice hsize, hvalue]

end Memory

/-! ## Buses with the same view -/

/-- Two buses of memories with the same view. -/
structure LooksLike (bus other : Bus) : Prop where
  left : bus.AllMemory
  right : other.AllMemory
  cells : bus.cells = other.cells

theorem pairs_of_sameCells {x y : Outcome Bus α} (h : x.mapMachine cells = y.mapMachine cells)
    (hx : x.machine.AllMemory) (hy : y.machine.AllMemory) :
    x.Pairs (fun a m b n => a = b ∧ LooksLike m n) LooksLike y := by
  -- The outcomes have the same results and notices, so only two of the four cases are left.
  obtain ⟨_ | a, bus, told⟩ := x <;> obtain ⟨_ | b, other, told'⟩ := y <;>
    simp only [Outcome.mapMachine, Outcome.mk.injEq, reduceCtorEq, false_and,
      Except.ok.injEq, Except.error.injEq] at h
  · obtain ⟨rfl, hcells, rfl⟩ := h
    exact .error _ told ⟨hx, hy, hcells⟩
  · obtain ⟨rfl, hcells, rfl⟩ := h
    exact .ok told ⟨rfl, hx, hy, hcells⟩

/-- A processor cannot tell two buses of memories with the same view from each other. -/
theorem indistinguishable_looksLike : Indistinguishable LooksLike where
  read a _ bus other h := by
    have hread : (Bus.read a bus).mapMachine cells = (Bus.read a other).mapMachine cells := by
      rw [cells_read h.left, cells_read h.right, h.cells]
    exact pairs_of_sameCells hread (allMemory_read h.left a) (allMemory_read h.right a)
  write a data _ bus other h := by
    obtain ⟨hx, hallx⟩ := cells_write h.left a data
    obtain ⟨hy, hally⟩ := cells_write h.right a data
    rw [← h.cells, ← hx] at hy
    exact (pairs_of_sameCells hy.symm hallx hally).mono (fun _ _ _ _ h => h.2) fun _ _ h => h
  takeActivity bus other h :=
    ⟨h.left, h.right, congrArg (fun c : CellBus => { c with recent := [] }) h.cells⟩

end Bus

end Micro6502
