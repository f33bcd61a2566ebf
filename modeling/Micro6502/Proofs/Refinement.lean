import Micro6502.Proofs.Cells
import Micro6502.Proofs.Record
import Micro6502.Proofs.Session

/-!
# A bus of memories refines a map of cells

A map of cells knows no regions, no devices and no offsets: each address has a cell of one kind of
memory, or none. Whatever a host asks of a bus of memories, in any order and with any integers, the
answers, the refusals and the record are those of the map. Regions may overlap; in the map a fresh
memory gets the addresses that are still free.

## Contents

- `CellBus.register`, and `CellBus.answer`, all requests of the host on a map of cells
- `Bus.Refines`, and `Bus.refines_request`
- `Call.each`, many requests one after the other
- `Bus.Orderly`, what becomes of a bus and of its record in one call
- `Bus.each_refines`
-/

namespace Micro6502

/-! ## Requests on a map of cells -/

namespace CellBus

/-- Gives those addresses from `first` to `last` that have no cell the cells of a fresh memory. The
memory is checked first, then the ends, and then whether the memory fits. -/
def register (first last : Int) (kind : MemoryKind) (size fill : Int) : Call CellBus Unit :=
  fun bus =>
    if size ≤ 0 then ⟨.error .sizeNotPositive, bus, []⟩
    else if !isByte fill then ⟨.error (.fillTooWide fill), bus, []⟩
    else if ¬(0 ≤ first ∧ first ≤ last ∧ last ≤ 0xFFFF) then ⟨.error .invalidRange, bus, []⟩
    else if size ≠ last - first + 1 then
      ⟨.error (.sizeMismatch kind size.toNat (last - first + 1)), bus, []⟩
    else
      let fresh (a : Int) : Option Cell :=
        if first ≤ a ∧ a ≤ last then some ⟨kind, byte fill⟩ else none
      ⟨.ok (), { bus with cell? := fun a => (bus.cell? a).or (fresh a) }, []⟩

/-- Looks at the byte at an address, off the record. -/
def look (a : Int) : Call CellBus Byte := fun bus => { read a bus with machine := bus }

/-- Loads bytes from an address on. Addresses wrap at sixteen bits. -/
def loadBytes (a : Int) : List Byte → Call CellBus Unit
  | [] => pure ()
  | b :: rest => do
    load (a % 0x10000) b.toNat
    loadBytes (a + 1) rest

instance : HostBus CellBus where
  read := read
  write := write
  takeActivity bus := (bus.recent.reverse, { bus with recent := [] })

/-- What a map of cells answers to a request. -/
def answer : Bus.Request → Call CellBus Bus.Answer
  | .read a => do return .byte (← read a)
  | .look a => do return .byte (← look a)
  | .readWord a => do return .word (← HostBus.readWord a)
  | .write a data => do
    write a data
    return .done
  | .load a data => do
    load a data
    return .done
  | .loadBytes a bytes => do
    loadBytes a bytes
    return .done
  | .register first last kind size fill => do
    register first last kind size fill
    return .done
  | .takeActivity => fun bus =>
    let (accesses, bus) := HostBus.takeActivity bus
    ⟨.ok (.activity accesses), bus, []⟩

/-- After the call the same addresses share cells as before. -/
def KeepsSame (call : Call CellBus α) : Prop := ∀ bus, (call bus).machine.same = bus.same

theorem KeepsSame.bind {call : Call CellBus α} {next : α → Call CellBus β} (h : KeepsSame call)
    (hnext : ∀ a, KeepsSame (next a)) : KeepsSame (call >>= next) := by
  intro bus
  have hcall := h bus
  rw [Call.bind_apply]
  generalize call bus = o at hcall
  obtain ⟨_ | a, after, told⟩ := o
  · exact hcall
  · exact (hnext a after).trans hcall

theorem keepsSame_read (a : Int) : KeepsSame (read a) := by
  intro bus
  unfold read
  split <;> rfl

theorem keepsSame_load (a data : Int) : KeepsSame (load a data) := by
  intro bus
  unfold load
  split
  · split <;> rfl
  · rfl

theorem keepsSame_loadBytes (a : Int) (bytes : List Byte) : KeepsSame (loadBytes a bytes) := by
  induction bytes generalizing a with
  | nil => exact fun _ => rfl
  | cons b rest ih => exact (keepsSame_load _ _).bind fun _ => ih (a + 1)

theorem keepsSame_answer (x : Bus.Request) : KeepsSame (answer x) := by
  have hanswer (a : Bus.Answer) : KeepsSame (Pure.pure a) := fun _ => rfl
  cases x with
  | read a => exact (keepsSame_read a).bind fun _ => hanswer _
  | look a =>
    have hlook : KeepsSame (look a) := fun _ => rfl
    exact hlook.bind fun _ => hanswer _
  | readWord a =>
    have hword : KeepsSame (HostBus.readWord a) :=
      (keepsSame_read _).bind fun _ => (keepsSame_read _).bind fun _ _ => rfl
    exact hword.bind fun _ => hanswer _
  | write a data =>
    have hwrite : KeepsSame (write a data) := by
      intro bus
      unfold write
      split
      · split <;> rfl
      all_goals rfl
    exact hwrite.bind fun _ => hanswer _
  | load a data => exact (keepsSame_load a data).bind fun _ => hanswer _
  | loadBytes a bytes => exact (keepsSame_loadBytes a bytes).bind fun _ => hanswer _
  | register first last kind size fill =>
    -- A fresh memory is new to the bus, so its cells are nowhere else.
    have hregister : KeepsSame (register first last kind size fill) := by
      intro bus
      unfold register
      repeat' split
      all_goals rfl
    exact hregister.bind fun _ => hanswer _
  | takeActivity => exact fun _ => rfl

end CellBus

/-! ## Refinement -/

namespace Bus

/-- On every bus of memories the call does what the other does on its map of cells, and leaves a
bus of memories. -/
def Refines (x : Call Bus α) (y : Call CellBus α) : Prop :=
  ∀ bus : Bus, bus.AllMemory →
    (x bus).mapMachine cells = y bus.cells ∧ (x bus).machine.AllMemory

theorem Refines.pure (a : α) : Refines (Pure.pure a) (Pure.pure a) := fun _ h => ⟨rfl, h⟩

theorem Refines.bind {x : Call Bus α} {y : Call CellBus α} {f : α → Call Bus γ}
    {g : α → Call CellBus γ} (h : Refines x y) (hnext : ∀ a, Refines (f a) (g a)) :
    Refines (x >>= f) (y >>= g) := by
  intro bus hmemory
  obtain ⟨hcells, hall⟩ := h bus hmemory
  rw [Call.bind_apply, Call.bind_apply, ← hcells]
  -- If the first call is refused, both stop there.
  generalize x bus = o at hall
  obtain ⟨fault | a, after, told⟩ := o
  · exact ⟨rfl, hall⟩
  · obtain ⟨hcells', hall'⟩ := hnext a after hall
    refine ⟨?_, hall'⟩
    simp only [Outcome.mapMachine, Outcome.after] at hcells' ⊢
    rw [← hcells']

theorem refines_read (a : Int) : Refines (read a) (CellBus.read a) :=
  fun _ h => ⟨cells_read h a, allMemory_read h a⟩

theorem refines_write (a data : Int) : Refines (write a data) (CellBus.write a data) :=
  fun _ h => cells_write h a data

theorem refines_load (a data : Int) : Refines (load a data) (CellBus.load a data) :=
  fun _ h => cells_load h a data

theorem refines_look (a : Int) : Refines (look a) (CellBus.look a) := by
  intro bus hmemory
  refine ⟨?_, hmemory⟩
  -- A look is a read without the record.
  have hread := cells_read hmemory a
  unfold CellBus.look
  rw [← hread]
  unfold look read
  cases bus.peek a <;> rfl

theorem refines_readWord (a : Int) :
    Refines (HostBus.readWord a) (HostBus.readWord a) :=
  (refines_read _).bind fun _ => (refines_read _).bind fun _ => .pure _

theorem refines_loadBytes (a : Int) (bytes : List Byte) :
    Refines (loadBytes a bytes) (CellBus.loadBytes a bytes) := by
  -- The next byte goes to the next address, so the address varies.
  induction bytes generalizing a with
  | nil => exact .pure ()
  | cons b rest ih => exact (refines_load _ _).bind fun _ => ih (a + 1)

/-- A region behind the others adds its cells where there have been none. -/
theorem cells_attach {bus : Bus} (hmemory : bus.AllMemory) {more : List Device}
    (region : { region : Region // region.misfit? (bus.devices ++ more) = none }) (a : Int) :
    (bus.attach more region).cells.cell? a =
      (bus.cells.cell? a).or (if region.val.holds a then
        ((bus.attach more region).device region.val.device).cell? (a - region.val.first)
        else none) := by
  show ((bus.attach more region).place? a).bind _ = _
  rw [place?_attach]
  rcases place?_cases hmemory a with ⟨hplace, hcell⟩ | ⟨place, _, _, hplace, hdevice, -, hcell⟩
  · rw [hplace, hcell]
    cases region.val.holds a <;> rfl
  · -- The address leads to a memory already, so it has a cell.
    rw [hplace, hcell, Option.some_or, Option.some_or, Option.bind_some,
      device_attach (device_lt hplace), hdevice]
    rfl

theorem allMemory_attach {bus : Bus} (hmemory : bus.AllMemory) {more : List Device}
    (region : { region : Region // region.misfit? (bus.devices ++ more) = none })
    (h : ((bus.attach more region).device region.val.device).IsMemory) :
    (bus.attach more region).AllMemory := by
  refine List.forall_mem_append.mpr ⟨fun other hother => ?_, List.forall_mem_singleton.mpr h⟩
  rw [device_attach (device_lt_of_mem hother)]
  exact hmemory other hother

/-- The registration of a fresh memory, if the ends are in order and it fits. No address shares a
cell with another that it has not shared before. -/
theorem register_fresh {first last size : Int} (kind : MemoryKind) (fill : Byte) {bus : Bus}
    (hmemory : bus.AllMemory) (hends : 0 ≤ first ∧ first ≤ last ∧ last ≤ 0xFFFF)
    (hsize : size = last - first + 1) :
    ∃ after, register first last (.fresh (.memory kind ⟨size.toNat, .uniform fill⟩)) bus =
        ⟨.ok (), after, []⟩ ∧ after.AllMemory ∧
      after.cells = { bus.cells with
        cell? := fun a => (bus.cells.cell? a).or
          (if first ≤ a ∧ a ≤ last then some ⟨kind, fill⟩ else none) } := by
  -- The ends are in order, so the size is no negative number.
  have hlength : (size.toNat : Int) = last - first + 1 := by omega
  have hfits : Region.misfit? (bus.devices ++ [.memory kind ⟨size.toNat, .uniform fill⟩])
      ⟨first, last, bus.devices.length, hends⟩ = none := by
    simp [Region.misfit?, Device.misfit?, hlength]
  let after := bus.attach [.memory kind ⟨size.toNat, .uniform fill⟩] ⟨_, hfits⟩
  have hdevice : after.device bus.devices.length = .memory kind ⟨size.toNat, .uniform fill⟩ := by
    simp [after, attach, Bus.device]
  -- The fresh memory is the last device, and no region before named it.
  refine ⟨after, ?_, allMemory_attach hmemory _ ⟨_, _, hdevice⟩, ?_⟩
  · simp only [register, Call.ofExcept, Source.number?, Source.devices,
      Region.make?_eq_ok hends hfits]
    rfl
  · refine CellBus.ext rfl (funext fun a => ?_) (same_attach rfl) rfl
    rw [cells_attach hmemory, hdevice]
    simp [Region.holds, Device.cell?, Memory.get, Bytes.get]

theorem refines_register (first last : Int) (kind : MemoryKind) (size fill : Int) :
    Refines (Request.register first last kind size fill).call
      (CellBus.answer (.register first last kind size fill)) := by
  intro bus hmemory
  simp only [Request.call, Device.makeMemory?, Memory.make?, CellBus.answer, Call.bind_apply,
    CellBus.register]
  -- The checks are made in the order of the map: the size, the fill, the ends and the fit.
  by_cases hpositive : size ≤ 0
  · simp only [hpositive, if_true]
    exact ⟨rfl, hmemory⟩
  cases hfill : isByte fill with
  | false =>
    simp only [hpositive, if_false, Bool.not_false, if_true]
    exact ⟨rfl, hmemory⟩
  | true =>
    have hsize : (size.toNat : Int) = size := by omega
    simp only [hpositive, if_false, Bool.not_true, Bool.false_eq_true, Except.map]
    by_cases hends : 0 ≤ first ∧ first ≤ last ∧ last ≤ 0xFFFF
    · by_cases hfits : size = last - first + 1
      · obtain ⟨after, hregister, hall, hcells⟩ :=
          register_fresh kind (byte fill) hmemory hends hfits
        rw [Call.bind_apply, hregister]
        simp only [hends, hfits, and_self, not_true_eq_false, ne_eq, if_false]
        exact ⟨congrArg (fun view => (⟨.ok .done, view, []⟩ : Outcome CellBus Answer)) hcells, hall⟩
      · have hmisfit : Region.misfit?
            (bus.devices ++ [.memory kind ⟨size.toNat, .uniform (byte fill)⟩])
            ⟨first, last, bus.devices.length, hends⟩ =
              some (.sizeMismatch kind size.toNat (last - first + 1)) := by
          simp [Region.misfit?, Device.misfit?, hsize, hfits]
        simp only [hends, hfits, Call.bind_apply, register, Call.ofExcept, Source.number?,
          Source.devices, Region.make?_eq_error hends hmisfit, and_self, not_true_eq_false, ne_eq,
          not_false_eq_true, if_false, if_true]
        exact ⟨rfl, hmemory⟩
    · simp only [hends, Call.bind_apply, register, Call.ofExcept, Source.number?, Region.make?,
        not_false_eq_true, if_true, dif_neg]
      exact ⟨rfl, hmemory⟩

theorem refines_request (x : Request) : Refines x.call (CellBus.answer x) := by
  cases x with
  | read a => exact (refines_read a).bind fun _ => .pure _
  | look a => exact (refines_look a).bind fun _ => .pure _
  | readWord a => exact (refines_readWord a).bind fun _ => .pure _
  | write a data => exact (refines_write a data).bind fun _ => .pure _
  | load a data => exact (refines_load a data).bind fun _ => .pure _
  | loadBytes a bytes => exact (refines_loadBytes a bytes).bind fun _ => .pure _
  | register first last kind size fill => exact refines_register first last kind size fill
  | takeActivity => exact fun _ h => ⟨rfl, h⟩

end Bus

/-! ## Many requests -/

/-- The results and the notices of some calls, one after the other, and the machine after them. A
call that is refused leaves the machine as it is then, and the next call goes on from there. -/
def Call.each (call : ρ → Call μ α) : List ρ → μ → List (Except Fault α × List Notice) × μ
  | [], m => ([], m)
  | x :: rest, m =>
    let o := call x m
    let (replies, m) := each call rest o.machine
    ((o.result, o.notices) :: replies, m)

namespace Bus

theorem each_cells (requests : List Request) {bus : Bus} (hmemory : bus.AllMemory) :
    (Call.each Request.call requests bus).1 = (Call.each CellBus.answer requests bus.cells).1 ∧
      (Call.each Request.call requests bus).2.cells =
        (Call.each CellBus.answer requests bus.cells).2 ∧
      (Call.each Request.call requests bus).2.AllMemory ∧
      (Call.each Request.call requests bus).2.same = bus.same := by
  induction requests generalizing bus with
  | nil => exact ⟨rfl, rfl, hmemory, rfl⟩
  | cons x rest ih =>
    obtain ⟨hcells, hall⟩ := refines_request x bus hmemory
    obtain ⟨hreplies, hlast, hlastAll, hlastSame⟩ := ih hall
    have hsame := CellBus.keepsSame_answer x bus.cells
    -- The outcome on the map is the outcome on the bus, seen as a map.
    rw [← hcells] at hsame
    simp only [Call.each, ← hcells, Outcome.mapMachine]
    exact ⟨congrArg (_ :: ·) hreplies, hlast, hlastAll, hlastSame.trans hsame⟩

/-! ## One call -/

/-- The request makes one access at most, so it is refused as a whole or not at all. -/
def Request.isSingle : Request → Bool
  | readWord _ | loadBytes _ _ => false
  | _ => true

/-- What becomes of a bus of memories in one call. -/
structure Orderly (bus : Bus) : Prop where
  /-- There are cells only at the addresses of the bus. -/
  onBus : ∀ a, (bus.cells.cell? a).isSome → 0 ≤ a ∧ a ≤ 0xFFFF
  /-- A request that is refused changes nothing. -/
  refused : ∀ x : Request, x.isSingle → ∀ fault, (x.call bus).result = .error fault →
    (x.call bus).machine = bus
  /-- A look changes nothing. -/
  look : ∀ a, (Bus.look a bus).machine = bus
  /-- A read puts the byte that it gives on record, and changes nothing else. -/
  read : ∀ a b, (Bus.read a bus).result = .ok b →
    (Bus.read a bus).machine = bus.record (.read a b)
  /-- A write puts what it replaces on record, or that there was nothing to replace. -/
  write : ∀ a data, (Bus.write a data bus).result = .ok () →
    (Bus.write a data bus).machine.activity =
      bus.activity ++ [.write a data ((bus.cells.cell? a).map Cell.value)]
  /-- A load is off the record. -/
  load : ∀ a data, (Bus.load a data bus).machine.activity = bus.activity
  /-- A registration is off the record. -/
  register : ∀ first last source,
    (Bus.register first last source bus).machine.activity = bus.activity

/-- What is held at an address is the value of the cell. -/
theorem held?_eq {bus : Bus} (hmemory : bus.AllMemory) (a : Int) :
    bus.held? a = (bus.cells.cell? a).map Cell.value := by
  rcases place?_cases hmemory a with
    ⟨hplace, hcell⟩ | ⟨place, kind, memory, hplace, hdevice, hoffset, hcell⟩
  · rw [held?, hplace, hcell]
    rfl
  · rw [held?, hplace, hcell]
    simp [hdevice, Device.read, Memory.read, hoffset, Except.toOption]

/-- A region holds no addresses that are off the bus, so there are no cells either. -/
theorem onBus_of_isSome_cell? {bus : Bus} {a : Int} (h : (bus.cells.cell? a).isSome) :
    0 ≤ a ∧ a ≤ 0xFFFF := by
  obtain ⟨cell, hcell⟩ := Option.isSome_iff_exists.mp h
  obtain ⟨place, hplace, -⟩ := Option.bind_eq_some_iff.mp hcell
  obtain ⟨region, -, -, hholds, -⟩ := exists_region hplace
  simp only [Region.holds, Bool.and_eq_true, decide_eq_true_eq] at hholds
  have := region.onBus
  omega

theorem register_spec (first last : Int) (source : Source) (bus : Bus) :
    (register first last source bus).Satisfies (fun _ after => after.recent = bus.recent)
      (fun _ after => after = bus) := by
  simp only [register, Call.ofExcept]
  cases Region.make? (bus.devices ++ source.devices) first last (source.number? bus) with
  | ok region => exact rfl
  | error fault => exact rfl

/-- What a refused call leaves as it is stays so if the result is passed on in another form. -/
theorem unchanged_map {call : Call Bus α} {good : α → Bus → Prop} {bus : Bus}
    (h : (call bus).Satisfies good fun _ after => after = bus) (f : α → γ) :
    ((call >>= fun a => pure (f a)) bus).Satisfies (fun _ _ => True) fun _ after => after = bus :=
  h.bind fun _ _ _ => trivial

theorem unchanged_of_refused {x : Request} (hx : x.isSingle) (bus : Bus) :
    (x.call bus).Satisfies (fun _ _ => True) fun _ after => after = bus := by
  cases x with
  | read a => exact unchanged_map (read_spec a bus) _
  | look a =>
    have hlook : (look a bus).Satisfies (fun _ _ => True) fun _ after => after = bus := by
      unfold look
      cases bus.peek a <;> trivial
    exact unchanged_map hlook _
  | write a data => exact unchanged_map (write_spec a data bus) _
  | load a data => exact unchanged_map (load_spec a data bus) _
  | register first last kind size fill =>
    simp only [Request.call]
    cases Device.makeMemory? kind size fill with
    | ok device => exact unchanged_map (register_spec first last (.fresh device) bus) _
    | error fault => exact (rfl : bus = bus)
  | takeActivity => trivial
  -- The other two make more than one access.
  | readWord a => exact nomatch hx
  | loadBytes a bytes => exact nomatch hx

theorem orderly_of_allMemory {bus : Bus} (hmemory : bus.AllMemory) : bus.Orderly where
  onBus _ h := onBus_of_isSome_cell? h
  refused _ hx _ hfault := (unchanged_of_refused hx bus).of_error hfault
  look _ := rfl
  read a b hb := ((read_spec a bus).of_ok hb).2
  write a data hok := by
    -- What is on record for a write is what was held there, the value of the cell.
    have hwrote := (write_spec a data bus).of_ok hok
    rw [← held?_eq hmemory, activity, hwrote.recent, List.reverse_cons]
    rfl
  load a data := by
    have hload : (Bus.load a data bus).Satisfies (fun _ after => after.recent = bus.recent)
        (fun _ after => after.recent = bus.recent) :=
      (load_spec a data bus).mono (fun _ _ h => h) fun _ _ h => congrArg Bus.recent h
    exact congrArg List.reverse hload.machine
  register first last source := by
    have hregister : (Bus.register first last source bus).Satisfies
        (fun _ after => after.recent = bus.recent) (fun _ after => after.recent = bus.recent) :=
      (register_spec first last source bus).mono (fun _ _ h => h) fun _ _ h => congrArg Bus.recent h
    exact congrArg List.reverse hregister.machine

/-! ## The refinement -/

/-- A bus of memories refines a map of cells.

To any requests, one after the other and whether refused or not, the bus answers what the map
answers, with the same notices; afterwards its cells and its record are those of the map. There a
call that is refused changes nothing, no more than a look does, and each read and each write that is
answered is one entry on record. If no two addresses share a cell at first, then none ever do, and
to replace a cell is to replace it at one address. -/
theorem each_refines (requests : List Request) {bus : Bus} (hmemory : bus.AllMemory) :
    let real := Call.each Request.call requests bus
    let model := Call.each CellBus.answer requests bus.cells
    real.1 = model.1 ∧ real.2.cells = model.2 ∧ real.2.Orderly ∧
      (bus.Apart → real.2.Apart ∧ ∀ a cell, model.2.put a cell =
        { model.2 with cell? := fun b => if b = a then some cell else model.2.cell? b }) := by
  intro real model
  obtain ⟨hreplies, hcells, hall, hsame⟩ := each_cells requests hmemory
  refine ⟨hreplies, hcells, orderly_of_allMemory hall, fun hapart => ?_⟩
  -- Which addresses share a cell is the same at the end as at the start.
  have hlast : real.2.Apart := fun a b h => hapart a b (hsame ▸ h)
  refine ⟨hlast, fun a cell => CellBus.put_of_apart (fun b c => ?_) a cell⟩
  rw [show model.2 = real.2.cells from hcells.symm]
  exact hlast.same_eq b c

/-- An open bus on which a ROM is registered over the end of a RAM. -/
theorem each_refines_overlap :
    let bus : Bus := .empty (some 0xFF)
    let requests : List Request :=
      [.register 0 9 .ram 10 1, .register 5 15 .rom 11 2, .write 6 0x44, .write 12 0x44,
        .load 12 7, .load 20 7, .write 20 7, .write 6 256, .look 12]
    bus.AllMemory ∧ bus.Apart ∧ (Call.each Request.call requests bus).1 =
      (Call.each CellBus.answer requests bus.cells).1 ∧
      (Call.each Request.call requests bus).2.Apart := by
  intro bus requests
  have hmemory : bus.AllMemory := nofun
  have hapart : bus.Apart := apart_of_nodup List.nodup_nil
  obtain ⟨hreplies, -, -, hsame⟩ := each_refines requests hmemory
  exact ⟨hmemory, hapart, hreplies, (hsame hapart).1⟩

end Bus

end Micro6502
