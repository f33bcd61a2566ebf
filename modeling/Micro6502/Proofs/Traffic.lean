import Micro6502.Proofs.Cells
import Micro6502.Proofs.Monitor
import Micro6502.Proofs.Refinement

/-!
# Traffic on the bus

Whatever the host answers, a step and a reset ask for addresses on the bus and write bytes. So a
bus of memories refuses them only at an address that has no memory; and if the memories cover all
addresses, or the bus is open, it refuses nothing.

## Contents

- `CellBus.SameMap`: no access changes which addresses have cells
- `Bus.guards_map`, how a bus of memories may refuse
- `Bus.AnswersAll`, which every request of the host keeps
- `Registers.WellFormed` and `Cpu.WellConducted`
- `Cpu.traffic_wellFormed`
-/

namespace Micro6502

/-! ## Which addresses have cells -/

namespace CellBus

/-- The cells are at the same addresses as before, and the open bus is the same. -/
structure SameMap (before after : CellBus) : Prop where
  openBus : after.openBus = before.openBus
  isSome : ∀ a, (after.cell? a).isSome = (before.cell? a).isSome

namespace SameMap

protected theorem refl (bus : CellBus) : bus.SameMap bus := ⟨rfl, fun _ => rfl⟩

theorem trans {b c d : CellBus} (h : b.SameMap c) (h' : c.SameMap d) : b.SameMap d :=
  ⟨h'.openBus.trans h.openBus, fun a => (h'.isSome a).trans (h.isSome a)⟩

theorem record {b c : CellBus} (h : b.SameMap c) (access : Activity) :
    b.SameMap (c.record access) :=
  ⟨h.openBus, h.isSome⟩

theorem eq_none {b c : CellBus} (h : b.SameMap c) {a : Int} (hcell : c.cell? a = none) :
    b.cell? a = none := by
  -- An address without a cell has had none before.
  have hsome := h.isSome a
  rw [hcell] at hsome
  exact Option.isNone_iff_eq_none.mp (Option.isSome_eq_false_iff.mp hsome.symm)

/-- Replacing a cell that is there. -/
theorem put {bus : CellBus} (hcoherent : bus.Coherent) {a : Int} {cell : Cell}
    (h : bus.cell? a = some cell) (cell' : Cell) : bus.SameMap (bus.put a cell') := by
  refine ⟨rfl, fun b => ?_⟩
  show (if bus.same a b then some cell' else bus.cell? b).isSome = _
  split
  · -- The addresses that share the cell have had it before.
    next hsame => rw [hcoherent.cell? a b hsame, h]; rfl
  · rfl

end SameMap

theorem read_refused (a : Int) (bus : CellBus) :
    (read a bus).Satisfies (fun _ => bus.SameMap)
      (fun fault c => bus.SameMap c ∧ fault = .unmapped a ∧ bus.cell? a = none ∧
        bus.openBus = none) := by
  unfold read
  split
  · exact (SameMap.refl bus).record _
  · exact (SameMap.refl bus).record _
  · next hcell hopen => exact ⟨.refl bus, rfl, hcell, hopen⟩

theorem write_refused (a data : Int) {bus : CellBus} (hcoherent : bus.Coherent) :
    (write a data bus).Satisfies (fun _ => bus.SameMap)
      (fun fault c => bus.SameMap c ∧ (isByte data = true →
        fault = .unmapped a ∧ bus.cell? a = none ∧ bus.openBus = none)) := by
  unfold write
  split
  · next hcell =>
    split
    · exact (SameMap.put hcoherent hcell _).record _
    · next hdata => exact ⟨.refl bus, fun h => absurd h hdata⟩
  · exact (SameMap.refl bus).record _
  · exact (SameMap.refl bus).record _
  · next hcell hopen => exact ⟨.refl bus, fun _ => ⟨rfl, hcell, hopen⟩⟩

theorem sameMap_read (a : Int) (bus : CellBus) : bus.SameMap (read a bus).machine := by
  have hread : (read a bus).Satisfies (fun _ => bus.SameMap) (fun _ => bus.SameMap) :=
    (read_refused a bus).mono (fun _ _ h => h) fun _ _ h => h.1
  exact hread.machine

theorem sameMap_write (a data : Int) {bus : CellBus} (hcoherent : bus.Coherent) :
    bus.SameMap (write a data bus).machine := by
  have hwrite : (write a data bus).Satisfies (fun _ => bus.SameMap) (fun _ => bus.SameMap) :=
    (write_refused a data hcoherent).mono (fun _ _ h => h) fun _ _ h => h.1
  exact hwrite.machine

theorem sameMap_load (a data : Int) {bus : CellBus} (hcoherent : bus.Coherent) :
    bus.SameMap (load a data bus).machine := by
  unfold load
  split
  · next hcell =>
    split
    · exact .put hcoherent hcell _
    · exact .refl bus
  · exact .refl bus

end CellBus

/-! ## Buses of memories -/

/-- The address of an access. -/
def Access.address : Access → Int
  | read a => a
  | write a _ => a

namespace Bus

/-- The other bus is a bus of memories too, with the same addresses and the same open bus. -/
def SameMap (bus other : Bus) : Prop := other.AllMemory ∧ bus.cells.SameMap other.cells

/-- How a bus of memories refuses an access: it is not open, and no region holds the address. -/
def Refuses (bus : Bus) (x : Access) (fault : Fault) : Prop :=
  fault = .unmapped x.address ∧ bus.regionAt? x.address = none ∧ bus.openBus = none

theorem refuses_of_cells {bus other : Bus} {a : Int} {fault : Fault} (hmemory : bus.AllMemory)
    (h : bus.cells.SameMap other.cells)
    (hfault : fault = .unmapped a ∧ other.cells.cell? a = none ∧ other.openBus = none) :
    fault = .unmapped a ∧ bus.regionAt? a = none ∧ bus.openBus = none := by
  -- There has been no cell at the address from the start, so no region holds it.
  obtain ⟨rfl, hcell, hopen⟩ := hfault
  have hnone := isSome_cell? hmemory a
  rw [h.eq_none hcell] at hnone
  refine ⟨rfl, ?_, h.openBus.symm.trans hopen⟩
  exact Option.isNone_iff_eq_none.mp (Option.isSome_eq_false_iff.mp hnone.symm)

/-- Proper accesses do not change which addresses a bus of memories has, and are refused only
where it has none. -/
theorem guards_map {bus : Bus} (hmemory : bus.AllMemory) :
    Guards bus.SameMap fun x fault other => bus.SameMap other ∧ bus.Refuses x fault where
  accesses :=
    { read := by
        intro _ a _ b h
        obtain ⟨hb, hmap⟩ := h
        have hall := allMemory_read hb a
        have hread := CellBus.read_refused a b.cells
        rw [← cells_read hb a, Outcome.satisfies_mapMachine] at hread
        show (Bus.read a b).Satisfies _ _
        generalize Bus.read a b = o at hall hread
        obtain ⟨fault | v, c, told⟩ := o
        · exact ⟨⟨hall, hmap.trans hread.1⟩, refuses_of_cells hmemory hmap hread.2⟩
        · exact ⟨hall, hmap.trans hread⟩
      write := by
        intro _ a data hproper b h
        obtain ⟨hb, hmap⟩ := h
        -- A memory refuses what is no byte, but a proper write is one.
        have hbyte : isByte data = true := isByte_iff.mpr hproper.2
        obtain ⟨hcells, hall⟩ := cells_write hb a data
        have hwrite := CellBus.write_refused a data b.coherent_cells
        rw [← hcells, Outcome.satisfies_mapMachine] at hwrite
        show (Bus.write a data b).Satisfies _ _
        generalize Bus.write a data b = o at hall hwrite
        obtain ⟨fault | _, c, told⟩ := o
        · exact ⟨⟨hall, hmap.trans hwrite.1⟩, refuses_of_cells hmemory hmap (hwrite.2 hbyte)⟩
        · exact ⟨hall, hmap.trans hwrite⟩ }
  takeActivity _ hb := ⟨hb.1, hb.2.openBus, hb.2.isSome⟩

/-! ## Buses that answer everywhere -/

/-- At every address the bus answers: it is open, or a region holds the address. -/
def AnswersAll (bus : Bus) : Prop :=
  bus.openBus.isSome ∨ ∀ a, 0 ≤ a → a ≤ 0xFFFF → (bus.regionAt? a).isSome

/-- A bus that answers everywhere refuses no proper access. -/
theorem AnswersAll.not_refuses {bus : Bus} (h : bus.AnswersAll) {x : Access} (hx : x.Proper)
    (fault : Fault) : ¬ bus.Refuses x fault := by
  intro hrefuses
  obtain ⟨-, hregion, hopen⟩ := hrefuses
  have ha : 0 ≤ x.address ∧ x.address ≤ 0xFFFF := by
    cases x with
    | read a => exact hx
    | write a data => exact hx.1
  rcases h with h | h
  · simp [hopen] at h
  · have := h x.address ha.1 ha.2
    simp [hregion] at this

/-- The memories of a bus answer everywhere. -/
def Complete (bus : Bus) : Prop := bus.AllMemory ∧ bus.AnswersAll

theorem Complete.of_sameMap {bus other : Bus} (h : bus.Complete) (hsame : bus.SameMap other) :
    other.Complete := by
  refine ⟨hsame.1, ?_⟩
  -- Neither reason to answer everywhere can get lost.
  rcases h.2 with hopen | hall
  · refine Or.inl ?_
    rw [show other.openBus = bus.openBus from hsame.2.openBus]
    exact hopen
  · refine Or.inr fun a ha ha' => ?_
    rw [← isSome_cell? hsame.1, hsame.2.isSome, isSome_cell? h.1]
    exact hall a ha ha'

/-- A bus whose memories answer everywhere refuses nothing that is proper, and goes on answering
everywhere. -/
theorem guards_complete : Guards Complete fun _ _ _ => False where
  accesses :=
    { read := fun past a hx bus h =>
        ((guards_map h.1).accesses.read past a hx bus ⟨h.1, .refl _⟩).mono
          (fun _ _ hsame => h.of_sameMap hsame)
          fun fault _ hbad => h.2.not_refuses hx fault hbad.2
      write := fun past a data hx bus h =>
        ((guards_map h.1).accesses.write past a data hx bus ⟨h.1, .refl _⟩).mono
          (fun _ _ hsame => h.of_sameMap hsame)
          fun fault _ hbad => h.2.not_refuses hx fault hbad.2 }
  takeActivity _ h := h

theorem complete_ram : ram.Complete :=
  ⟨allMemory_ram, Or.inr fun a ha ha' => by
    simp [regionAt?, ram, ramOf, Region.holds, ha, ha']⟩

/-! ### Requests of the host -/

/-- The call keeps the memories that answer everywhere, whether it is refused or not. -/
abbrev KeepsComplete (call : Call Bus α) : Prop :=
  Call.Meets Complete call (fun _ => Complete) fun _ => Complete

theorem keepsComplete_of_sameMap {call : Call Bus α}
    (h : ∀ bus : Bus, bus.AllMemory → bus.SameMap (call bus).machine) : KeepsComplete call := by
  intro bus hbus
  have hsame := hbus.of_sameMap (h bus hbus.1)
  generalize call bus = o at hsame
  obtain ⟨_ | a, other, told⟩ := o
  · exact hsame
  · exact hsame

theorem keepsComplete_read (a : Int) : KeepsComplete (read a) := by
  refine keepsComplete_of_sameMap fun bus hmemory => ⟨allMemory_read hmemory a, ?_⟩
  have hread := CellBus.sameMap_read a bus.cells
  rwa [← cells_read hmemory a] at hread

theorem keepsComplete_write (a data : Int) : KeepsComplete (write a data) := by
  refine keepsComplete_of_sameMap fun bus hmemory => ?_
  obtain ⟨hcells, hall⟩ := cells_write hmemory a data
  have hwrite := CellBus.sameMap_write a data bus.coherent_cells
  rw [← hcells] at hwrite
  exact ⟨hall, hwrite⟩

theorem keepsComplete_load (a data : Int) : KeepsComplete (load a data) := by
  refine keepsComplete_of_sameMap fun bus hmemory => ?_
  obtain ⟨hcells, hall⟩ := cells_load hmemory a data
  have hload := CellBus.sameMap_load a data bus.coherent_cells
  rw [← hcells] at hload
  exact ⟨hall, hload⟩

theorem keepsComplete_loadBytes (a : Int) (bytes : List Byte) :
    KeepsComplete (loadBytes a bytes) := by
  -- A load that is refused ends the row, and what was loaded before it stays.
  induction bytes generalizing a with
  | nil => exact Call.meets_pure () fun _ h => h
  | cons b rest ih => exact (keepsComplete_load _ _).bind fun _ => ih (a + 1)

/-- What is registered is a memory if it is a fresh device at all. -/
def FreshMemory : Source → Prop
  | .fresh device => device.IsMemory
  | _ => True

/-- The device of the new region is the fresh one, or that of another region. -/
theorem isMemory_attach {bus : Bus} (hmemory : bus.AllMemory) {source : Source}
    (hsource : FreshMemory source) {n : Nat} (hnumber : source.number? bus = some n)
    (region : { region : Region // region.misfit? (bus.devices ++ source.devices) = none }) :
    ((bus.attach source.devices region).device n).IsMemory := by
  cases source with
  | fresh device =>
    obtain rfl : bus.devices.length = n := Option.some.inj hnumber
    have hdevice : (bus.attach [device] region).device bus.devices.length = device := by
      simp [attach, Bus.device]
    show ((bus.attach [device] region).device bus.devices.length).IsMemory
    rw [hdevice]
    exact hsource
  | again i =>
    -- A device that is registered again is that of a region, and all of these are memories.
    obtain ⟨other, hother, rfl⟩ := Option.map_eq_some_iff.mp hnumber
    have hmem := List.mem_of_getElem? hother
    rw [device_attach (device_lt_of_mem hmem)]
    exact hmemory other hmem
  | nothing => simp [Source.number?] at hnumber

/-- A region that is made is one of the device it was asked for. -/
theorem device_of_make? {devices : List Device} {first last : Int} {device : Option Nat}
    {region : { region : Region // region.misfit? devices = none }}
    (h : Region.make? devices first last device = .ok region) :
    device = some region.val.device := by
  cases device with
  | none =>
    simp only [Region.make?] at h
    split at h <;> simp at h
  | some n =>
    by_cases ends : 0 ≤ first ∧ first ≤ last ∧ last ≤ 0xFFFF
    · cases hfits : Region.misfit? devices ⟨first, last, n, ends⟩ with
      | none =>
        rw [Region.make?_eq_ok ends hfits] at h
        rw [← Except.ok.inj h]
      | some fault => simp [Region.make?_eq_error ends hfits] at h
    · simp [Region.make?, ends] at h

/-- Neither a fresh memory nor one that is registered again takes an address away. -/
theorem keepsComplete_register (first last : Int) {source : Source} (hsource : FreshMemory source) :
    KeepsComplete (register first last source) := by
  intro bus hbus
  obtain ⟨hmemory, hanswers⟩ := hbus
  simp only [register, Call.ofExcept]
  -- A registration that is refused leaves the bus as it was.
  cases hmake : Region.make? (bus.devices ++ source.devices) first last (source.number? bus) with
  | error fault => exact ⟨hmemory, hanswers⟩
  | ok region =>
    show (bus.attach source.devices region).Complete
    refine ⟨allMemory_attach hmemory _ (isMemory_attach hmemory hsource (device_of_make? hmake) _),
      hanswers.imp id fun hall a ha ha' => ?_⟩
    -- The new region comes behind the others, so they hold what they held.
    rw [← isSome_place?, place?_attach, Option.isSome_or, isSome_place?, hall a ha ha',
      Bool.true_or]

theorem keepsComplete_answer {call : Call Bus α} (h : KeepsComplete call) (f : α → γ) :
    KeepsComplete (call >>= fun a => pure (f a)) :=
  h.bind fun _ => Call.meets_pure _ fun _ h => h

theorem keepsComplete_call (x : Request) : KeepsComplete x.call := by
  cases x with
  | read a => exact keepsComplete_answer (keepsComplete_read a) _
  | look a =>
    exact keepsComplete_answer (keepsComplete_of_sameMap fun _ hmemory => ⟨hmemory, .refl _⟩) _
  | readWord a =>
    exact keepsComplete_answer ((keepsComplete_read _).bind fun _ =>
      keepsComplete_answer (keepsComplete_read _) _) _
  | write a data => exact keepsComplete_answer (keepsComplete_write a data) _
  | load a data => exact keepsComplete_answer (keepsComplete_load a data) _
  | loadBytes a bytes => exact keepsComplete_answer (keepsComplete_loadBytes a bytes) _
  | register first last kind size fill =>
    cases hmake : Memory.make? size fill with
    | error fault =>
      simp only [Request.call, Device.makeMemory?, hmake, Except.map]
      exact fun _ h => h
    | ok cells =>
      simp only [Request.call, Device.makeMemory?, hmake, Except.map]
      have hmemory : FreshMemory (.fresh (.memory kind cells)) := ⟨kind, cells, rfl⟩
      exact keepsComplete_answer (keepsComplete_register first last hmemory) _
  | takeActivity => exact fun _ h => h

theorem keepsComplete_demand (x : Demand) : KeepsComplete x.call := by
  cases x with
  | request x => exact keepsComplete_call x
  | again first last region =>
    have hmemory : FreshMemory (.again region) := trivial
    exact keepsComplete_answer (keepsComplete_register first last hmemory) _

end Bus

/-! ## Processors -/

/-- The contents of the registers as integers are within the width of the registers, and bit 5 of
the status is set. -/
structure Registers.WellFormed (r : Registers) : Prop where
  pc : r.read .pc ≤ 0xFFFF
  byte : ∀ register, register ≠ .pc → r.read register ≤ 0xFF
  status : (r.read .p).testBit 5 = true

theorem Registers.wellFormed (r : Registers) : r.WellFormed where
  pc := Nat.le_of_lt_succ r.pc.isLt
  byte register h := by
    have hbyte (b : Byte) : b.toNat ≤ 0xFF := Nat.le_of_lt_succ b.isLt
    cases register with
    | pc => exact absurd rfl h
    | sp | a | x | y | p => exact hbyte _
  status := r.status.getLsbD_pack_five

/-- An instruction was executed on an operand that has what it asks for, so no rule for a missing
value or place was used. -/
def Operation.Served : Operation → Prop
  | .interrupt _ => True
  | .instruction i _ => i.operand.Serves i.descriptor.mnemonic.need

namespace Cpu

variable {variant : Variant} {β : Type}

/-- A call with a monitor on the bus, and the same call without. The outcomes are the same, the
monitor has seen proper accesses only, and the registers are in order. -/
structure WellConducted (seen : Outcome (Cpu variant (Monitored β)) α)
    (plain : Outcome (Cpu variant β) α) : Prop where
  same : seen.mapMachine Processor.unwatched = plain
  proper : ∀ x ∈ seen.machine.bus.requests, x.Proper
  registers : plain.machine.state.WellFormed

/-- If a call was refused, then at an address of the last request that no region holds. -/
def RefusedUnmapped (p : Cpu variant Bus) (seen : Outcome (Cpu variant (Monitored Bus)) α)
    (plain : Outcome (Cpu variant Bus) α) : Prop :=
  ∀ fault, plain.result = .error fault →
    ∃ x, seen.machine.bus.requests.head? = some x ∧ x.Proper ∧
      p.bus.regionAt? x.address = none ∧ fault = .unmapped x.address

theorem wellConducted [HostBus β] {x : Call (Cpu variant (Monitored β)) α}
    {y : Call (Cpu variant β) α} (hfollows : Follows (fun m b => m.host = b) True x y)
    (hguarded : ∀ {inv bad}, Guards (β := Monitored β) inv bad → Guarded inv bad x)
    (p : Cpu variant β) : WellConducted (x p.watched) (y p) where
  same := watched_eq hfollows p
  proper := by
    have hx : (x p.watched).Satisfies (fun _ q => ∀ x ∈ q.bus.requests, x.Proper)
        (fun _ q => ∀ x ∈ q.bus.requests, x.Proper) := by
      refine (hguarded guards_nothing.monitored p.watched ⟨trivial, nofun⟩).mono ?_ ?_
      · intro _ q h
        exact h.2
      · intro _ q h
        obtain ⟨-, -, -, -, hproper⟩ := h
        exact hproper
    exact hx.machine
  registers := Registers.wellFormed _

theorem refusedUnmapped {x : Call (Cpu variant (Monitored Bus)) α} {y : Call (Cpu variant Bus) α}
    (hfollows : Follows (fun m b => m.host = b) True x y)
    (hguarded : ∀ {inv bad}, Guards (β := Monitored Bus) inv bad → Guarded inv bad x)
    {p : Cpu variant Bus} (hmemory : p.bus.AllMemory) : RefusedUnmapped p (x p.watched) (y p) := by
  intro fault hfault
  -- The watched call has the same fault, and its monitor has the access as the latest request.
  have hx := hguarded (Bus.guards_map hmemory).monitored p.watched ⟨⟨hmemory, .refl _⟩, nofun⟩
  rw [← watched_eq hfollows p] at hfault
  obtain ⟨x, hproper, ⟨-, hrefused, hregion, -⟩, hhead, -⟩ := hx.of_error hfault
  exact ⟨x, hhead, hproper, hregion, hrefused⟩

theorem served_advance [HostBus β] (p : Cpu variant β) {operation : Operation}
    (h : (Processor.advance p).result = .ok operation) : operation.Served := by
  have hadvance := guards_nothing.accesses.advance p trivial
  obtain ⟨past, isInstruction, -, hturned, -⟩ := hadvance.of_ok h
  cases operation with
  | interrupt source => trivial
  | instruction i cycles => exact hturned.2.2.2.1

/-- What the bus never refuses gives a result. -/
theorem result_ok {call : Call (Cpu variant Bus) α}
    (h : Guarded Bus.Complete (fun _ _ _ => False) call) {p : Cpu variant Bus}
    (hp : p.bus.Complete) : ∃ a, (call p).result = .ok a := by
  -- A fault would be one that the bus never gives.
  cases hresult : (call p).result with
  | error fault =>
    obtain ⟨-, -, hnever⟩ := (h p hp).of_error hresult
    exact hnever.elim
  | ok a => exact ⟨a, rfl⟩

/-- No command of the host takes an address away from the bus. -/
theorem complete_obey (command : Command Bus.Demand) {p : Cpu variant Bus}
    (hp : p.bus.Complete) : (obey Bus.Demand.call command p).machine.bus.Complete :=
  -- The processor is refused nothing; what the host asks of the bus may be refused.
  obey_keeps _ (Bus.guards_complete.mono fun _ _ _ h => h.elim) Bus.keepsComplete_demand command hp

theorem complete_session (commands : List (Command Bus.Demand)) :
    ∀ p : Cpu variant Bus, p.bus.Complete →
      (session Bus.Demand.call commands p).2.bus.Complete :=
  session_keeps _ (fun command _ hp => complete_obey command hp) commands

end Cpu

/-! ## The traffic -/

namespace Cpu

/-- The traffic of a processor is well formed.

With any host, the requests of a step and of a reset are proper, and the registers are in order
afterwards. On memories that answer everywhere, no call is refused, after any commands of the
host. On memories without an open bus, a step and a reset can be refused only at an address that
no region holds. -/
theorem traffic_wellFormed (variant : Variant) :
    (∀ (β : Type) [HostBus β] (p : Cpu variant β),
      WellConducted (Processor.step p.watched) (Processor.step p) ∧
      WellConducted (reset p.watched) (reset p) ∧
      ∀ operation, (Processor.advance p).result = .ok operation → operation.Served) ∧
    (∀ (p : Cpu variant Bus) (commands : List (Command Bus.Demand)),
      p.bus.AllMemory → p.bus.AnswersAll →
        let q := (session Bus.Demand.call commands p).2
        (∃ cycles, (Processor.step q).result = .ok cycles) ∧
        (∃ t, (Processor.trace q).result = .ok t) ∧
        (∀ budget, ∃ cycles, (run budget q).result = .ok cycles) ∧
        (reset q).result = .ok ()) ∧
    (∀ p : Cpu variant Bus, p.bus.AllMemory → p.bus.openBus = none →
      RefusedUnmapped p (Processor.step p.watched) (Processor.step p) ∧
      RefusedUnmapped p (reset p.watched) (reset p)) := by
  have hhost {β : Type} [HostBus β] := Monitored.indistinguishable_host (β := β)
  refine ⟨fun β _ p => ⟨?_, ?_, fun _ => served_advance p⟩, fun p commands hmemory hanswers => ?_,
    fun p hmemory _ => ⟨?_, ?_⟩⟩
  · exact wellConducted (follows_step hhost) guarded_step p
  · exact wellConducted (follows_reset hhost) guarded_reset p
  · -- After the session the memories still answer everywhere.
    have hq := complete_session commands p ⟨hmemory, hanswers⟩
    have hguards := Bus.guards_complete
    obtain ⟨_, hreset⟩ := result_ok (guarded_reset hguards) hq
    exact ⟨result_ok (guarded_step hguards) hq, result_ok (guarded_trace hguards) hq,
      fun budget => result_ok (guarded_run hguards budget) hq, hreset⟩
  · exact refusedUnmapped (follows_step hhost) guarded_step hmemory
  · exact refusedUnmapped (follows_reset hhost) guarded_reset hmemory

/-- On a bus with one RAM, which is registered once more, written to in vain, stepped and reset, all
calls succeed. -/
theorem traffic_wellFormed_ram :
    Bus.ram.AllMemory ∧ Bus.ram.AnswersAll ∧
      ∃ cycles, (Processor.step (session Bus.Demand.call
        [.bus (.again 0 0xFFFF 0), .bus (.request (.write 0x10000 256)), .step, .reset]
        (new .nmos Bus.ram)).2).result = .ok cycles :=
  have ⟨hmemory, hanswers⟩ := Bus.complete_ram
  ⟨hmemory, hanswers, ((traffic_wellFormed .nmos).2.1 _ _ hmemory hanswers).1⟩

end Cpu

end Micro6502
