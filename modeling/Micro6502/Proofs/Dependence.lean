import Mathlib.Data.List.Forall2
import Micro6502.Proofs.Cells
import Micro6502.Proofs.Record

/-!
# What a step depends on

The record of a step has everything that the step has learnt from its memories. On other memories,
of the same kinds at the same addresses, a step from the same state makes the same accesses and
ends in the same state, as long as the bytes are the same at the addresses that it reads. The bytes
that a write replaces are on record too, but nothing depends on them.

## Contents

- `CellBus.Agrees`, buses that differ in unseen bytes only, under reads and writes
- `Dialogue.recent_run`, the record of a dialogue only grows
- `Bus.Agrees.run`, one dialogue with two such buses
- `Bus.SameLayout`, memories of the same kinds at the same addresses, with cells shared alike
- `Cpu.step_of_reads_eq`
-/

namespace Micro6502

/-! ## Cells that agree where they are seen -/

namespace CellBus

/-- Two buses with cells of the same kinds at the same addresses, that have been asked the same.
Where `seen` says so, they hold the same. -/
structure Agrees (seen : Int → Prop) (bus other : CellBus) : Prop where
  openBus : bus.openBus = other.openBus
  same : bus.same = other.same
  kind : ∀ a, (bus.cell? a).map Cell.kind = (other.cell? a).map Cell.kind
  cell? : ∀ a, seen a → bus.cell? a = other.cell? a
  exchanges : bus.recent.map Activity.exchange = other.recent.map Activity.exchange

namespace Agrees

variable {seen : Int → Prop} {bus other : CellBus}

theorem record (h : bus.Agrees seen other) {x y : Activity} (hxy : x.exchange = y.exchange) :
    (bus.record x).Agrees seen (other.record y) where
  openBus := h.openBus
  same := h.same
  kind := h.kind
  cell? := h.cell?
  exchanges := by simp [CellBus.record, hxy, h.exchanges]

/-- After the same cell has been put into both, they agree there too. -/
theorem put (h : bus.Agrees seen other) (a : Int) (cell : Cell) :
    (bus.put a cell).Agrees seen (other.put a cell) where
  openBus := h.openBus
  same := h.same
  kind b := by
    simp only [CellBus.put, h.same]
    split
    · rfl
    · exact h.kind b
  cell? b hb := by
    simp only [CellBus.put, h.same]
    split
    · rfl
    · exact h.cell? b hb
  exchanges := h.exchanges

/-- A read that is answered has to see the cell. One that is refused is refused by both. -/
theorem read (h : bus.Agrees seen other) {a : Int}
    (hseen : ∀ b, (CellBus.read a bus).result = .ok b → seen a) :
    (CellBus.read a bus).Pairs (fun v b w c => v = w ∧ b.Agrees seen c) (Agrees seen)
      (CellBus.read a other) := by
  have hkind := h.kind a
  unfold CellBus.read at hseen ⊢
  rw [← h.openBus]
  cases hcell : bus.cell? a with
  | some cell =>
    -- The read is answered, so the cell is among those that both have seen.
    have ha : seen a := hseen cell.value (by simp [hcell])
    rw [← h.cell? a ha, hcell]
    exact .ok [] ⟨rfl, h.record rfl⟩
  | none =>
    rw [hcell] at hkind
    rw [Option.map_eq_none_iff.mp hkind.symm]
    cases bus.openBus with
    | some value => exact .ok _ ⟨rfl, h.record rfl⟩
    | none => exact .error _ [] h

/-- No write has to see what it replaces. -/
theorem write (h : bus.Agrees seen other) (a data : Int) :
    (CellBus.write a data bus).Pairs (fun _ b _ c => b.Agrees seen c) (Agrees seen)
      (CellBus.write a data other) := by
  have hkind := h.kind a
  unfold CellBus.write
  rw [← h.openBus]
  cases hcell : bus.cell? a with
  | some cell =>
    rw [hcell] at hkind
    -- The other bus has a cell of the same kind there, of which nothing else is known.
    obtain ⟨cell', hcell', hsame⟩ := Option.map_eq_some_iff.mp hkind.symm
    obtain ⟨kind', value'⟩ := cell'
    obtain ⟨_, value⟩ := cell
    obtain rfl : kind' = _ := hsame
    rw [hcell']
    cases kind' with
    | ram =>
      cases isByte data with
      | true => exact .ok [] ((h.put a _).record rfl)
      | false => exact .error _ [] h
    | rom => exact .ok [] (h.record rfl)
  | none =>
    rw [hcell] at hkind
    rw [Option.map_eq_none_iff.mp hkind.symm]
    cases bus.openBus with
    | some value => exact .ok _ (h.record rfl)
    | none => exact .error _ [] h

end Agrees

end CellBus

/-! ## Dialogues with a bus -/

/-- A dialogue puts its accesses in front of what is on record. -/
theorem Dialogue.recent_run (d : Dialogue σ α) (bus : Bus) :
    bus.recent <:+ (d.run bus).machine.1.recent := by
  induction d generalizing bus with
  | done s a => exact List.suffix_refl _
  | read s a next ih =>
    have hread := Bus.read_spec a bus
    simp only [run, HostBus.read]
    generalize Bus.read a bus = o at hread
    obtain ⟨_ | b, after, told⟩ := o
    · obtain rfl : after = bus := hread
      exact List.suffix_refl _
    · obtain ⟨-, rfl⟩ := hread
      exact List.IsSuffix.trans (List.suffix_cons _ _) (ih b (bus.record (.read a b)))
  | write s a data next ih =>
    have hwrite := Bus.write_spec a data bus
    simp only [run, HostBus.write]
    generalize Bus.write a data bus = o at hwrite
    obtain ⟨_ | _, after, told⟩ := o
    · obtain rfl : after = bus := hwrite
      exact List.suffix_refl _
    · refine List.IsSuffix.trans ?_ (ih after)
      rw [Bus.Wrote.recent hwrite]
      exact List.suffix_cons _ _
  | tell notice next ih => exact ih bus

namespace Bus

/-- Two buses of memories that agree as maps of cells. -/
structure Agrees (seen : Int → Prop) (bus other : Bus) : Prop where
  left : bus.AllMemory
  right : other.AllMemory
  cells : bus.cells.Agrees seen other.cells

namespace Agrees

variable {seen : Int → Prop} {bus other : Bus}

theorem read (h : bus.Agrees seen other) {a : Int}
    (hseen : ∀ b, (Bus.read a bus).result = .ok b → seen a) :
    (Bus.read a bus).Pairs (fun v b w c => v = w ∧ b.Agrees seen c) (Agrees seen)
      (Bus.read a other) := by
  have hleft := allMemory_read h.left a
  have hright := allMemory_read h.right a
  have hcells : (CellBus.read a bus.cells).result = (Bus.read a bus).result := by
    rw [← cells_read h.left]
    rfl
  have hpairs := h.cells.read (fun b hb => hseen b (hcells.symm.trans hb))
  rw [← cells_read h.left, ← cells_read h.right] at hpairs
  generalize Bus.read a bus = o, Bus.read a other = o' at hleft hright hpairs
  cases hpairs.of_mapMachine with
  | ok told hvalue => exact .ok told ⟨hvalue.1, hleft, hright, hvalue.2⟩
  | error fault told hsame => exact .error fault told ⟨hleft, hright, hsame⟩

theorem write (h : bus.Agrees seen other) (a data : Int) :
    (Bus.write a data bus).Pairs (fun _ b _ c => b.Agrees seen c) (Agrees seen)
      (Bus.write a data other) := by
  obtain ⟨hcells, hleft⟩ := cells_write h.left a data
  obtain ⟨hcells', hright⟩ := cells_write h.right a data
  have hpairs := h.cells.write a data
  rw [← hcells, ← hcells'] at hpairs
  generalize Bus.write a data bus = o, Bus.write a data other = o' at hleft hright hpairs
  cases hpairs.of_mapMachine with
  | ok told hsame => exact .ok told ⟨hleft, hright, hsame⟩
  | error fault told hsame => exact .error fault told ⟨hleft, hright, hsame⟩

/-- One dialogue with two buses that agree wherever it reads the first one. -/
theorem run (h : bus.Agrees seen other) (d : Dialogue σ α)
    (hseen : ∀ a b, .read a b ∈ (d.run bus).machine.1.recent → seen a) :
    (d.run bus).Pairs (fun a m b n => a = b ∧ m.2 = n.2 ∧ m.1.Agrees seen n.1)
      (fun m n => m.2 = n.2 ∧ m.1.Agrees seen n.1) (d.run other) := by
  -- The buses and the record change with each access, so they vary.
  induction d generalizing bus other with
  | done s a => exact .ok [] ⟨rfl, rfl, h⟩
  | read s a next ih =>
    have hspec := read_spec a bus
    simp only [Dialogue.run, HostBus.read] at hseen ⊢
    have hnow : ∀ b, (Bus.read a bus).result = .ok b → seen a := by
      intro b hb
      -- What is answered now is still on record at the end.
      refine hseen a b ?_
      generalize Bus.read a bus = o at hb hspec ⊢
      obtain ⟨_ | b', after, told⟩ := o
      · cases hb
      · obtain rfl := Except.ok.inj hb
        obtain ⟨-, rfl⟩ := hspec
        exact (Dialogue.recent_run (next b') _).subset (List.mem_cons_self ..)
    have hpairs := h.read hnow
    generalize Bus.read a bus = o, Bus.read a other = o' at hpairs hseen
    cases hpairs with
    | ok told hvalue =>
      obtain ⟨rfl, hafter⟩ := hvalue
      exact (ih _ hafter hseen).after told
    | error fault told hafter => exact .error fault told ⟨rfl, hafter⟩
  | write s a data next ih =>
    -- A write is answered by both or by none, whatever it replaces.
    have hpairs := h.write a data
    simp only [Dialogue.run, HostBus.write] at hseen ⊢
    generalize Bus.write a data bus = o, Bus.write a data other = o' at hpairs hseen
    cases hpairs with
    | ok told hafter => exact (ih hafter hseen).after told
    | error fault told hafter => exact .error fault told ⟨rfl, hafter⟩
  | tell notice next ih => exact (ih h hseen).after [notice]

end Agrees

end Bus

/-! ## The same layout -/

/-- Regions with memories of the same kind at the same addresses. What they hold may differ. -/
structure Region.SameLayout (bus other : Bus) (region region' : Region) : Prop where
  first : region.first = region'.first
  last : region.last = region'.last
  device : ∃ kind cells cells', bus.device region.device = .memory kind cells ∧
    other.device region'.device = .memory kind cells'

namespace Bus

/-- Buses with memories of the same kinds at the same addresses, in the same order, and with the
same answer where there are none. The same addresses share cells. -/
structure SameLayout (bus other : Bus) : Prop where
  openBus : bus.openBus = other.openBus
  regions : List.Forall₂ (Region.SameLayout bus other) bus.regions other.regions
  same : ∀ a b, bus.same a b = other.same a b

/-- The first regions that hold an address are of the same layout. -/
theorem find?_of_sameLayout {bus other : Bus} {regions others : List Region}
    (h : List.Forall₂ (Region.SameLayout bus other) regions others) (a : Int) :
    (regions.find? (·.holds a) = none ∧ others.find? (·.holds a) = none) ∨
      ∃ region region', regions.find? (·.holds a) = some region ∧
        others.find? (·.holds a) = some region' ∧ region.SameLayout bus other region' := by
  induction h with
  | nil => exact .inl ⟨rfl, rfl⟩
  | @cons region region' _ _ hhead _ ih =>
    have hholds : region'.holds a = region.holds a := by
      rw [Region.holds, Region.holds, hhead.first, hhead.last]
    simp only [List.find?_cons, hholds]
    -- The ends are the same, so both regions hold the address or neither does.
    cases region.holds a with
    | true => exact .inr ⟨region, region', rfl, rfl, hhead⟩
    | false => exact ih

namespace SameLayout

variable {bus other : Bus}

theorem symm (h : bus.SameLayout other) : other.SameLayout bus where
  openBus := h.openBus.symm
  regions := List.Forall₂.flip <| h.regions.imp fun _ _ hregion =>
    have ⟨kind, cells, cells', hdevice, hdevice'⟩ := hregion.device
    ⟨hregion.first.symm, hregion.last.symm, kind, cells', cells, hdevice', hdevice⟩
  same a b := (h.same a b).symm

theorem allMemory (h : bus.SameLayout other) : bus.AllMemory :=
  have hboth := h.regions.imp fun _ _ hregion =>
    have ⟨kind, cells, _, hdevice, _⟩ := hregion.device
    And.intro (⟨kind, cells, hdevice⟩ : Device.IsMemory _) hregion
  ((List.forall₂_and_left _ _).mp hboth).1

theorem kind (h : bus.SameLayout other) (a : Int) :
    (bus.cells.cell? a).map Cell.kind = (other.cells.cell? a).map Cell.kind := by
  show (((bus.regions.find? _).map _).bind _).map _ = (((other.regions.find? _).map _).bind _).map _
  rcases find?_of_sameLayout h.regions a with ⟨hnone, hnone'⟩ | ⟨region, region', hsome, hsome', hr⟩
  · rw [hnone, hnone']
    rfl
  · obtain ⟨kind, cells, cells', hdevice, hdevice'⟩ := hr.device
    simp [hsome, hsome', Region.place, hdevice, hdevice', Device.cell?]

/-- Buses with the same layout agree, as soon as their records are fresh, wherever they look the
same. -/
theorem agrees (h : bus.SameLayout other) {seen : Int → Prop}
    (hpeek : ∀ a, seen a → bus.peek a = other.peek a) :
    (HostBus.takeActivity bus).2.Agrees seen (HostBus.takeActivity other).2 where
  left := h.allMemory
  right := h.symm.allMemory
  cells :=
    { openBus := h.openBus
      same := funext fun a => funext (h.same a)
      kind := h.kind
      cell? := by
        intro a ha
        -- The kinds of the cells are the same, and what is seen is their values.
        have hkind := h.kind a
        have hvalue := hpeek a ha
        rw [cells_peek h.allMemory, cells_peek h.symm.allMemory, CellBus.peek,
          CellBus.peek] at hvalue
        show bus.cells.cell? a = other.cells.cell? a
        generalize bus.cells.cell? a = cell, other.cells.cell? a = cell' at hkind hvalue
        obtain _ | ⟨kind, value⟩ := cell <;> obtain _ | ⟨kind', value'⟩ := cell' <;>
          simp_all
      exchanges := rfl }

end SameLayout

end Bus

/-! ## Steps -/

namespace Cpu

variable {variant : Variant}

/-- A step depends on the state, on the layout of the memories, and on the bytes that it has on
record as read. Whatever else the memories hold, the step ends in the same state with the same
operation and the same accesses; only the bytes that are replaced may be others. -/
theorem step_of_reads_eq {p q p' : Cpu variant Bus} {cycles : Int} {told : List Notice}
    (hlayout : p.bus.SameLayout q.bus) (hstate : p.state = q.state)
    (hstep : Processor.step p = ⟨.ok cycles, p', told⟩)
    (hreads : ∀ a b, .read a b ∈ p'.bus.activity → p.bus.peek a = q.bus.peek a) :
    ∃ q', Processor.step q = ⟨.ok cycles, q', told⟩ ∧ q'.state = p'.state ∧ q'.last = p'.last ∧
      q'.bus.activity.map Activity.exchange = p'.bus.activity.map Activity.exchange := by
  obtain ⟨operation, isInstruction, hturn, rfl, hcompleted⟩ := Processor.step_ok hstep
  let seen : Int → Prop := fun a => ∃ b, .read a b ∈ p'.bus.activity
  have hagrees : (HostBus.takeActivity p.bus).2.Agrees seen (HostBus.takeActivity q.bus).2 :=
    hlayout.agrees fun a ⟨b, hb⟩ => hreads a b hb
  have hpairs := hagrees.run ((mos variant).turn p.state)
  rw [hturn] at hpairs
  -- The record of the turn is that of the step, which is kept latest first.
  have hsame := hpairs fun a b hb => ⟨b, List.mem_reverse.mpr hb⟩
  rw [Processor.step_eq, ← hstate]
  generalize Dialogue.run ((mos variant).turn p.state) (HostBus.takeActivity q.bus).2 = o at hsame ⊢
  cases hsame with
  | ok _ hends =>
    obtain ⟨rfl, hstates, hbus⟩ := hends
    refine ⟨_, rfl, hstates.symm, ?_, ?_⟩
    · rw [hcompleted]
      rfl
    · show (List.reverse _).map _ = (List.reverse _).map _
      rw [List.map_reverse, List.map_reverse]
      exact congrArg List.reverse hbus.cells.exchanges.symm

/-- A break on a RAM full of zeros, and on one where a byte of the stack is another. The break
replaces this byte and does not read it. -/
theorem step_of_reads_eq_break :
    let p := new .nmos (Bus.ramOf (.uniform 0))
    let q := new .nmos (Bus.ramOf ((Bytes.uniform 0).set 16 0x1FD 0x5A))
    p.bus.SameLayout q.bus ∧ ∃ cycles p' told, Processor.step p = ⟨.ok cycles, p', told⟩ ∧
      (∀ a b, .read a b ∈ p'.bus.activity → p.bus.peek a = q.bus.peek a) ∧
      ∃ q', Processor.step q = ⟨.ok cycles, q', told⟩ ∧ q'.state = p'.state := by
  intro p q
  have hok : (Processor.step p).result.isOk = true := by decide +kernel
  have hactivity : (Processor.step p).machine.bus.activity =
      [.read 0 0, .write 0x1FD 0 (some 0), .write 0x1FC 2 (some 0), .write 0x1FB 0x34 (some 0),
        .read 0xFFFE 0, .read 0xFFFF 0] := by decide +kernel
  have hlayout : p.bus.SameLayout q.bus :=
    ⟨rfl, .cons ⟨rfl, rfl, .ram, _, _, rfl, rfl⟩ .nil, fun _ _ => rfl⟩
  rcases hstep : Processor.step p with ⟨_ | cycles, p', told⟩
  · simp [hstep, Except.isOk, Except.toBool] at hok
  · rw [hstep] at hactivity
    have hreads : ∀ a b, .read a b ∈ p'.bus.activity → p.bus.peek a = q.bus.peek a := by
      intro a b hab
      rw [show p'.bus.activity = _ from hactivity] at hab
      simp only [List.mem_cons, Activity.read.injEq, reduceCtorEq, false_or, List.not_mem_nil,
        or_false] at hab
      rcases hab with ⟨rfl, -⟩ | ⟨rfl, -⟩ | ⟨rfl, -⟩ <;> rfl
    obtain ⟨q', hq, hstate, -⟩ := step_of_reads_eq hlayout rfl hstep hreads
    exact ⟨hlayout, cycles, p', told, rfl, hreads, q', hq, hstate⟩

end Cpu

end Micro6502
