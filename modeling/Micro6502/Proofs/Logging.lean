import Micro6502.Proofs.Cells
import Micro6502.Proofs.Session
import Micro6502.Bus.Flat

/-!
# Records have no influence

A flat bus answers everything and keeps no record; a mapped bus looks for the region, checks the
offset and the byte, and puts the access on record. Where a mapped bus has RAM at all addresses
with the bytes of the flat bus, a processor cannot tell the two from each other: all replies are
the same, but for the records that they show.

## Contents

- `FlatBus.Mirrors`, the same bytes on a flat bus and in the RAM of a mapped one
- `FlatBus.indistinguishable_mirrors`
- `Reply.withoutActivity`, what a reply shows besides the record
- `Cpu.session_mirrors`
-/

namespace Micro6502

/-! ## A flat bus and a bus of RAM -/

namespace FlatBus

/-- The mapped bus has RAM at all addresses, which share no cells, and it holds what the flat bus
holds. -/
structure Mirrors (flat : FlatBus) (bus : Bus) : Prop where
  allMemory : bus.AllMemory
  apart : bus.Apart
  cell? : ∀ a, 0 ≤ a → a ≤ 0xFFFF → bus.cells.cell? a = some ⟨.ram, flat.peek a⟩

/-- On the bus different integers are different addresses. -/
theorem address_inj {a b : Int} (ha : 0 ≤ a ∧ a ≤ 0xFFFF) (hb : 0 ≤ b ∧ b ≤ 0xFFFF) :
    address b = address a ↔ b = a := by
  refine ⟨fun h => ?_, congrArg address⟩
  have hnat := congrArg BitVec.toNat h
  simp only [address, BitVec.toNat_ofInt] at hnat
  omega

theorem Mirrors.peek {flat : FlatBus} {bus : Bus} (h : flat.Mirrors bus) {a : Int} (ha : 0 ≤ a)
    (ha' : a ≤ 0xFFFF) : bus.peek a = .ok (flat.peek a) := by
  rw [Bus.cells_peek h.allMemory, CellBus.peek, h.cell? a ha ha']

/-- One RAM at all addresses with the bytes of a flat bus. -/
theorem mirrors_ramOf {flat : FlatBus} {bytes : Bytes}
    (h : ∀ a, 0 ≤ a → a ≤ 0xFFFF → bytes.get a.toNat = flat.peek a) :
    flat.Mirrors (Bus.ramOf bytes) where
  allMemory := Bus.allMemory_ramOf bytes
  apart := Bus.apart_ramOf bytes
  cell? a ha ha' := by
    rw [← h a ha ha']
    simp [Bus.cells, Bus.place?, Bus.regionAt?, Bus.device, Bus.ramOf, Region.holds, Region.place,
      Device.cell?, Memory.get, ha, ha']

/-- A processor cannot tell a flat bus from a bus of RAM with the same bytes. -/
theorem indistinguishable_mirrors : Indistinguishable Mirrors where
  read a hproper flat bus h := by
    -- The address has a cell of RAM, so the read is answered with what the flat bus holds.
    have hread := Bus.cells_read h.allMemory a
    rw [CellBus.read, h.cell? a hproper.1 hproper.2] at hread
    have hall := Bus.allMemory_read h.allMemory a
    show Outcome.Pairs _ _ _ (Bus.read a bus)
    generalize Bus.read a bus = o at hread hall
    obtain ⟨result, after, told⟩ := o
    obtain ⟨rfl, hcells, rfl⟩ := Outcome.mk.inj hread
    -- Only the record has changed.
    have hsame : after.same = bus.same := congrArg CellBus.same hcells
    exact .ok [] ⟨rfl, hall, fun b c hbc => h.apart b c (hsame ▸ hbc),
      fun b hb hb' => by rw [hcells]; exact h.cell? b hb hb'⟩
  write a data hproper flat bus h := by
    obtain ⟨⟨ha, ha'⟩, hdata⟩ := hproper
    have hbyte : isByte data = true := isByte_iff.mpr hdata
    -- Both store the byte: one at the address, the other in the cell of it.
    obtain ⟨hwrite, hall⟩ := Bus.cells_write h.allMemory a data
    simp only [CellBus.write, h.cell? a ha ha', hbyte, if_true] at hwrite
    show Outcome.Pairs _ _ _ (Bus.write a data bus)
    generalize Bus.write a data bus = o at hwrite hall
    obtain ⟨result, after, told⟩ := o
    obtain ⟨rfl, hcells, rfl⟩ := Outcome.mk.inj hwrite
    have hsame : after.same = bus.same := congrArg CellBus.same hcells
    refine .ok [] ⟨hall, fun b c hbc => h.apart b c (hsame ▸ hbc), fun b hb hb' => ?_⟩
    show after.cells.cell? b = some ⟨.ram, (flat.store a data).peek b⟩
    have hput : bus.cells.put a ⟨.ram, byte data⟩ = _ := CellBus.put_of_apart h.apart.same_eq a _
    rw [hcells, peek_store, hput]
    -- No other address shares the cell, so the stores differ at no address.
    simp only [address_inj ⟨ha, ha'⟩ ⟨hb, hb'⟩, CellBus.record]
    split
    · rfl
    · exact h.cell? b hb hb'
  takeActivity flat bus h := ⟨h.allMemory, h.apart, h.cell?⟩

end FlatBus

/-! ## Sessions -/

/-- What a reply shows besides the record of the bus. -/
def Reply.withoutActivity : Reply α → Reply α
  | snapshot s => snapshot { s with activity := [] }
  | reply => reply

namespace Cpu

open FlatBus (Mirrors indistinguishable_mirrors)

variable {variant : Variant}

/-- The proper accesses as requests of the host. -/
def makeProper [HostBus β] (x : {x : Access // x.Proper}) : Call β (Option Byte) := x.1.make

/-- Calls that lead to the same result lead to the same reply. -/
theorem relates_reply {x : Call (Cpu variant FlatBus) δ} {y : Call (Cpu variant Bus) δ}
    (h : Follows Mirrors True x y) {reply : δ → Reply α}
    (hreply : ∀ a, (reply a).withoutActivity = reply a) :
    Call.Relates (Related Mirrors True) (x >>= fun a => pure (reply a))
      (y >>= fun a => pure (reply a))
      (fun a p b q => a = b.withoutActivity ∧ Related Mirrors True p q) (Related Mirrors True) := by
  refine Call.Relates.bind h ?_
  intro a b p q hab
  obtain ⟨rfl, hpq⟩ := hab
  exact .ok [] ⟨(hreply a).symm, hpq⟩

/-- Proper accesses of the host have the same answers on both. -/
theorem relates_make (x : {x : Access // x.Proper}) :
    Call.Relates Mirrors (makeProper x) (makeProper x)
      (fun a flat b bus => a = b ∧ Mirrors flat bus) Mirrors := by
  obtain ⟨x, hproper⟩ := x
  cases x with
  | read a =>
    refine (indistinguishable_mirrors.read a hproper).bind ?_
    intro v w flat bus h
    obtain ⟨rfl, hbus⟩ := h
    exact .ok [] ⟨rfl, hbus⟩
  | write a data =>
    refine (indistinguishable_mirrors.write a data hproper).bind ?_
    intro _ _ flat bus h
    exact .ok [] ⟨rfl, h⟩

theorem relates_obey (command : Command {x : Access // x.Proper}) :
    Call.Relates (Related Mirrors True)
      (obey makeProper command : Call (Cpu variant FlatBus) (Reply (Option Byte)))
      (obey makeProper command : Call (Cpu variant Bus) (Reply (Option Byte)))
      (fun a p b q => a = b.withoutActivity ∧ Related Mirrors True p q) (Related Mirrors True) := by
  have hS := indistinguishable_mirrors
  cases command with
  | step => exact relates_reply (follows_step hS) fun _ => rfl
  | run budget => exact relates_reply (follows_run hS budget) fun _ => rfl
  | trace =>
    -- Nothing is on the record of the flat bus, whatever is on that of the other.
    let records : List Activity → List Activity → Prop := fun flat _ => flat = []
    have hrecords (flat : FlatBus) (bus : Bus) (_ : flat.Mirrors bus) :
        records (HostBus.takeActivity flat).1 (HostBus.takeActivity bus).1 := rfl
    refine (relates_trace_records hS hS.takeActivity hrecords).bind ?_
    intro t u p q h
    obtain ⟨⟨hoperation, htotal, hempty, hstate⟩, hpq⟩ := h
    refine .ok [] ⟨?_, hpq⟩
    simp only [Trace.snapshot, Reply.withoutActivity, hoperation, htotal trivial, hstate,
      show t.activity = [] from hempty]
  | reset => exact relates_reply (follows_reset hS) fun _ => rfl
  | request source => exact relates_reply (follows_request source) fun _ => rfl
  | withdraw => exact relates_reply follows_withdraw fun _ => rfl
  | restore r => exact relates_reply (follows_restore r) fun _ => rfl
  | bus x =>
    -- An access of the host changes nothing of the processor but its bus.
    have hmake : Follows Mirrors True
        (Processor.onBus (makeProper x) : Call (Cpu variant FlatBus) (Option Byte))
        (Processor.onBus (makeProper x) : Call (Cpu variant Bus) (Option Byte)) := by
      intro p q hpq
      refine ((relates_make x p.bus q.bus hpq.bus).mono ?_ ?_).mapMachine
      · intro a flat b bus h
        exact ⟨h.1, { hpq with bus := h.2 }⟩
      · intro flat bus h
        exact { hpq with bus := h }
    exact relates_reply hmake fun _ => rfl

/-- The record of a bus has no influence.

On a flat bus, and on a mapped bus with RAM at all addresses, a processor gives the same replies to
all commands but for the accesses that a trace shows, of which the flat bus has none. After each of
them the state, the counts, the last operation and the memory are the same. -/
theorem session_mirrors {p : Cpu variant FlatBus} {q : Cpu variant Bus}
    (hbus : p.bus.Mirrors q.bus) (hstate : p.state = q.state) (hclock : p.clock = q.clock)
    (hlast : p.last = q.last) (commands : List (Command {x : Access // x.Proper})) :
    let flat := session makeProper commands p
    let mapped := session makeProper commands q
    flat.1 = mapped.1.map (Except.map Reply.withoutActivity) ∧
      (∀ a, 0 ≤ a → a ≤ 0xFFFF → mapped.2.bus.peek a = .ok (flat.2.bus.peek a)) ∧
      flat.2.state = mapped.2.state ∧ flat.2.clock = mapped.2.clock ∧
      flat.2.last = mapped.2.last ∧ (HostBus.takeActivity flat.2.bus).1 = [] := by
  intro flat mapped
  have hpq : Related Mirrors True p q := ⟨hbus, hstate, fun _ => hclock, fun _ => hlast⟩
  obtain ⟨hreplies, hrelated⟩ := session_relates makeProper relates_obey commands hpq
  exact ⟨hreplies, fun a ha ha' => hrelated.bus.peek ha ha', hrelated.state,
    hrelated.clock trivial, hrelated.last trivial, rfl⟩

/-- A load instruction is written to memory full of zeros, then a reset and two steps are made. -/
theorem session_mirrors_zeroed :
    let p := new .nmos FlatBus.zeroed
    let q := new .nmos (Bus.ramOf (.uniform 0))
    let commands : List (Command {x : Access // x.Proper}) :=
      [.bus ⟨.write 0 0xA9, ⟨by decide, by decide⟩, by decide, by decide⟩, .reset, .trace, .run 7]
    p.bus.Mirrors q.bus ∧ p.state = q.state ∧ p.clock = q.clock ∧ p.last = q.last ∧
      (session makeProper commands p).1 =
        (session makeProper commands q).1.map (Except.map Reply.withoutActivity) := by
  intro p q commands
  have hbus : p.bus.Mirrors q.bus := FlatBus.mirrors_ramOf fun _ _ _ => rfl
  exact ⟨hbus, rfl, rfl, rfl, (session_mirrors hbus rfl rfl rfl commands).1⟩

end Cpu

end Micro6502
