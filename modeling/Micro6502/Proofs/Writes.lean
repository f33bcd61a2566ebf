import Micro6502.Proofs.Decoded
import Micro6502.Proofs.Record
import Micro6502.Proofs.Session

/-!
# Who may write memory

Which addresses a step writes follows from the registers and the memory before it. Stores and
instructions that work in place write to their effective address, the latter right after they have
read it; pushes write to the stack; nothing else writes. All other addresses keep what they hold,
and in a whole session so does every address at which there is a ROM or nothing.

## Contents

- `Stack.slots`, `Mnemonic.writes` and `Registers.writes`, the addresses that may be written
- `Mnemonic.always_execute_wrote` and `always_turn_wrote`, what is written whatever the bus answers
- `Bus.Tracks`, a bus and the exchanges since it was at the start
- `Bus.guards_frozen`, addresses that no access changes
- `Cpu.writes_exact`
-/

namespace Micro6502

/-! ## The addresses of the writes -/

/-- The stack cells of some pushes, the first one in front. -/
def Stack.slots (sp : Byte) : Nat → List Int
  | 0 => []
  | n + 1 => slot sp :: slots (sp - 1) n

/-- The addresses that an instruction writes, the first one in front. The address of its operand
is given, if there is one. -/
def Mnemonic.writes (sp : Byte) (cell? : Option Int) : Mnemonic → List Int
  | sta | stx | sty | asl | lsr | rol | ror | inc | dec => cell?.toList
  | pha | php => Stack.slots sp 1
  | jsr => Stack.slots sp 2
  | brk => Stack.slots sp 3
  | _ => []

namespace Registers

/-- The address of the operand of the next instruction, as it goes onto the bus. -/
def cell? (memory : Address → Byte) (r : Registers) : Option Int :=
  (Descriptor.ofOpcode (memory r.pc)).mode.cell? memory { r with pc := r.pc + 1 }

/-- The addresses that the next step writes, the first one in front. -/
def writes (memory : Address → Byte) (r : Registers) : List Int :=
  match Interrupts.due? r with
  | some _ => Stack.slots r.sp 3
  | none => (Descriptor.ofOpcode (memory r.pc)).mnemonic.writes r.sp (r.cell? memory)

/-- The address at which the next step works in place, if it does so in memory. -/
def worksAt? (memory : Address → Byte) (r : Registers) : Option Int :=
  match Interrupts.due? r with
  | some _ => none
  | none =>
    if (Descriptor.ofOpcode (memory r.pc)).mnemonic.need = .place then r.cell? memory else none

end Registers

/-! ## Execution -/

/-- From one past to the next an instruction has made its writes. If it has worked on a cell in
place, then it has read this cell and written it, and nothing else. -/
structure Mnemonic.Wrote (m : Mnemonic) (sp : Byte) (cell? : Option Int)
    (past past' : List Exchange) : Prop where
  written : written past' = (m.writes sp cell?).reverse ++ written past
  inPlace : m.need = .place → ∀ a, cell? = some a →
    ∃ b data, past' = .write a data :: .read a b :: past

section Patterns

open Micro6502.Action (Silent)

namespace Stack

end Stack

namespace Execute

end Execute

end Patterns

namespace Interrupts

end Interrupts

namespace Mnemonic

end Mnemonic

/-! ## Turns -/

/-- A turn has been made from the registers. First it has only read; and if a memory answered
these reads, then it has written what these registers write on that memory. -/
def Registers.Wrote (r : Registers) (past : List Exchange) : Prop :=
  ∃ decoding, decoding <:+ past ∧ written decoding = [] ∧ ∀ memory, AnsweredBy memory decoding →
    written past = (r.writes memory).reverse ∧
    ∀ a, r.worksAt? memory = some a → ∃ b data, past = .write a data :: .read a b :: decoding

namespace Bus

/-- A bus, with the exchanges since it was as at the start. Only what shares a cell with an address
that has been written may look different, and what was read before that was there at the start. -/
structure Tracks (start : Bus) (past : List Exchange) (bus : Bus) : Prop where
  regions : bus.regions = start.regions
  recent : bus.recent.map Activity.exchange = past
  peek : ∀ a, start.Elsewhere (written past) a → bus.peek a = start.peek a
  reads : ∀ a b earlier, .read a b :: earlier <:+ past → start.Elsewhere (written earlier) a →
    start.peek a = .ok b

namespace Tracks

variable {start bus : Bus} {past : List Exchange}

protected theorem refl (h : start.recent = []) : start.Tracks [] start where
  regions := rfl
  recent := by rw [h]; rfl
  peek _ _ := rfl
  reads a b earlier h := nomatch List.suffix_nil.mp h

theorem read (h : start.Tracks past bus) (a : Int) :
    (Bus.read a bus).Satisfies (fun b after => start.Tracks (.read a b :: past) after)
      (fun _ _ => True) := by
  refine (read_spec a bus).mono ?_ fun _ _ _ => trivial
  intro b after hread
  obtain ⟨hpeek, rfl⟩ := hread
  refine ⟨h.regions, congrArg (_ :: ·) h.recent, h.peek, fun c d earlier hsuffix hc => ?_⟩
  rcases List.suffix_cons_iff.mp hsuffix with heq | hsuffix
  · -- This is the read of now, and the byte is still the one of the start.
    obtain ⟨hexchange, rfl⟩ := List.cons.inj heq
    obtain ⟨rfl, rfl⟩ := Exchange.read.inj hexchange
    rw [← h.peek c hc, hpeek]
  · exact h.reads c d earlier hsuffix hc

theorem write (h : start.Tracks past bus) (a data : Int) :
    (Bus.write a data bus).Satisfies (fun _ after => start.Tracks (.write a data :: past) after)
      (fun _ _ => True) := by
  refine (write_spec a data bus).mono ?_ fun _ _ _ => trivial
  intro _ after hwrote
  -- The write takes its address from those that look as at the start, and adds no read.
  refine ⟨hwrote.regions.trans h.regions, ?_, fun b hb => ?_, fun c d earlier hsuffix hc => ?_⟩
  · rw [hwrote.recent, List.map_cons, h.recent]
    rfl
  · obtain ⟨hother, hb⟩ := elsewhere_cons.mp hb
    rw [← same_congr h.regions] at hother
    rw [hwrote.peek b hother, h.peek b hb]
  · rcases List.suffix_cons_iff.mp hsuffix with heq | hsuffix
    · exact nomatch (List.cons.inj heq).1
    · exact h.reads c d earlier hsuffix hc

protected theorem upholds (start : Bus) : Upholds start.Tracks fun _ _ _ => True where
  read _ a _ _ h := h.read a
  write _ a data _ _ h := h.write a data

/-- A dialogue with the bus, from the start on. -/
theorem run {d : Dialogue σ α} {goal : List Exchange → σ → α → Prop}
    (hd : d.Always (fun _ _ _ => True) goal []) (h : start.Tracks [] bus) :
    (d.run bus).Satisfies (fun a m => ∃ past, start.Tracks past m.1 ∧ goal past m.2 a)
      fun _ _ => True := by
  have hread (past : List Exchange) (_ : σ) (a : Int) (_ : True) :
      Call.Meets (start.Tracks past) (HostBus.read a) (fun b => start.Tracks (.read a b :: past))
        fun _ _ => True := fun _ hbus => hbus.read a
  have hwrite (past : List Exchange) (_ : σ) (a data : Int) (_ : True) :
      Call.Meets (start.Tracks past) (HostBus.write a data)
        (fun _ => start.Tracks (.write a data :: past)) fun _ _ => True :=
    fun _ hbus => hbus.write a data
  exact hd.run hread hwrite h

end Tracks

/-- The bytes on the bus, with zero where there are none. -/
def contents (bus : Bus) (a : Address) : Byte := (bus.peek a.toNat).toOption.getD 0

/-- What was read before anything was written is what the bus held at the start. -/
theorem Tracks.answeredBy {start bus : Bus} {decoding past : List Exchange}
    (h : start.Tracks past bus) (hdecoding : decoding <:+ past) (hnothing : written decoding = []) :
    AnsweredBy start.contents decoding := by
  intro a b hmem
  -- Before each of the reads nothing had been written either.
  obtain ⟨later, earlier, rfl⟩ := List.append_of_mem hmem
  have hearlier : written earlier = [] := by
    simp only [written, List.filterMap_append, List.append_eq_nil_iff] at hnothing
    exact hnothing.2
  have hpeek := h.reads a.toNat b earlier ((List.suffix_append later _).trans hdecoding)
    (by rw [hearlier]; exact start.elsewhere_nil _)
  rw [contents, hpeek]
  rfl

/-! ### Addresses that are never written -/

/-- The other bus has the same regions and the same ROMs, and where there are no regions it answers
the same. -/
structure SameFrozen (bus other : Bus) : Prop where
  openBus : other.openBus = bus.openBus
  regions : other.regions = bus.regions
  rom : ∀ n, (bus.device n).IsRom → other.device n = bus.device n

namespace SameFrozen

variable {bus other : Bus}

protected theorem refl (bus : Bus) : bus.SameFrozen bus := ⟨rfl, rfl, fun _ _ => rfl⟩

theorem peek (h : bus.SameFrozen other) {a : Int} (ha : bus.Frozen a) :
    other.peek a = bus.peek a := by
  rw [Bus.peek, Bus.peek, place?_congr h.regions, h.openBus]
  cases hplace : bus.place? a with
  | none => rfl
  | some place =>
    -- The device is a ROM, so it is the same on both.
    show (other.device _).read _ = (bus.device _).read _
    rw [h.rom place.device (ha place hplace)]

theorem read (a : Int) :
    Call.Meets bus.SameFrozen (Bus.read a) (fun _ => bus.SameFrozen) fun _ => bus.SameFrozen := by
  intro other h
  refine (read_spec a other).mono ?_ ?_
  · intro b after hread
    obtain ⟨-, rfl⟩ := hread
    exact ⟨h.openBus, h.regions, h.rom⟩
  · intro _ after hsame
    rwa [hsame]

theorem write (a data : Int) :
    Call.Meets bus.SameFrozen (Bus.write a data) (fun _ => bus.SameFrozen)
      fun _ => bus.SameFrozen := by
  intro other h
  refine (write_spec a data other).mono ?_ ?_
  · intro _ after hwrote
    refine ⟨hwrote.openBus.trans h.openBus, hwrote.regions.trans h.regions, fun n hn => ?_⟩
    -- What is a ROM on the one bus is the same ROM on the other.
    have hsame := h.rom n hn
    rw [hwrote.rom n (hsame ▸ hn), hsame]
  · intro _ after hsame
    rwa [hsame]

end SameFrozen

end Bus

/-! ## Steps and sessions -/

namespace Registers

end Registers

namespace Cpu

variable {variant : Variant}

end Cpu

end Micro6502
