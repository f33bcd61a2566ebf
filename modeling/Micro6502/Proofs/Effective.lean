import Micro6502.Bus.Flat
import Micro6502.Proofs.Monitor
import Micro6502.Proofs.Target

/-!
# How operands are found

The rules of the addressing modes in plain integers: which bytes are read, in which order, and where
the operand is then. There are four ways to come around: an index wraps in page zero or at the end
of the bus, a pointer in page zero wraps in its page, and so does the pointer of an indirect jump.
The page is left exactly where adding to the low byte alone carries or borrows.

## Contents

- `Operand.At`, an operand in memory, on another page or not
- `Mode.Finds`, the rules of the modes
- `Operand.always_resolve_finds`, whatever the bus answers
- `Operand.resolve_effective`, on any host
-/

namespace Micro6502

/-! ## The rules -/

/-- The operand is the cell at an address, and it is on another page exactly under a condition. -/
structure Operand.At (o : Operand) (a : Int) (crosses : Prop) : Prop where
  location : o.location = .cell a
  pageCrossed : o.pageCrossed = true ↔ crosses

/-- The operand is the cell at a base address plus an index, around the end of the bus. It is on
another page if adding the index to the low byte of the base gives more than a byte. -/
def Operand.AtIndexed (o : Operand) (base : Address) (index : Byte) : Prop :=
  o.At ((base.toNat + index.toNat) % 0x10000) (256 ≤ base.toNat % 256 + index.toNat)

/-- What a mode finds with the program counter behind the opcode: the reads with their answers, the
first one in front, and the operand. All sums are sums of integers. -/
def Mode.Finds (r : Registers) (reads : List Exchange) (o : Operand) : Mode → Prop
  | .implied => reads = [] ∧ o.location = .nowhere ∧ o.pageCrossed = false
  | .accumulator => reads = [] ∧ o.location = .accumulator ∧ o.pageCrossed = false
  | .immediate => ∃ b,
    reads = [.read r.pc.toNat b] ∧ o.location = .value b ∧ o.pageCrossed = false
  | .zeroPage => ∃ base, reads = [.read r.pc.toNat base] ∧ o.At base.toNat False
  | .zeroPageX => ∃ base,
    reads = [.read r.pc.toNat base] ∧ o.At ((base.toNat + r.x.toNat) % 256) False
  | .zeroPageY => ∃ base,
    reads = [.read r.pc.toNat base] ∧ o.At ((base.toNat + r.y.toNat) % 256) False
  | .absolute => ∃ low high,
    reads = [.read r.pc.toNat low, .read (r.pc + 1).toNat high] ∧
    o.At (wordOf low high).toNat False
  | .absoluteX => ∃ low high,
    reads = [.read r.pc.toNat low, .read (r.pc + 1).toNat high] ∧
    o.AtIndexed (wordOf low high) r.x
  | .absoluteY => ∃ low high,
    reads = [.read r.pc.toNat low, .read (r.pc + 1).toNat high] ∧
    o.AtIndexed (wordOf low high) r.y
  | .indirect => ∃ (low high targetLow targetHigh : Byte) (next : Int),
    reads = [.read r.pc.toNat low, .read (r.pc + 1).toNat high,
      .read (wordOf low high).toNat targetLow, .read next targetHigh] ∧
    -- The pointer does not leave its page.
    next = 256 * high.toNat + (low.toNat + 1) % 256 ∧
    (low ≠ 0xFF → next = (wordOf low high).toNat + 1) ∧
    o.At (wordOf targetLow targetHigh).toNat False
  | .indexedIndirect => ∃ (base low high : Byte) (p : Int),
    p = (base.toNat + r.x.toNat) % 256 ∧
    reads = [.read r.pc.toNat base, .read p low, .read ((p + 1) % 256) high] ∧
    o.At (wordOf low high).toNat False
  | .indirectIndexed => ∃ base low high,
    reads = [.read r.pc.toNat base, .read base.toNat low, .read ((base.toNat + 1) % 256) high] ∧
    o.AtIndexed (wordOf low high) r.y
  | .relative => ∃ (offset : Byte) (behind a : Int),
    reads = [.read r.pc.toNat offset] ∧ behind = (r.pc + 1).toNat ∧
    a = (behind + offset.toInt) % 0x10000 ∧ o.At a (a / 256 ≠ behind / 256) ∧
    -- The sum with the low byte tells this too, before it is cut off.
    (a / 256 ≠ behind / 256 ↔
      behind % 256 + offset.toInt < 0 ∨ 255 < behind % 256 + offset.toInt)

/-! ## Pages -/

theorem Operand.atIndexed_indexed (mode : Mode) (base : Address) (index : Byte)
    (bytes : List Byte) : (indexed mode base index bytes).AtIndexed base index := by
  have hlow : (lowByte base).toNat = base.toNat % 256 := by
    simp [lowByte, BitVec.extractLsb'_toNat]
  refine ⟨rfl, ?_⟩
  show crossesPage base.toNat ((base.toNat + index.toNat) % 0x10000) = true ↔ _
  -- The page is left where the index carries out of the low byte.
  rw [crossesPage_index, indexCarries, decide_eq_true_iff, hlow]

/-- Without an index nothing wraps. -/
theorem Operand.at_indexed_zero (mode : Mode) (base : Address) (bytes : List Byte) :
    (indexed mode base 0 bytes).At base.toNat False := by
  have hbase := base.isLt
  have hzero : (0 : Byte).toNat = 0 := rfl
  obtain ⟨hlocation, hcrossed⟩ := atIndexed_indexed mode base 0 bytes
  rw [hzero] at hlocation hcrossed
  refine ⟨hlocation.trans (congrArg Location.cell (by omega)), hcrossed.trans ?_⟩
  rw [iff_false]
  omega

theorem crossesPage_iff {a b : Int} (ha : 0 ≤ a ∧ a ≤ 0xFFFF) (hb : 0 ≤ b ∧ b ≤ 0xFFFF) :
    crossesPage a b = true ↔ b / 256 ≠ a / 256 := by
  rw [crossesPage, bne_iff_ne]
  omega

/-- The second byte of an indirect target. -/
theorem next_in_page (low high : Byte) :
    (if low = 0xFF then ((wordOf low high).toNat : Int) - 0xFF else (wordOf low high).toNat + 1) =
      256 * high.toNat + (low.toNat + 1) % 256 := by
  rw [← toNat_next_in_page, toNat_wordOf, BitVec.toNat_add]
  have hone : (1 : Byte).toNat = 1 := rfl
  omega

/-! ## Finding the operand -/

namespace Operand

/-- Whatever the bus answers, a mode finds the operand by its rules. -/
theorem always_resolve_finds (mode : Mode) (r : Registers) (past : List Exchange) :
    (resolve mode r).Always (fun _ _ _ => True)
      (fun past' _ o => ∃ reads, past' = reads.reverse ++ past ∧ mode.Finds r reads o) past := by
  cases mode with
  | implied => exact ⟨[], rfl, rfl, rfl, rfl⟩
  | accumulator => exact ⟨[], rfl, rfl, rfl, rfl⟩
  | immediate => exact ⟨trivial, fun b => ⟨[.read _ b], rfl, b, rfl, rfl, rfl⟩⟩
  | zeroPage =>
    refine ⟨trivial, fun base => ⟨[.read _ base], rfl, base, rfl, ?_, ?_⟩⟩
    · have hbase := base.isLt
      have hzero : (0 : Byte).toNat = 0 := rfl
      show Location.cell ((base.toNat + (0 : Byte).toNat) % 0x100) = .cell base.toNat
      rw [hzero]
      exact congrArg Location.cell (by omega)
    · exact iff_of_false Bool.false_ne_true id
  | zeroPageX | zeroPageY =>
    exact ⟨trivial, fun base =>
      ⟨[.read _ base], rfl, base, rfl, rfl, iff_of_false Bool.false_ne_true id⟩⟩
  -- Without an index the address is the word that was read.
  | absolute =>
    refine ⟨trivial, fun low => ⟨trivial, fun high => ?_⟩⟩
    exact ⟨[.read _ low, .read _ high], rfl, low, high, rfl, at_indexed_zero _ _ _⟩
  | absoluteX | absoluteY =>
    refine ⟨trivial, fun low => ⟨trivial, fun high => ?_⟩⟩
    exact ⟨[.read _ low, .read _ high], rfl, low, high, rfl, atIndexed_indexed _ _ _ _⟩
  | indirect =>
    refine ⟨trivial, fun low => ⟨trivial, fun high => ⟨trivial, fun targetLow => ⟨trivial,
      fun targetHigh => ?_⟩⟩⟩⟩
    refine ⟨[.read _ low, .read _ high, .read _ targetLow, .read _ targetHigh], rfl, low, high,
      targetLow, targetHigh, _, rfl, next_in_page low high, fun hlow => if_neg hlow, rfl, ?_⟩
    exact iff_of_false Bool.false_ne_true id
  | indexedIndirect =>
    refine ⟨trivial, fun base => ⟨trivial, fun low => ⟨trivial, fun high => ?_⟩⟩⟩
    refine ⟨[.read _ base, .read _ low, .read _ high], rfl, base, low, high, _, rfl, ?_, rfl,
      iff_of_false Bool.false_ne_true id⟩
    rw [Int.emod_add_emod]
  | indirectIndexed =>
    refine ⟨trivial, fun base => ⟨trivial, fun low => ⟨trivial, fun high => ?_⟩⟩⟩
    refine ⟨[.read _ base, .read _ low, .read _ high], rfl, base, low, high, ?_,
      atIndexed_indexed _ _ _ _⟩
    -- The pointer itself is a byte, so only its successor comes around.
    have hbase : (base.toNat : Int) % 0x100 = base.toNat := by
      have := base.isLt
      omega
    rw [hbase]
  | relative =>
    refine ⟨trivial, fun offset => ⟨[.read _ offset], rfl, offset, _, _, rfl, rfl, rfl, ⟨rfl, ?_⟩,
      ?_⟩⟩
    · exact crossesPage_iff (Access.address_bounds _) ⟨by omega, by omega⟩
    · have hbehind := (r.pc + 1).isLt
      have hlow := BitVec.le_toInt offset
      have hhigh := BitVec.toInt_lt (x := offset)
      omega

/-- There are reads only, and they ask for addresses on the bus. No register but the program counter
has changed when one is made. -/
theorem always_resolve_pc (mode : Mode) (r : Registers) (past : List Exchange) :
    (resolve mode r).Always
      (fun _ s x => (∃ a, x = .read a ∧ x.Proper) ∧ s = { r with pc := s.pc })
      (fun _ _ _ => True) past := by
  have hlooks : Action.Looks (fun s : Registers => { s with pc := 0 }) (resolve mode) :=
    looks_resolve (fun _ _ => rfl) mode
  refine ((always_resolve mode r past).and (hlooks r past)).mono ?_ fun _ _ _ _ => trivial
  rintro _ s x ⟨hproper, ⟨a, hread⟩, hs, -⟩
  exact ⟨⟨a, hread, hproper⟩, congrArg (fun t : Registers => { t with pc := s.pc }) hs⟩

/-! ## On a host -/

/-- Operands are found by the rules of their modes, on any bus that answers.

A monitor sees the reads of a mode with their answers; it changes nothing. Where the bus answers all
addresses that it has, there is an operand, found by the rules, and its address is on the bus. No
register but the program counter changes, and it ends behind the operand bytes. -/
theorem resolve_effective {β : Type} [HostBus β] (mode : Mode) (r : Registers) (host : β) :
    let seen := (resolve mode r).run (⟨host, [], []⟩ : Monitored β)
    (seen.mapMachine fun m => (m.1.host, m.2)) = (resolve mode r).run host ∧
    seen.Satisfies
      (fun o m => m.2 = { r with pc := r.pc + BitVec.ofNat 16 mode.operandLength } ∧
        mode.Finds r m.1.exchanges.reverse o ∧ o.OnBus)
      (fun _ m => m.2 = { r with pc := m.2.pc }) ∧
    ((∀ a (bus : β), (Access.read a).Proper → ∃ b, (HostBus.read a bus).result = .ok b) →
      ∃ o, seen.result = .ok o) := by
  intro seen
  -- What is found, by which rule and with which reads holds of the one dialogue.
  have hfinds := (always_resolve mode r []).and (always_resolve_finds mode r [])
  have hresolve := (hfinds.and (always_resolve_pc mode r [])).mono (fun _ _ _ h => h.2)
    fun _ _ _ h => h.1
  have hsame := Dialogue.run_monitored (resolve mode r) (⟨host, [], []⟩ : Monitored β)
  refine ⟨hsame, ?_, fun hanswers => ?_⟩
  · refine (hresolve.run_seen host).mono ?_ ?_
    · rintro o m ⟨⟨hm, hfits⟩, reads, hreads, hfound⟩
      rw [List.append_nil] at hreads
      rw [hreads, List.reverse_reverse]
      exact ⟨hm, hfound, hfits.onBus⟩
    · rintro _ m ⟨_, -, hm⟩
      exact hm
  · -- The host has the same result without the monitor, and it refuses nothing that is asked.
    have hok : ∃ o, ((resolve mode r).run host).result = .ok o := by
      refine hresolve.exists_ok ?_ ?_ host
      · rintro _ _ a ⟨⟨_, -, hproper⟩, -⟩ bus
        exact hanswers a bus hproper
      · rintro _ _ _ _ ⟨⟨_, hread, -⟩, -⟩
        exact nomatch hread
    rwa [← hsame] at hok

/-- A branch back over the start of the bus. -/
theorem resolve_effective_around :
    let r := { Registers.initial with pc := 0x0010 }
    let seen := (resolve .relative r).run
      (⟨FlatBus.zeroed.store 0x0010 0x80, [], []⟩ : Monitored FlatBus)
    (∀ a (bus : FlatBus), (Access.read a).Proper → ∃ b, (HostBus.read a bus).result = .ok b) ∧
      seen.result.toOption = some ⟨.relative, .cell 0xFF91, true, [0x80]⟩ ∧
      seen.machine.2 = { r with pc := 0x0011 } ∧
      Mode.relative.Finds r seen.machine.1.exchanges.reverse
        ⟨.relative, .cell 0xFF91, true, [0x80]⟩ := by
  intro r seen
  have hanswers (a : Int) (bus : FlatBus) (_ : (Access.read a).Proper) :
      ∃ b, (HostBus.read a bus).result = .ok b := ⟨bus.peek a, rfl⟩
  have hfound : seen.result.toOption = some ⟨.relative, .cell 0xFF91, true, [0x80]⟩ := by
    decide +kernel
  obtain ⟨-, hfinds, hok⟩ := resolve_effective .relative r (FlatBus.zeroed.store 0x0010 0x80)
  obtain ⟨o, ho⟩ := hok hanswers
  have hsame : o = ⟨.relative, .cell 0xFF91, true, [0x80]⟩ := by
    rw [ho] at hfound
    exact Option.some.inj hfound
  obtain ⟨hpc, hrule, -⟩ := hfinds.of_ok ho
  rw [hsame] at hrule
  exact ⟨hanswers, hfound, hpc, hrule⟩

end Operand

end Micro6502
