import Micro6502.Bus.Flat
import Micro6502.Proofs.Session
import Micro6502.Proofs.Simulation

/-!
# The chip with and the chip without a decimal mode

Both chips make the same accesses and end in the same state, but for one case: an addition or a
subtraction with the decimal flag set. Even then they differ only in what the correction of the
digits touches.

## Contents

- `Registers.SameButSum` and `Registers.SameButA`, what a correction touches
- `Operation.Deviates`, how far the chips may be apart after a turn, and `alike_turn`
- `Cpu.Twins`, processors of the two chips that look the same
- `Cpu.CleanSession`, sessions without decimal arithmetic
- `Cpu.variants_agree`
-/

namespace Micro6502

/-! ## What a correction touches -/

/-- The registers differ at most in the accumulator and in the flags N, V and C. -/
def Registers.SameButSum (r s : Registers) : Prop :=
  s = { r with
    a := s.a
    status := { r.status with
      negative := s.status.negative
      overflow := s.status.overflow
      carry := s.status.carry } }

/-- The registers differ at most in the accumulator. -/
def Registers.SameButA (r s : Registers) : Prop := s = { r with a := s.a }

namespace Arithmetic

/-- The zero flag of a decimal addition is that of the binary sum. -/
theorem sameButSum_add (r : Registers) (m : Byte) :
    (addDecimal r m).SameButSum (addBinary r m) := by
  have hzero (sum : Nat) : (BitVec.ofNat 8 sum == 0) = (sum % 256 == 0) := by
    rw [Bool.eq_iff_iff, beq_iff_eq, beq_iff_eq, ← BitVec.toNat_inj]
    rfl
  unfold Registers.SameButSum addBinary addDecimal
  simp only [hzero]

theorem sameButA_subtract (r : Registers) (m : Byte) :
    (subtractDecimal r m).SameButA (subtractBinary r m) := rfl

end Arithmetic

namespace Variant

/-- The chips add alike, or the decimal flag is set and only the sum differs. -/
theorem add_cases (r : Registers) (m : Byte) :
    nmos.add r m = ricoh2A03.add r m ∨
      r.status.decimal = true ∧ (nmos.add r m).SameButSum (ricoh2A03.add r m) := by
  -- With the flag clear both chips add in binary.
  cases h : r.status.decimal with
  | false => exact Or.inl (by simp [add, hasDecimal, h])
  | true =>
    refine Or.inr ⟨rfl, ?_⟩
    rw [show nmos.add r m = Arithmetic.addDecimal r m by simp [add, hasDecimal, h]]
    exact Arithmetic.sameButSum_add r m

/-- The chips subtract alike, or the decimal flag is set and only the difference differs. -/
theorem subtract_cases (r : Registers) (m : Byte) :
    nmos.subtract r m = ricoh2A03.subtract r m ∨
      r.status.decimal = true ∧ (nmos.subtract r m).SameButA (ricoh2A03.subtract r m) := by
  cases h : r.status.decimal with
  | false => exact Or.inl (by simp [subtract, hasDecimal, h])
  | true =>
    refine Or.inr ⟨rfl, ?_⟩
    rw [show nmos.subtract r m = Arithmetic.subtractDecimal r m by
      simp [subtract, hasDecimal, h]]
    exact Arithmetic.sameButA_subtract r m

end Variant

/-! ## Operations of the two chips -/

namespace Operation

/-- What is shown of an operation: the line of a listing and the cycles. -/
def shown (operation : Operation) : Listing × Int := (operation.listing, operation.cycles)

/-- The instruction that was executed. -/
def mnemonic? : Operation → Option Mnemonic
  | interrupt _ => none
  | instruction i _ => some i.descriptor.mnemonic

/-- How far the two chips may be apart when they have completed an operation that they started
with the registers `r`. -/
def Deviates (r : Registers) (operation : Operation) (s t : Registers) : Prop :=
  s = t ∨ r.status.decimal = true ∧
    (operation.mnemonic? = some .adc ∧ s.SameButSum t ∨
      operation.mnemonic? = some .sbc ∧ s.SameButA t)

namespace Deviates

variable {r s t : Registers} {operation : Operation}

theorem sameButSum (h : operation.Deviates r s t) (hadc : operation.mnemonic? = some .adc) :
    s.SameButSum t := by
  obtain rfl | ⟨-, ⟨-, hsum⟩ | ⟨hsbc, -⟩⟩ := h
  · rfl
  · exact hsum
  · simp [hadc] at hsbc

theorem sameButA (h : operation.Deviates r s t) (hsbc : operation.mnemonic? = some .sbc) :
    s.SameButA t := by
  obtain rfl | ⟨-, ⟨hadc, -⟩ | ⟨-, ha⟩⟩ := h
  · rfl
  · simp [hsbc] at hadc
  · exact ha

end Deviates

end Operation

/-! ## Turns of the two chips -/

namespace Dialogue

/-- A dialogue is like itself, and its ends are goals of all that it always does. -/
theorem Alike.of_always {allowed : List Exchange → σ → Access → Prop}
    {goal : List Exchange → σ → α → Prop} {d : Dialogue σ α} {past : List Exchange}
    (h : d.Always allowed goal past) :
    Alike (fun s a t b => s = t ∧ a = b ∧ ∃ past, goal past s a) d d := by
  induction d generalizing past with
  | done s a => exact .done ⟨rfl, rfl, past, h⟩
  | read s a answer ih => exact .read a fun b => ih b (h.2 b)
  | write s a data rest ih => exact .write a data (ih h.2)
  | tell notice rest ih => exact .tell notice (ih h)

end Dialogue

/-- Only additions and subtractions know the chip. -/
theorem Mnemonic.execute_eq (o : Operand) {m : Mnemonic} (hadc : m ≠ .adc) (hsbc : m ≠ .sbc)
    (variant variant' : Variant) : m.execute variant o = m.execute variant' o := by
  cases m <;> first | rfl | exact absurd rfl hadc | exact absurd rfl hsbc

namespace Instruction

theorem decode_on (variant variant' : Variant) (opcode : Int) :
    decode variant' opcode =
      (fun i => { i with variant := variant' }) <$> decode variant opcode := by
  cases h : (Descriptor.ofOpcode (byte opcode)).isDocumented <;>
    simp only [decode, h, if_true, if_false, Bool.false_eq_true, map_bind, map_pure]

/-- Decoding for both chips finds the same instruction. -/
theorem alike_decode (opcode : Byte) (r : Registers) :
    Dialogue.Alike
      (fun s i t j => s = t ∧ j = { i with variant := .ricoh2A03 } ∧ i.variant = .nmos ∧
        i.operand.OnBus ∧ s.status = r.status)
      (decode .nmos opcode.toNat r) (decode .ricoh2A03 opcode.toNat r) := by
  have halike := Dialogue.Alike.of_always (always_decode .nmos opcode r [])
  rw [decode_on .nmos .ricoh2A03, ← Dialogue.andThen_done (decode .nmos opcode.toNat r)]
  refine halike.andThen ?_
  intro s i t j h
  obtain ⟨rfl, rfl, -, hs, -, hvariant, -, -, honBus⟩ := h
  exact .done ⟨rfl, rfl, hvariant, honBus, by rw [hs]⟩

theorem alike_load {o : Operand} (ho : o.OnBus) {f g : Registers → Byte → Registers} (r : Registers)
    {ends : Registers → Int → Registers → Int → Prop}
    (h : ∀ s b, s.status = r.status → ends (f s b) 0 (g s b) 0) :
    Dialogue.Alike ends (Execute.load o f r) (Execute.load o g r) := by
  have hread : Action.Leaves Registers.status o.read := Operand.leaves_read ho
  refine (Dialogue.Alike.of_always (hread r [])).andThen ?_
  intro s b t c hsb
  obtain ⟨rfl, rfl, -, hs⟩ := hsb
  exact .done (h s b hs)

/-- What an instruction does on both chips, with the decimal flag of the registers `r`. -/
theorem alike_mnemonic (i : Instruction) (honBus : i.operand.OnBus) {r s : Registers}
    (hs : s.status = r.status) :
    Dialogue.Alike
      (fun t c u d => c = d ∧ ∀ cycles, (Operation.instruction i cycles).Deviates r t u)
      (i.descriptor.mnemonic.execute .nmos i.operand s)
      (i.descriptor.mnemonic.execute .ricoh2A03 i.operand s) := by
  -- Two instructions know the chip, and both read their operand first.
  by_cases hadc : i.descriptor.mnemonic = .adc
  · rw [hadc]
    refine alike_load honBus s fun t b ht => ⟨rfl, fun cycles => ?_⟩
    -- Reading the operand has left the flag as it was when the instruction began.
    have hflag : r.status.decimal = t.status.decimal := by rw [← hs, ← ht]
    rcases Variant.add_cases t b with hsame | ⟨hdecimal, hsum⟩
    · exact Or.inl hsame
    · exact Or.inr ⟨hflag.trans hdecimal, Or.inl ⟨congrArg some hadc, hsum⟩⟩
  · by_cases hsbc : i.descriptor.mnemonic = .sbc
    · rw [hsbc]
      refine alike_load honBus s fun t b ht => ⟨rfl, fun cycles => ?_⟩
      have hflag : r.status.decimal = t.status.decimal := by rw [← hs, ← ht]
      rcases Variant.subtract_cases t b with hsame | ⟨hdecimal, ha⟩
      · exact Or.inl hsame
      · exact Or.inr ⟨hflag.trans hdecimal, Or.inr ⟨congrArg some hsbc, ha⟩⟩
    · rw [Mnemonic.execute_eq i.operand hadc hsbc .nmos .ricoh2A03]
      exact .refl (fun _ _ => ⟨rfl, fun _ => Or.inl rfl⟩) _

theorem alike_execute (i : Instruction) (hi : i.variant = .nmos) (honBus : i.operand.OnBus)
    {r s : Registers} (hs : s.status = r.status) :
    Dialogue.Alike
      (fun t c u d => c = d ∧ (Operation.instruction i c).Deviates r t u)
      (i.execute s) ({ i with variant := .ricoh2A03 : Instruction }.execute s) := by
  unfold execute
  rw [hi]
  refine (i.alike_mnemonic honBus hs).andThen ?_
  intro t c u d h
  obtain ⟨rfl, hdeviates⟩ := h
  exact .done ⟨rfl, hdeviates _⟩

end Instruction

theorem alike_instruction (r : Registers) :
    Dialogue.Alike (fun s a t b => b.shown = a.shown ∧ a.Deviates r s t)
      ((mos .nmos).instruction r) ((mos .ricoh2A03).instruction r) := by
  refine .read r.pc.toNat fun opcode => ?_
  refine (Instruction.alike_decode opcode { r with pc := r.pc + 1 }).andThen ?_
  intro s i s' j h
  obtain ⟨rfl, rfl, hi, honBus, hs⟩ := h
  refine (i.alike_execute hi honBus hs).andThen ?_
  intro t c u d h
  obtain ⟨rfl, hdeviates⟩ := h
  exact .done ⟨rfl, hdeviates⟩

/-- The turns of the two chips make the same accesses and complete the same operation. -/
theorem alike_turn (r : Registers) :
    Dialogue.Alike (fun s a t b => b.1.shown = a.1.shown ∧ b.2 = a.2 ∧ a.1.Deviates r s t)
      ((mos .nmos).turn r) ((mos .ricoh2A03).turn r) := by
  -- The entry of a handler is the same on both chips.
  cases hdue : Interrupts.due? r with
  | some source =>
    rw [turn_of_due .nmos hdue, turn_of_due .ricoh2A03 hdue]
    exact .refl (fun _ _ => ⟨rfl, rfl, Or.inl rfl⟩) _
  | none =>
    rw [turn_of_not_due .nmos hdue, turn_of_not_due .ricoh2A03 hdue]
    refine (alike_instruction r).andThen ?_
    intro s a t b h
    obtain ⟨hshown, hdeviates⟩ := h
    exact .done ⟨hshown, rfl, hdeviates⟩

/-! ## Processors of the two chips -/

namespace Cpu

variable {β : Type}

/-- Processors of the two chips that look the same: equal buses, states and counts, and the last
operation is shown in the same way. -/
structure Twins (p : Cpu .nmos β) (q : Cpu .ricoh2A03 β) : Prop where
  bus : p.bus = q.bus
  state : p.state = q.state
  clock : p.clock = q.clock
  last : p.last.map Operation.shown = q.last.map Operation.shown

/-- Processors of the two chips after the same operation: the states may deviate. -/
structure Cousins (r : Registers) (operation : Operation) (p : Cpu .nmos β)
    (q : Cpu .ricoh2A03 β) : Prop where
  bus : p.bus = q.bus
  deviates : operation.Deviates r p.state q.state
  clock : p.clock = q.clock
  last : p.last.map Operation.shown = q.last.map Operation.shown

theorem Cousins.twins {r : Registers} {operation : Operation} {p : Cpu .nmos β}
    {q : Cpu .ricoh2A03 β} (h : Cousins r operation p q) (hstate : p.state = q.state) :
    Twins p q := { h with state := hstate }

/-- The same result or the same fault, and twins are left. -/
abbrev Agree (o : Outcome (Cpu .nmos β) α) (o' : Outcome (Cpu .ricoh2A03 β) α) : Prop :=
  o.Pairs (fun a p b q => a = b ∧ Twins p q) Twins o'

theorem Agree.map {x : Call (Cpu .nmos β) α} {y : Call (Cpu .ricoh2A03 β) α} {p : Cpu .nmos β}
    {q : Cpu .ricoh2A03 β} (h : Agree (x p) (y q)) (f : α → γ) :
    Agree ((x >>= fun a => pure (f a)) p) ((y >>= fun b => pure (f b)) q) := by
  refine h.bind ?_
  intro a p' b q' hab
  obtain ⟨rfl, h'⟩ := hab
  exact .ok [] ⟨rfl, h'⟩

theorem twins_modifyRegisters (f : Registers → Registers) {p : Cpu .nmos β}
    {q : Cpu .ricoh2A03 β} (h : Twins p q) : Agree (modifyRegisters f p) (modifyRegisters f q) :=
  .ok [] ⟨rfl, { h with state := congrArg f h.state }⟩

theorem twins_onBus (call : Call β α) {p : Cpu .nmos β} {q : Cpu .ricoh2A03 β} (h : Twins p q) :
    Agree (Processor.onBus call p) (Processor.onBus call q) := by
  unfold Processor.onBus
  rw [h.bus]
  -- Twins have one bus, so the call has one outcome.
  generalize call q.bus = o
  obtain ⟨_ | a, bus, told⟩ := o
  · exact .error _ told { h with bus := rfl }
  · exact .ok told ⟨rfl, { h with bus := rfl }⟩

variable [HostBus β]

theorem twins_perform {p : Cpu .nmos β} {q : Cpu .ricoh2A03 β} (h : Twins p q) :
    (Processor.perform (mos .nmos).turn p).Pairs
      (fun a p' b q' => b.1.shown = a.1.shown ∧ b.2 = a.2 ∧ Cousins p.state a.1 p' q') Twins
      (Processor.perform (mos .ricoh2A03).turn q) := by
  obtain ⟨bus, r, clock, last⟩ := p
  obtain ⟨_, _, _, last'⟩ := q
  obtain ⟨rfl, rfl, rfl, hlast⟩ := h
  have hturn := (alike_turn r).run indistinguishable_self (always_turn .nmos r []) (Eq.refl bus)
  refine (hturn.mono ?_ ?_).mapMachine
  · intro a m b n h
    obtain ⟨hbus, hshown, hkind, hdeviates⟩ := h
    exact ⟨hshown, hkind, hbus, hdeviates, rfl, hlast⟩
  · -- A turn that is refused has not come to its arithmetic.
    intro m n h
    obtain ⟨hbus, hstate⟩ := h
    exact ⟨hbus, hstate, rfl, hlast⟩

/-- Twins complete operations that are shown in the same way. -/
theorem twins_advance {p : Cpu .nmos β} {q : Cpu .ricoh2A03 β} (h : Twins p q) :
    (Processor.advance p).Pairs
      (fun a p' b q' => b.shown = a.shown ∧ p'.last = some a ∧ Cousins p.state a p' q') Twins
      (Processor.advance q) := by
  have htake : (Processor.takeActivity p : Outcome (Cpu .nmos β) _).Pairs
      (fun _ p' _ q' => p'.state = p.state ∧ Twins p' q') Twins (Processor.takeActivity q) := by
    refine .ok [] ⟨rfl, { h with bus := ?_ }⟩
    rw [h.bus]
  -- The record is taken before the turn, which starts with the same state.
  refine htake.bind ?_
  intro _ p' _ q' h
  obtain ⟨hstate, h'⟩ := h
  refine (twins_perform h').bind ?_
  intro a' p'' b' q'' h
  obtain ⟨a, _⟩ := a'
  obtain ⟨b, kind⟩ := b'
  obtain ⟨hshown, rfl, hcousins⟩ := h
  -- What is shown includes the cycles, so the clocks stay together.
  have hcycles : b.cycles = a.cycles := congrArg Prod.snd hshown
  have hclock : p''.clock.charge a.cycles kind = q''.clock.charge b.cycles kind := by
    rw [hcousins.clock, hcycles]
  refine .ok [] ⟨hshown, rfl, hcousins.bus, ?_, hclock, congrArg some hshown.symm⟩
  rw [← hstate]
  exact hcousins.deviates

/-- A step of twins, whether it corrects digits or not. -/
theorem cousins_step {p : Cpu .nmos β} {q : Cpu .ricoh2A03 β} (h : Twins p q) :
    (Processor.step p).Pairs
      (fun a p' b q' => a = b ∧ ∃ operation, p'.last = some operation ∧
        Cousins p.state operation p' q') Twins
      (Processor.step q) := by
  refine (twins_advance h).bind ?_
  intro a p' b q' hab
  obtain ⟨hshown, hlast, hcousins⟩ := hab
  exact .ok [] ⟨(congrArg Prod.snd hshown).symm, a, hlast, hcousins⟩

/-! ## Sessions without decimal arithmetic -/

/-- The next step executes an addition or a subtraction with the decimal flag set. -/
def Corrects (p : Cpu .nmos β) : Prop :=
  p.state.status.decimal = true ∧ ∃ operation, (Processor.advance p).result = .ok operation ∧
    (operation.mnemonic? = some .adc ∨ operation.mnemonic? = some .sbc)

/-- No step of a run corrects digits. -/
def CleanRun (budget : Int) : (limit : Nat) → (elapsed : Int) → Cpu .nmos β → Prop
  | 0, _, _ => True
  | limit + 1, elapsed, p =>
    elapsed < budget → ¬ Corrects p ∧
      match Processor.step p with
      | ⟨.ok cycles, q, _⟩ => CleanRun budget limit (elapsed + cycles) q
      | ⟨.error _, _, _⟩ => True

/-- No step of the command corrects digits. -/
def Clean {ρ : Type} : Command ρ → Cpu .nmos β → Prop
  | .step, p | .trace, p => ¬ Corrects p
  | .run budget, p => CleanRun budget budget.toNat 0 p
  | _, _ => True

/-- No step of the session corrects digits. -/
def CleanSession (ask : ρ → Call β α) : List (Command ρ) → Cpu .nmos β → Prop
  | [], _ => True
  | command :: rest, p => Clean command p ∧ CleanSession ask rest (obey ask command p).machine

/-- Unless digits are corrected, twins stay twins. -/
theorem twins_advance_clean {p : Cpu .nmos β} {q : Cpu .ricoh2A03 β} (h : Twins p q)
    (hclean : ¬ Corrects p) :
    (Processor.advance p).Pairs (fun a p' b q' => b.shown = a.shown ∧ Twins p' q') Twins
      (Processor.advance q) := by
  have hadvance := twins_advance h
  have hresult : ∀ a, (Processor.advance p).result = .ok a → ∀ s t, a.Deviates p.state s t →
      s = t := by
    intro a ha s t hdeviates
    rcases hdeviates with hst | ⟨hdecimal, hcase⟩
    · exact hst
    · -- The states deviate only after the arithmetic that is ruled out.
      exact absurd ⟨hdecimal, a, ha, hcase.imp And.left And.left⟩ hclean
  -- Both advances are completed, or both are refused with twins left.
  generalize Processor.advance p = o, Processor.advance q = o' at hadvance hresult
  cases hadvance with
  | ok told hab =>
    obtain ⟨hshown, -, hcousins⟩ := hab
    exact .ok told ⟨hshown, hcousins.twins (hresult _ rfl _ _ hcousins.deviates)⟩
  | error fault told hbad => exact .error fault told hbad

theorem twins_step {p : Cpu .nmos β} {q : Cpu .ricoh2A03 β} (h : Twins p q)
    (hclean : ¬ Corrects p) : Agree (Processor.step p) (Processor.step q) := by
  refine (twins_advance_clean h hclean).bind ?_
  intro a p' b q' hab
  obtain ⟨hshown, h'⟩ := hab
  exact .ok [] ⟨(congrArg Prod.snd hshown).symm, h'⟩

theorem twins_runFor (budget : Int) (limit : Nat) (elapsed : Int) {p : Cpu .nmos β}
    {q : Cpu .ricoh2A03 β} (h : Twins p q) (hclean : CleanRun budget limit elapsed p) :
    Agree (Processor.runFor budget limit elapsed p) (Processor.runFor budget limit elapsed q) := by
  -- What a step leaves is clean for the rest of the run, and twins once more.
  induction limit generalizing elapsed p q with
  | zero => exact .ok [] ⟨rfl, h⟩
  | succ limit ih =>
    unfold Processor.runFor
    split
    · next hlt =>
      obtain ⟨hstep, hrest⟩ := hclean hlt
      have hpairs : (Processor.step p).Pairs
          (fun a p' b q' => a = b ∧ Twins p' q' ∧ CleanRun budget limit (elapsed + a) p') Twins
          (Processor.step q) := by
        have hpairs := twins_step h hstep
        generalize Processor.step p = o, Processor.step q = o' at hpairs hrest
        cases hpairs with
        | ok told hab => exact .ok told ⟨hab.1, hab.2, hrest⟩
        | error fault told hbad => exact .error fault told hbad
      refine hpairs.bind ?_
      intro a p' b q' hab
      obtain ⟨rfl, h', hclean'⟩ := hab
      exact ih _ h' hclean'
    · exact .ok [] ⟨rfl, h⟩

theorem twins_trace {p : Cpu .nmos β} {q : Cpu .ricoh2A03 β} (h : Twins p q)
    (hclean : ¬ Corrects p) :
    (Processor.trace p).Pairs (fun t p' u q' => t.snapshot = u.snapshot ∧ Twins p' q') Twins
      (Processor.trace q) := by
  refine (twins_advance_clean h hclean).bind ?_
  intro a p' b q' hab
  obtain ⟨hshown, h'⟩ := hab
  -- All that a snapshot shows is the same for twins.
  have htaken : (HostBus.takeActivity p'.bus).2 = (HostBus.takeActivity q'.bus).2 := by rw [h'.bus]
  refine .ok [] ⟨?_, { h' with bus := htaken }⟩
  show Snapshot.mk a.listing a.cycles p'.clock.total (HostBus.takeActivity p'.bus).1 p'.state =
    Snapshot.mk b.listing b.cycles q'.clock.total (HostBus.takeActivity q'.bus).1 q'.state
  obtain ⟨hline, hcycles⟩ := Prod.mk.inj hshown
  rw [hline, hcycles, h'.bus, h'.state, h'.clock]

theorem twins_vector {p : Cpu .nmos β} {q : Cpu .ricoh2A03 β} (h : Twins p q) :
    Agree (Processor.perform Interrupts.reset p) (Processor.perform Interrupts.reset q) := by
  obtain ⟨bus, r, clock, last⟩ := p
  obtain ⟨_, _, _, last'⟩ := q
  obtain ⟨rfl, rfl, rfl, hlast⟩ := h
  -- A reset is the same dialogue for both.
  have halike : Dialogue.Alike (fun s _ t _ => s = t) (Interrupts.reset r) (Interrupts.reset r) :=
    .refl (fun _ _ => rfl) _
  have hrun := halike.run indistinguishable_self (always_reset r []) (Eq.refl bus)
  refine (hrun.mono ?_ ?_).mapMachine
  · intro _ m _ n h
    obtain ⟨hbus, hstate⟩ := h
    exact ⟨rfl, hbus, hstate, rfl, hlast⟩
  · intro m n h
    obtain ⟨hbus, hstate⟩ := h
    exact ⟨hbus, hstate, rfl, hlast⟩

theorem twins_reset {p : Cpu .nmos β} {q : Cpu .ricoh2A03 β} (h : Twins p q) :
    Agree (reset p) (reset q) := by
  have hinitial : Agree (Processor.reset p) (Processor.reset q) :=
    .ok [] ⟨rfl, { h with state := rfl }⟩
  refine hinitial.bind ?_
  intro _ p' _ q' h
  refine (twins_vector h.2).bind ?_
  intro _ p'' _ q'' h
  have hclock : p''.clock.charge Interrupts.resetCycles false =
      q''.clock.charge Interrupts.resetCycles false := by rw [h.2.clock]
  exact .ok [] ⟨rfl, { h.2 with clock := hclock }⟩

theorem twins_obey (ask : ρ → Call β α) (command : Command ρ) {p : Cpu .nmos β}
    {q : Cpu .ricoh2A03 β} (h : Twins p q) (hclean : Clean command p) :
    Agree (obey ask command p) (obey ask command q) := by
  cases command with
  | step => exact (twins_step h hclean).map Reply.cycles
  | run budget => exact (twins_runFor budget _ 0 h hclean).map Reply.cycles
  | trace =>
    -- The traces are not of one type, but their snapshots are.
    refine (twins_trace h hclean).bind ?_
    intro t p' u q' htu
    obtain ⟨hsnapshot, h'⟩ := htu
    exact .ok [] ⟨congrArg Reply.snapshot hsnapshot, h'⟩
  | reset => exact (twins_reset h).map fun _ => Reply.done
  | request source => exact (twins_modifyRegisters _ h).map fun _ => Reply.done
  | withdraw => exact (twins_modifyRegisters _ h).map fun _ => Reply.done
  | restore r => exact .ok [] ⟨rfl, { h with state := rfl }⟩
  | bus x => exact (twins_onBus (ask x) h).map Reply.bus

/-- Unless digits are corrected, the two chips answer all commands in the same way. -/
theorem twins_session (ask : ρ → Call β α) (commands : List (Command ρ)) {p : Cpu .nmos β}
    {q : Cpu .ricoh2A03 β} (h : Twins p q) (hclean : CleanSession ask commands p) :
    (session ask commands p).1 = (session ask commands q).1 ∧
      Twins (session ask commands p).2 (session ask commands q).2 := by
  -- Twins after one command are twins for the rest.
  induction commands generalizing p q with
  | nil => exact ⟨rfl, h⟩
  | cons command rest ih =>
    obtain ⟨hcommand, hrest⟩ := hclean
    have hobey := twins_obey ask command h hcommand
    unfold session
    generalize obey ask command p = o, obey ask command q = o' at hobey hrest
    -- A refusal does not end the session, so both cases go on.
    cases hobey with
    | ok told hab =>
      obtain ⟨rfl, h'⟩ := hab
      obtain ⟨hreplies, htwins⟩ := ih h' hrest
      exact ⟨congrArg (_ :: ·) hreplies, htwins⟩
    | error fault told h' =>
      obtain ⟨hreplies, htwins⟩ := ih h' hrest
      exact ⟨congrArg (_ :: ·) hreplies, htwins⟩

/-! ## The two chips -/

/-- The two chips agree except for decimal arithmetic.

From twins, every session in which the chip with a decimal mode corrects no digits has the same
replies on both, and leaves twins. In any case one step has the same cycles, bus and counts on
both and shows the same operation; an addition leaves the states different at most in the
accumulator and in the flags N, V and C, and a subtraction at most in the accumulator. -/
theorem variants_agree (ask : ρ → Call β α) {p : Cpu .nmos β} {q : Cpu .ricoh2A03 β}
    (h : Twins p q) :
    (∀ commands : List (Command ρ), CleanSession ask commands p →
      (session ask commands p).1 = (session ask commands q).1 ∧
        Twins (session ask commands p).2 (session ask commands q).2) ∧
    (∀ cycles p' told operation, Processor.step p = ⟨.ok cycles, p', told⟩ →
      p'.last = some operation →
        ∃ q', Processor.step q = ⟨.ok cycles, q', told⟩ ∧ p'.bus = q'.bus ∧
          p'.clock = q'.clock ∧ p'.last.map Operation.shown = q'.last.map Operation.shown ∧
          (operation.mnemonic? = some .adc → p'.state.SameButSum q'.state) ∧
          (operation.mnemonic? = some .sbc → p'.state.SameButA q'.state)) := by
  refine ⟨fun commands hclean => twins_session ask commands h hclean, ?_⟩
  intro cycles p' told operation hstep hlast
  have hcousins := cousins_step h
  rw [hstep] at hcousins
  -- The first chip has completed its step, so the second has.
  generalize Processor.step q = o at hcousins
  cases hcousins with
  | ok told hab =>
    obtain ⟨rfl, operation', hlast', hcousins⟩ := hab
    obtain rfl := Option.some.inj (hlast.symm.trans hlast')
    have hdeviates := hcousins.deviates
    exact ⟨_, rfl, hcousins.bus, hcousins.clock, hcousins.last, hdeviates.sameButSum,
      hdeviates.sameButA⟩

/-- An addition of two bytes in decimal mode. -/
theorem variants_agree_add :
    let r := { Registers.initial with a := 0x09, status := { decimal := true } }
    let bus := (FlatBus.zeroed.store 0 0x69).store 1 0x01
    let p : Cpu .nmos FlatBus := ⟨bus, r, {}, none⟩
    let q : Cpu .ricoh2A03 FlatBus := ⟨bus, r, {}, none⟩
    Twins p q ∧ ∃ cycles q' told, Processor.step q = ⟨.ok cycles, q', told⟩ ∧
      (Processor.step p).machine.state.SameButSum q'.state := by
  intro r bus p q
  have h : Twins p q := ⟨rfl, rfl, rfl, rfl⟩
  have hok : (Processor.step p).result.isOk = true := by decide +kernel
  have hlast : (Processor.step p).machine.last = some (.instruction
      ⟨0x69, .nmos, ⟨.adc, .immediate, 2⟩, ⟨.immediate, .value 1, false, [1]⟩⟩ 2) := by
    decide +kernel
  rcases hstep : Processor.step p with ⟨_ | cycles, p', told⟩
  · simp [hstep, Except.isOk, Except.toBool] at hok
  · rw [hstep] at hlast
    obtain ⟨q', hq', -, -, -, hsum, -⟩ :=
      (variants_agree (fun x : Call FlatBus Unit => x) h).2 _ _ _ _ hstep hlast
    exact ⟨h, cycles, q', told, hq', hsum rfl⟩

end Cpu

end Micro6502
