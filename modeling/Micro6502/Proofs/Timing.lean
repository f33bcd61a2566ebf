import Micro6502.Proofs.Cells
import Micro6502.Proofs.History
import Micro6502.Proofs.Writes

/-!
# What a step costs

The cycles of a step follow from the registers and the memory before it: those of the opcode, one
more where an instruction that reads indexes out of a page, and for a branch that is taken one more,
or two if it leaves the page. No step is free, none takes more than seven cycles, and none makes
more accesses than it takes cycles.

## Contents

- `Registers.cycles`, the cycles of the next step
- `Descriptor.accesses`, the accesses of an instruction, with the bounds of the table
- `Action.Costs`, with `Mnemonic.costs` for the instructions
- `Registers.Timed`, with `always_turn_timed`
- `Cpu.step_timed`
-/

namespace Micro6502

/-! ## Cycles by registers and memory -/

/-- The instruction reads its operand, and is there in modes that may leave a page. -/
def Mnemonic.isReader : Mnemonic → Bool
  | lda | ldx | ldy | eor | and | ora | adc | sbc | cmp => true
  | _ => false

/-- The instruction goes elsewhere on a condition. -/
def Mnemonic.isBranch : Mnemonic → Bool
  | bcc | bcs | beq | bne | bmi | bpl | bvc | bvs => true
  | _ => false

/-- The mode adds an index to an address of sixteen bits. -/
def Mode.isIndexed : Mode → Bool
  | absoluteX | absoluteY | indirectIndexed => true
  | _ => false

/-- The cycle for an indexed read, if it leaves the page. -/
def Descriptor.indexCycles (d : Descriptor) (crosses : Bool) : Int :=
  if d.mnemonic.isReader && d.mode.isIndexed && crosses then 1 else 0

/-- The cycles for a branch that is taken. -/
def Mnemonic.branchCycles (m : Mnemonic) (status : Status) (crosses : Bool) : Int :=
  if m.isBranch && m.jumps status then if crosses then 2 else 1 else 0

/-- The cycles of the next step. -/
def Registers.cycles (memory : Address → Byte) (r : Registers) : Int :=
  match Interrupts.due? r with
  | some _ => 7
  | none =>
    let d := Descriptor.ofOpcode (memory r.pc)
    let crosses := d.mode.crosses memory { r with pc := r.pc + 1 }
    d.cycles + d.indexCycles crosses + d.mnemonic.branchCycles r.status crosses

/-! ## Accesses -/

/-- The mode gives a cell. -/
def Mode.isCell : Mode → Bool
  | implied | accumulator | immediate => false
  | _ => true

/-- The accesses of an instruction when it is executed. Whether its operand is a cell is given. -/
def Mnemonic.accesses (isCell : Bool) : Mnemonic → Nat
  | lda | ldx | ldy | and | ora | eor | bit | adc | sbc | cmp | cpx | cpy => isCell.toNat
  | sta | stx | sty => isCell.toNat
  | asl | lsr | rol | ror | inc | dec => 2 * isCell.toNat
  | pha | php | pla | plp => 1
  | jsr | rts => 2
  | rti => 3
  | brk => 5
  | _ => 0

/-- All accesses of an instruction. Without a documented meaning it is only read. -/
def Descriptor.accesses (d : Descriptor) : Nat :=
  if d.isDocumented then 1 + d.mode.reads + d.mnemonic.accesses d.mode.isCell else d.length

/-- An entry of the table is within its bounds, and there is a cycle for every access. -/
structure Descriptor.Bounded (d : Descriptor) : Prop where
  two_le : 2 ≤ d.cycles
  /-- With all that may come on top. -/
  le_seven : d.cycles + d.mnemonic.isReader.toNat + 2 * d.mnemonic.isBranch.toNat ≤ 7
  accesses : d.accesses ≤ d.cycles

theorem Descriptor.bounded (opcode : Byte) : (ofOpcode opcode).Bounded := by
  -- By a look at the whole table.
  have h : ∀ n : Fin 256, let d := ofOpcode (BitVec.ofFin n)
      2 ≤ d.cycles ∧ d.cycles + d.mnemonic.isReader.toNat + 2 * d.mnemonic.isBranch.toNat ≤ 7 ∧
        d.accesses ≤ d.cycles := by decide +kernel
  obtain ⟨htwo, hseven, haccesses⟩ := h opcode.toFin
  exact ⟨htwo, hseven, haccesses⟩

/-! ## Execution -/

/-- Whatever the bus answers, the action makes this many accesses and adds this many cycles. -/
def Action.Costs (x : Action Registers Int) (r : Registers) (accesses : Nat) (extra : Int) : Prop :=
  ∀ past, (x r).Always (fun _ _ _ => True)
    (fun past' _ cycles => past'.length = past.length + accesses ∧ cycles = extra) past

namespace Execute

theorem costs_load (o : Operand) (f : Registers → Byte → Registers) (r : Registers) :
    Action.Costs (load o f) r o.cell?.isSome.toNat 0 := by
  intro past
  unfold load Operand.cell?
  simp only [Action.always_bind, Operand.always_read]
  -- Only a cell is on the bus.
  cases o.location with
  | cell a => exact ⟨trivial, fun _ => ⟨rfl, rfl⟩⟩
  | _ => exact ⟨rfl, rfl⟩

theorem costs_store (o : Operand) (f : Registers → Byte) (r : Registers) :
    Action.Costs (store o f) r o.cell?.isSome.toNat 0 := by
  intro past
  unfold store Operand.cell?
  cases o.location with
  | cell a => exact ⟨trivial, rfl, rfl⟩
  | _ => exact ⟨rfl, rfl⟩

/-- Working in place takes a read and a write. -/
theorem costs_update (o : Operand) (work : Registers → Byte → Registers × Int) (r : Registers) :
    Action.Costs (update o work) r (2 * o.cell?.isSome.toNat) 0 := by
  intro past
  unfold update Operand.update Operand.cell?
  simp only [Action.always_bind, Operand.always_read]
  cases hlocation : o.location with
  | cell a =>
    refine ⟨trivial, fun b => ?_⟩
    unfold Operand.write
    rw [hlocation]
    exact ⟨trivial, rfl, rfl⟩
  | _ =>
    unfold Operand.write
    rw [hlocation]
    exact ⟨rfl, rfl⟩

theorem costs_branch (o : Operand) (condition : Status → Bool) (r : Registers) :
    Action.Costs (branch o condition) r 0
      (if condition r.status then if o.pageCrossed then 2 else 1 else 0) := by
  intro past
  rw [always_branch]
  split <;> exact ⟨rfl, rfl⟩

end Execute

namespace Interrupts

/-- Entering a handler takes three pushes and the reads of its vector. -/
theorem always_enter_length (vector target : Int) (isBreak : Bool) (r : Registers)
    (past : List Exchange) :
    (enter vector target isBreak r).Always (fun _ _ _ => True)
      (fun past' _ _ => past'.length = past.length + 5) past := by
  simp only [enter, Stack.pushWord, Stack.always_push, Action.always_bind, Action.always_get,
    Action.always_modify, Action.always_readWord, true_and]
  exact fun _ _ => rfl

/-- So does a break, also if a request takes it elsewhere. -/
theorem always_softwareBreak_length (r : Registers) (past : List Exchange) :
    (softwareBreak r).Always (fun _ _ _ => True)
      (fun past' _ _ => past'.length = past.length + 5) past :=
  always_softwareBreak fun _ => always_enter_length _ _ _ { r with nmi := false } past

end Interrupts

/-- An instruction makes its accesses, and only a branch adds cycles. -/
theorem Mnemonic.costs (variant : Variant) (o : Operand) (m : Mnemonic) (r : Registers) :
    Action.Costs (m.execute variant o) r (m.accesses o.cell?.isSome)
      (m.branchCycles r.status o.pageCrossed) := by
  cases m
  case lda | ldx | ldy | and | ora | eor | bit | adc | sbc | cmp | cpx | cpy =>
    exact Execute.costs_load o _ r
  case sta | stx | sty => exact Execute.costs_store o _ r
  case asl | lsr | rol | ror | inc | dec => exact Execute.costs_update o _ r
  case bcc | bcs | beq | bne | bmi | bpl | bvc | bvs =>
    rw [execute]
    exact Execute.costs_branch o _ r
  case jmp =>
    intro past
    simp only [execute, Action.always_bind, Execute.always_jump, Action.always_pure]
    exact ⟨rfl, rfl⟩
  case jsr =>
    intro past
    simp only [execute, Stack.pushWord, Action.always_bind, Action.always_get, Stack.always_push,
      Execute.always_jump, Action.always_pure, true_and]
    exact ⟨rfl, rfl⟩
  -- What is left of them pushes or pulls bytes one by one.
  case rts => exact fun past => ⟨trivial, fun _ => ⟨trivial, fun _ => ⟨rfl, rfl⟩⟩⟩
  case pha | php => exact fun past => ⟨trivial, rfl, rfl⟩
  case pla | plp => exact fun past => ⟨trivial, fun _ => ⟨rfl, rfl⟩⟩
  case rti =>
    exact fun past => ⟨trivial, fun _ => ⟨trivial, fun _ => ⟨trivial, fun _ => ⟨rfl, rfl⟩⟩⟩⟩
  case brk =>
    intro past
    simp only [execute, Action.always_bind, Action.always_pure]
    refine (Interrupts.always_softwareBreak_length r past).mono (fun _ _ _ h => h) ?_
    exact fun _ _ _ h => ⟨h, rfl⟩
  -- The others are done within the processor.
  all_goals exact fun past => ⟨rfl, rfl⟩

/-! ## Turns -/

/-- An operand is a cell if its mode gives one. -/
theorem Operand.Fits.isSome_cell? {o : Operand} {mode : Mode} (h : o.Fits mode) :
    o.cell?.isSome = mode.isCell := by
  obtain ⟨_, location, _, _⟩ := o
  cases mode <;> cases location <;>
    simp_all [Fits, Operand.cell?, Operand.value?, Mode.isCell]

/-- The page penalty is for those that read, in the modes that index an address. -/
theorem Descriptor.hasPagePenalty_eq (d : Descriptor) :
    d.hasPagePenalty = (d.mnemonic.isReader && d.mode.isIndexed) := by
  obtain ⟨m, mode, cycles⟩ := d
  -- The table lists what the two predicates tell apart.
  have hreader : [Mnemonic.lda, .ldx, .ldy, .eor, .and, .ora, .adc, .sbc, .cmp].contains m =
      m.isReader := by
    cases m <;> rfl
  have hindexed : [Mode.absoluteX, .absoluteY, .indirectIndexed].contains mode =
      mode.isIndexed := by
    cases mode <;> rfl
  rw [hasPagePenalty, hreader, hindexed]

theorem Descriptor.instructionCycles_eq (d : Descriptor) (crosses : Bool) (extra : Int) :
    Clock.instructionCycles d.cycles crosses d.hasPagePenalty extra =
      d.cycles + d.indexCycles crosses + extra := by
  rw [Clock.instructionCycles, d.hasPagePenalty_eq, indexCycles, Bool.and_comm crosses]
  omega

theorem Descriptor.indexCycles_bounds (d : Descriptor) (crosses : Bool) :
    0 ≤ d.indexCycles crosses ∧ d.indexCycles crosses ≤ d.mnemonic.isReader.toNat := by
  unfold indexCycles
  cases d.mnemonic.isReader <;> cases d.mode.isIndexed <;> cases crosses <;> decide

theorem Mnemonic.branchCycles_bounds (m : Mnemonic) (status : Status) (crosses : Bool) :
    0 ≤ m.branchCycles status crosses ∧
      m.branchCycles status crosses ≤ 2 * (m.isBranch.toNat : Int) := by
  unfold branchCycles
  cases m.isBranch <;> cases m.jumps status <;> cases crosses <;> decide

/-- What a step from the registers has cost. It has first read, and if a memory answered these
reads, then it has taken the cycles that the registers take on that memory. -/
structure Registers.Timed (r : Registers) (past : List Exchange) (cycles : Int) : Prop where
  two_le : 2 ≤ cycles
  le_seven : cycles ≤ 7
  accesses : past.length ≤ cycles
  exact : ∃ decoding, decoding <:+ past ∧ written decoding = [] ∧
    ∀ memory, AnsweredBy memory decoding → cycles = r.cycles memory

/-- A decoded instruction makes all its accesses when it is executed. -/
theorem Instruction.Decoded.accesses_eq {variant : Variant} {r : Registers} {opcode : Byte}
    {past : List Exchange} {i : Instruction} (h : i.Decoded variant r opcode past) :
    past.length + i.descriptor.mnemonic.accesses i.operand.cell?.isSome =
      i.descriptor.accesses := by
  rw [Descriptor.accesses]
  cases hi : i.descriptor.isDocumented with
  | true => rw [(h.fits hi).isSome_cell?, h.count hi, if_pos rfl]
  | false =>
    -- What is skipped has been read byte by byte and does nothing more.
    rw [Descriptor.mnemonic_eq_skip hi, h.undocumented hi, h.length_eq]
    simp [Mnemonic.accesses, fetching, length_fetches]

/-- The penalties of a decoded instruction are those of the memory that has answered. -/
theorem Instruction.Decoded.cycles_eq {variant : Variant} {r : Registers} {opcode : Byte}
    {past : List Exchange} {i : Instruction} (h : i.Decoded variant r opcode past)
    (hdue : Interrupts.due? r = none) {memory : Address → Byte}
    (hmemory : AnsweredBy memory past) :
    i.descriptor.cycles + i.descriptor.indexCycles i.operand.pageCrossed +
        i.descriptor.mnemonic.branchCycles r.status i.operand.pageCrossed = r.cycles memory := by
  have hopcode := h.memory_eq hmemory
  simp only [Registers.cycles, hdue, hopcode, ← h.descriptor_eq]
  cases hi : i.descriptor.isDocumented with
  | true => rw [h.crosses_eq hi memory hmemory]
  | false =>
    -- What is undocumented pays for no page, whichever its operand would be on.
    rw [Descriptor.indexCycles, Descriptor.indexCycles, Descriptor.mnemonic_eq_skip hi]
    rfl

/-- A turn costs what the registers say. -/
theorem always_turn_timed (variant : Variant) (r : Registers) :
    ((mos variant).turn r).Always (fun _ _ _ => True)
      (fun past _ completed => r.Timed past completed.1.cycles) [] := by
  cases hdue : Interrupts.due? r with
  | some source =>
    rw [turn_of_due variant hdue]
    simp only [Action.always_bind, Action.always_modify, Action.always_tell, Action.always_pure]
    refine (Interrupts.always_enter_length _ _ _ _ []).mono (fun _ _ _ h => h) ?_
    intro past _ _ hlength
    -- An interrupt has nothing on top of its seven cycles, whatever the memory holds.
    have hcycles : (Operation.interrupt source).cycles = 7 := rfl
    refine ⟨by omega, by omega, ?_, [], List.nil_suffix, rfl, fun memory _ => ?_⟩
    · rw [hlength, hcycles]
      decide
    · rw [Registers.cycles, hdue, hcycles]
  | none =>
    have hturn := always_turn_of_executed variant hdue
      (fun i _ past _ extra => past.length = i.descriptor.accesses ∧
        extra = i.descriptor.mnemonic.branchCycles r.status i.operand.pageCrossed)
      fun i opcode past hdecoded => by
        refine (Mnemonic.costs i.variant i.operand i.descriptor.mnemonic _ past).mono
          (fun _ _ _ h => h) ?_
        rintro past' s extra ⟨hlength, hextra⟩
        exact ⟨by rw [hlength, hdecoded.accesses_eq], hextra⟩
    refine hturn.mono (fun _ _ _ h => h) ?_
    rintro past s _ ⟨i, opcode, extra, decoding, rfl, hdecoded, hpast, hlength, rfl⟩
    -- The table leaves room for what can come on top, of which there is one kind at most.
    have hbounded := Descriptor.bounded opcode
    rw [← hdecoded.descriptor_eq] at hbounded
    obtain ⟨htwo, hseven, haccesses⟩ := hbounded
    have hindex := i.descriptor.indexCycles_bounds i.operand.pageCrossed
    have hbranch := i.descriptor.mnemonic.branchCycles_bounds r.status i.operand.pageCrossed
    simp only [Operation.cycles, Descriptor.instructionCycles_eq]
    refine ⟨by omega, by omega, by omega, decoding, hpast, hdecoded.silent,
      fun memory hmemory => ?_⟩
    exact hdecoded.cycles_eq hdue hmemory

/-! ## Steps -/

/-- Stores, work in place, branches that are not taken and what is undocumented are neither readers
nor branches that are taken. -/
theorem Mnemonic.no_extra {m : Mnemonic} {status : Status}
    (h : m ∈ [sta, stx, sty] ∨ m.need = .place ∨ m.isBranch ∧ m.jumps status = false ∨ m = skip) :
    m.isReader = false ∧ (m.isBranch && m.jumps status) = false := by
  -- Each of the four kinds is no reader, and none of them jumps.
  rcases h with h | h | ⟨hbranch, hjumps⟩ | rfl
  · simp only [List.mem_cons, List.not_mem_nil, or_false] at h
    rcases h with rfl | rfl | rfl <;> exact ⟨rfl, rfl⟩
  · cases m <;> first | exact ⟨rfl, rfl⟩ | exact nomatch h
  · rw [hjumps, Bool.and_false]
    cases m <;> first | exact ⟨rfl, rfl⟩ | exact nomatch hbranch
  · exact ⟨rfl, rfl⟩

namespace Cpu

/-- A completed step has cost what its registers say, on any host. -/
theorem timed_of_step {variant : Variant} {β : Type} [HostBus β] {p q : Cpu variant β}
    {cycles : Int} {told : List Notice} (hstep : Processor.step p = ⟨.ok cycles, q, told⟩) :
    p.state.Timed p.stepExchanges cycles := by
  obtain ⟨operation, isInstruction, -, rfl, -, htimed⟩ :=
    step_always (always_turn_timed variant p.state) hstep
  exact htimed

/-- On a bus, the cycles are those of the memory before the step. -/
theorem timed_on_bus {variant : Variant} {p q : Cpu variant Bus} {cycles : Int}
    {told : List Notice} (hstep : Processor.step p = ⟨.ok cycles, q, told⟩) :
    cycles = p.state.cycles p.bus.contents ∧ q.bus.activity.length ≤ cycles := by
  obtain ⟨-, -, haccesses, decoding, hdecoding, hnothing, hcycles⟩ := timed_of_step hstep
  have htracks : (HostBus.takeActivity p.bus).2.Tracks p.stepExchanges q.bus :=
    upheld_step (Bus.Tracks.upholds _) (Bus.Tracks.refl rfl) hstep
  -- Nothing was written while it was decoded, so the memory before the step has answered.
  refine ⟨hcycles _ (htracks.answeredBy hdecoding hnothing), ?_⟩
  rwa [← htracks.recent, List.length_map, ← List.length_reverse] at haccesses

/-- Every step costs what the registers and the memory before it say.

On any host, a step that succeeds takes two to seven cycles and makes no more accesses than that.
What it takes is `Registers.cycles` on the memory that has answered its first reads, and on a bus
that is the memory before the step. Stores, instructions that work in place, branches that are not
taken and opcodes without a documented meaning take the cycles of their entry in the table, whatever
else the memory holds. -/
theorem step_timed (variant : Variant) :
    (∀ (β : Type) [HostBus β] (p q : Cpu variant β) (cycles : Int) (told : List Notice),
      Processor.step p = ⟨.ok cycles, q, told⟩ → p.state.Timed p.stepExchanges cycles) ∧
    (∀ (p q : Cpu variant Bus) (cycles : Int) (told : List Notice),
      Processor.step p = ⟨.ok cycles, q, told⟩ →
      cycles = p.state.cycles p.bus.contents ∧ q.bus.activity.length ≤ cycles) ∧
    ∀ (r : Registers) (memory : Address → Byte), Interrupts.due? r = none →
      let d := Descriptor.ofOpcode (memory r.pc)
      d.mnemonic ∈ [.sta, .stx, .sty] ∨ d.mnemonic.need = .place ∨
        d.mnemonic.isBranch ∧ d.mnemonic.jumps r.status = false ∨ d.isDocumented = false →
      r.cycles memory = d.cycles := by
  refine ⟨fun _ _ _ _ _ _ => timed_of_step, fun _ _ _ _ => timed_on_bus, fun r memory hdue => ?_⟩
  intro d hd
  have hd' : d.mnemonic ∈ [.sta, .stx, .sty] ∨ d.mnemonic.need = .place ∨
      d.mnemonic.isBranch ∧ d.mnemonic.jumps r.status = false ∨ d.mnemonic = .skip := by
    simpa [Descriptor.isDocumented] using hd
  obtain ⟨hreader, hbranch⟩ := Mnemonic.no_extra hd'
  simp only [Registers.cycles, hdue]
  show (d.cycles : Int) + d.indexCycles _ + d.mnemonic.branchCycles _ _ = _
  rw [Descriptor.indexCycles, Mnemonic.branchCycles, hreader, hbranch]
  simp

/-- A read that is indexed out of its page, with a branch behind it that is not taken. -/
theorem step_timed_crossing :
    let memory := (((Bytes.uniform 0).set 15 0 0xBD).set 15 1 0xFF).set 15 3 0xB0
    let r := { Registers.initial with x := 1 }
    let p : Cpu .nmos Bus := { Cpu.new .nmos (Bus.ramOf memory) with state := r }
    ∃ q told, Processor.step p = ⟨.ok 5, q, told⟩ ∧ r.Timed p.stepExchanges 5 ∧
      r.cycles p.bus.contents = 5 ∧ q.bus.activity.length ≤ (5 : Int) ∧
      Interrupts.due? q.state = none ∧ q.state.cycles p.bus.contents = 2 := by
  intro memory r p
  obtain ⟨htimed, hbus, hfixed⟩ := step_timed .nmos
  have hstep : Processor.step p =
      ⟨.ok 5, (Processor.step p).machine, (Processor.step p).notices⟩ :=
    Outcome.eq_of_result (by decide +kernel)
  obtain ⟨hcycles, haccesses⟩ := hbus _ _ _ _ hstep
  refine ⟨_, _, hstep, htimed _ _ _ _ _ hstep, hcycles.symm, haccesses, by decide +kernel, ?_⟩
  -- The branch that is next is not taken, for the carry is clear.
  rw [hfixed _ _ (by decide +kernel) (.inr (.inr (.inl (by decide +kernel))))]
  decide +kernel

end Cpu

end Micro6502
