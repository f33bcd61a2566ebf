import Micro6502.Proofs.Cells
import Micro6502.Proofs.Decoded
import Micro6502.Proofs.History
import Micro6502.Proofs.Writes

/-!
# The record of a step

A step leaves the record of its own accesses, whatever was on record before. It begins with the
bytes of the instruction, in the order of the program, and these are the bytes that its listing
shows. To trace is to take such a step and to take its record along.

## Contents

- `Instruction.OnRecord`, a record that agrees with the listing of an instruction
- `always_turn_listed`, what a turn does to the program counter and to the record
- `Cpu.activity_begins`, from the exchanges to the record, and `Cpu.onRecord`
- `Processor.step_of_recent`, earlier accesses do not matter
- `Cpu.record_faithful`
-/

namespace Micro6502

/-! ## One instruction -/

/-- A record agrees with the listing of an instruction, which has taken the registers from `r` to
`s`. -/
structure Instruction.OnRecord (i : Instruction) (r : Registers) (opcode : Byte)
    (activity : List Activity) (s : Registers) : Prop where
  descriptor_eq : i.descriptor = Descriptor.ofOpcode opcode
  /-- The listing shows the opcode, and counts it as one of the bytes. -/
  code : i.listing.code = Hex.ofByte opcode
  length_eq : i.listing.length = 1 + i.listing.bytes.length
  /-- The record begins with the reads of the bytes, from the program counter on. -/
  fetched : activity.take i.listing.length = fetches r.pc (opcode :: i.listing.bytes)
  /-- The next instruction is behind this one, unless this one leads elsewhere. -/
  next : i.descriptor.mnemonic.jumps r.status = false →
    s.pc = r.pc + BitVec.ofNat 16 i.listing.length
  /-- Without a documented meaning nothing else is on record. -/
  undocumented : i.descriptor.isDocumented = false →
    activity = fetches r.pc (opcode :: i.listing.bytes)

/-- What a turn does to the program counter, and what it does not do if the opcode has no documented
meaning. -/
theorem always_turn_listed (variant : Variant) {r : Registers} (hdue : Interrupts.due? r = none) :
    ((mos variant).turn r).Always (fun _ _ _ => True)
      (fun past s completed => ∃ i opcode cycles decoding,
        completed = (.instruction i cycles, true) ∧ i.Decoded variant r opcode decoding ∧
          decoding <:+ past ∧
          (i.descriptor.mnemonic.jumps r.status = false →
            s.pc = r.pc + BitVec.ofNat 16 i.descriptor.length) ∧
          (i.descriptor.isDocumented = false →
            past = fetching r.pc (opcode :: i.operand.bytes))) [] := by
  refine always_turn_of_decoded variant hdue _ fun i opcode past hdecoded => ?_
  have hpc (hjumps : i.descriptor.mnemonic.jumps r.status = false) :=
    Mnemonic.always_pc i.variant hdecoded.onBus
      (r := { r with pc := r.pc + BitVec.ofNat 16 i.descriptor.length }) hjumps past
  -- Decoding has moved the program counter on, so this is all unless the instruction jumps.
  cases hdocumented : i.descriptor.isDocumented with
  | true =>
    cases hjumps : i.descriptor.mnemonic.jumps r.status with
    | true => exact Dialogue.always_of_forall (fun _ _ _ => ⟨nofun, nofun⟩) _ past
    | false => exact (hpc hjumps).mono (fun _ _ _ _ => trivial) fun _ _ _ h => ⟨fun _ => h, nofun⟩
  | false =>
    -- There is nothing to execute, so all accesses are those of decoding.
    rw [Descriptor.mnemonic_eq_skip hdocumented]
    exact ⟨fun _ => rfl, fun _ => hdecoded.undocumented hdocumented⟩

/-! ## From the exchanges to the record -/

namespace Cpu

variable {variant : Variant} {p q : Cpu variant Bus} {cycles : Int} {told : List Notice}

/-- What is on record after a step are its exchanges. -/
theorem map_exchange_activity (hstep : Processor.step p = ⟨.ok cycles, q, told⟩) :
    q.bus.activity.map Activity.exchange = p.stepExchanges.reverse := by
  have htracks := upheld_step (Bus.Tracks.upholds { p.bus with recent := [] }) (.refl rfl) hstep
  rw [Bus.activity, List.map_reverse, htracks.recent]

/-- A step that begins with some fetches has them first on record. -/
theorem activity_begins (hstep : Processor.step p = ⟨.ok cycles, q, told⟩) {pc : Address}
    {bytes : List Byte} (hbegins : fetching pc bytes <:+ p.stepExchanges) :
    q.bus.activity.take bytes.length = fetches pc bytes := by
  -- The exchanges have the latest in front, so the record begins with what ends them.
  obtain ⟨later, hlater⟩ := hbegins
  apply eq_fetches
  rw [List.map_take, map_exchange_activity hstep, ← hlater, List.reverse_append, fetching,
    List.reverse_reverse]
  exact List.take_left' (by rw [List.length_map, length_fetches])

/-- The record of a step that has executed an instruction agrees with its listing. -/
theorem onRecord {i : Instruction} {cycles' : Int}
    (hstep : Processor.step p = ⟨.ok cycles, q, told⟩)
    (hlast : q.last = some (.instruction i cycles')) :
    ∃ opcode, i.OnRecord p.state opcode q.bus.activity q.state := by
  -- No interrupt was due, since an instruction has been executed.
  obtain ⟨_, -, hdue, -⟩ := turned_of_last hstep hlast
  obtain ⟨_, _, opcode, _, decoding, hsame, hdecoded, hpast, hpc, hnothing⟩ :=
    reached_of_last (always_turn_listed variant hdue) hstep hlast
  cases hsame
  have hlength : i.listing.length = (opcode :: i.operand.bytes).length := hdecoded.length_eq
  refine ⟨opcode, hdecoded.descriptor_eq, ?_, ?_, ?_, hpc, fun hdocumented => ?_⟩
  · show Hex.padded 2 i.opcode = Hex.padded 2 opcode.toNat
    rw [hdecoded.opcode_eq]
  · rw [hlength, List.length_cons, Nat.add_comm]
    rfl
  · rw [hlength]
    exact activity_begins hstep (hdecoded.fetched.trans hpast)
  · apply eq_fetches
    rw [map_exchange_activity hstep, hnothing hdocumented, fetching, List.reverse_reverse]
    rfl

end Cpu

/-- What was on record before a step does not matter to it. -/
theorem Processor.step_of_recent {A : Architecture} (p : Processor A Bus) (recent : List Activity) :
    step { p with bus := { p.bus with recent := recent } } = step p := by
  rw [step_eq, step_eq]
  rfl

/-! ## Steps and traces -/

/-- Records are faithful, and a trace is a step with its record.

When a step has executed an instruction, its record begins with the bytes of the instruction from
the program counter on, the opcode and then those of the operand as they are listed. The program
counter moves on by as many unless a jump, a call, a return, a break or a taken branch leads it
elsewhere, and an opcode without a documented meaning makes no other access. Nothing that was on
record before makes a difference. A trace succeeds if the step does, with the same processor
afterwards but for the record, which it gives away. -/
theorem Cpu.record_faithful {variant : Variant} (p : Cpu variant Bus) :
    (∀ cycles q told i cycles', Processor.step p = ⟨.ok cycles, q, told⟩ →
      q.last = some (.instruction i cycles') →
      ∃ opcode, i.OnRecord p.state opcode q.bus.activity q.state) ∧
    (∀ recent, Processor.step { p with bus := { p.bus with recent := recent } } =
      Processor.step p) ∧
    (∀ cycles q told operation, Processor.step p = ⟨.ok cycles, q, told⟩ →
      q.last = some operation →
      Processor.trace p = ⟨.ok ⟨operation, q.clock.total, q.bus.activity, q.state⟩,
        { q with bus := { q.bus with recent := [] } }, told⟩) ∧
    ∀ fault q told, Processor.step p = ⟨.error fault, q, told⟩ →
      Processor.trace p = ⟨.error fault, q, told⟩ := by
  refine ⟨fun _ _ _ _ _ hstep hlast => onRecord hstep hlast, p.step_of_recent, ?_, ?_⟩
  · intro cycles q told operation hstep hlast
    -- A trace is completed just where its step is.
    rcases p.trace_eq with ⟨_, _, _, hstep', hlast', htrace⟩ | ⟨_, _, _, hstep', -⟩
    · obtain ⟨-, rfl, rfl⟩ := Outcome.mk.inj (hstep.symm.trans hstep')
      obtain rfl := Option.some.inj (hlast.symm.trans hlast')
      exact htrace
    · exact nomatch (Outcome.mk.inj (hstep.symm.trans hstep')).1
  · intro fault q told hstep
    rcases p.trace_eq with ⟨_, _, _, hstep', -, -⟩ | ⟨_, _, _, hstep', htrace⟩
    · exact nomatch (Outcome.mk.inj (hstep.symm.trans hstep')).1
    · obtain ⟨hfault, rfl, rfl⟩ := Outcome.mk.inj (hstep.symm.trans hstep')
      rw [htrace, Except.error.inj hfault]

/-- A load whose last operand byte comes around the end of memory, after an access of the host. -/
theorem Cpu.record_faithful_around :
    let bytes := ((((Bytes.uniform 0).set 16 0xFFFE 0xBD).set 16 0xFFFF 0x34).set 16 0 0x12)
    let p : Cpu .nmos Bus :=
      { Cpu.new .nmos { Bus.ramOf bytes with recent := [.read 7 0] } with
        state := { Registers.initial with pc := 0xFFFE, x := 1 } }
    ∃ q told i, Processor.step p = ⟨.ok 4, q, told⟩ ∧ q.last = some (.instruction i 4) ∧
      (∃ opcode, i.OnRecord p.state opcode q.bus.activity q.state) ∧ q.state.pc = 1 ∧
      q.bus.activity = [.read 0xFFFE 0xBD, .read 0xFFFF 0x34, .read 0 0x12, .read 0x1235 0] ∧
      Processor.trace p = ⟨.ok ⟨.instruction i 4, q.clock.total, q.bus.activity, q.state⟩,
        { q with bus := { q.bus with recent := [] } }, told⟩ := by
  intro bytes p
  let q := (Processor.step p).machine
  have hstep : Processor.step p = ⟨.ok 4, q, (Processor.step p).notices⟩ :=
    Outcome.eq_of_result (by decide +kernel)
  have hlast : q.last = some (.instruction ⟨0xBD, .nmos, ⟨.lda, .absoluteX, 4⟩,
      ⟨.absoluteX, .cell 0x1235, false, [0x34, 0x12]⟩⟩ 4) := by decide +kernel
  have hpc : q.state.pc = 1 := by decide +kernel
  have hactivity : q.bus.activity =
      [.read 0xFFFE 0xBD, .read 0xFFFF 0x34, .read 0 0x12, .read 0x1235 0] := by decide +kernel
  obtain ⟨hrecord, -, htrace, -⟩ := Cpu.record_faithful p
  exact ⟨q, _, _, hstep, hlast, hrecord _ _ _ _ _ hstep hlast, hpc, hactivity,
    htrace _ _ _ _ hstep hlast⟩

end Micro6502
