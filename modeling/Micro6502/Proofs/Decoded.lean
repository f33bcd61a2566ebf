import Micro6502.Proofs.Target
import Micro6502.Proofs.Turn

/-!
# Instructions as they come from the program

An instruction is fetched byte by byte, from the program counter on, before any pointer is followed.
The bytes that its mode says it has are those that are fetched, with a documented meaning or
without, so that the program counter ends behind the last of them.

What an instruction always does from there is what the turn does. `always_turn_of_executed` says
this for any goal, and is the way from the instructions to the turns.

## Contents

- `fetches`, the reads of consecutive bytes of the program, and `fetching`, the same as exchanges
- `Operand.always_resolve_fetched` and `Operand.always_fetchMany_fetched`
- `Instruction.Decoded`, what is known of a decoded instruction, with `Instruction.always_decoded`
- `always_turn_of_executed`, with `always_turn_of_decoded` and `always_turn_instruction` for goals
  that do not speak of the cycles
-/

namespace Micro6502

/-! ## Consecutive bytes -/

/-- The reads of some bytes of the program as they are on record, oldest first. Addresses wrap. -/
def fetches (pc : Address) : List Byte → List Activity
  | [] => []
  | b :: rest => .read pc.toNat b :: fetches (pc + 1) rest

/-- The same reads as exchanges, the latest in front. -/
def fetching (pc : Address) (bytes : List Byte) : List Exchange :=
  ((fetches pc bytes).map Activity.exchange).reverse

/-- The first byte is the one that is read first. -/
theorem fetching_cons (pc : Address) (b : Byte) (rest : List Byte) :
    fetching pc (b :: rest) = fetching (pc + 1) rest ++ [.read pc.toNat b] := by
  simp [fetching, fetches, Activity.exchange]

theorem length_fetches (pc : Address) (bytes : List Byte) :
    (fetches pc bytes).length = bytes.length := by
  induction bytes generalizing pc with
  | nil => rfl
  | cons b rest ih => simp [fetches, ih]

/-- What has been asked and answered like some fetches is the record of these. -/
theorem eq_fetches {pc : Address} {bytes : List Byte} {activity : List Activity}
    (h : activity.map Activity.exchange = (fetches pc bytes).map Activity.exchange) :
    activity = fetches pc bytes := by
  induction bytes generalizing pc activity with
  | nil => simpa [fetches] using h
  | cons b rest ih =>
    obtain ⟨first, others, rfl, hfirst, hothers⟩ := List.map_eq_cons_iff.mp h
    cases first with
    -- Fetches do not write.
    | write a data previous => exact nomatch hfirst
    | read a c =>
      cases hfirst
      rw [fetches, ih hothers]

/-- How many bytes are read to find an operand: its own, and those of the pointer that it leads
over. -/
def Mode.reads : Mode → Nat
  | .indirect => 4
  | .indexedIndirect | .indirectIndexed => 3
  | mode => mode.operandLength

namespace Operand

/-- The operand has as many bytes as its mode says, and these have been fetched first. -/
def FetchedFrom (pc : Address) (mode : Mode) (past past' : List Exchange) (o : Operand) : Prop :=
  o.bytes.length = mode.operandLength ∧ fetching pc o.bytes ++ past <:+ past'

/-- Finding an operand fetches its bytes. Only then are pointers followed, and that is all. -/
theorem always_resolve_fetched (mode : Mode) (r : Registers) (past : List Exchange) :
    (resolve mode r).Always (fun _ _ _ => True)
      (fun past' _ o => o.FetchedFrom r.pc mode past past' ∧
        past'.length = past.length + mode.reads) past := by
  cases mode with
  -- There is no operand, and nothing is fetched for it.
  | implied | accumulator => exact ⟨⟨rfl, List.suffix_refl past⟩, rfl⟩
  | immediate => exact ⟨trivial, fun b => ⟨⟨rfl, List.suffix_refl _⟩, rfl⟩⟩
  | zeroPage | zeroPageX | zeroPageY =>
    exact ⟨trivial, fun base => ⟨⟨rfl, List.suffix_refl _⟩, rfl⟩⟩
  | absolute | absoluteX | absoluteY =>
    exact ⟨trivial, fun low => ⟨trivial, fun high => ⟨⟨rfl, List.suffix_refl _⟩, rfl⟩⟩⟩
  | indirect =>
    simp only [resolve, Action.always_bind, always_fetch, Action.always_read, Action.always_pure,
      true_and]
    intro low high targetLow targetHigh
    exact ⟨⟨rfl, List.suffix_append [_, _] _⟩, rfl⟩
  | indexedIndirect | indirectIndexed =>
    simp only [resolve, Action.always_bind, always_fetch, Action.always_get, always_readPointer,
      Action.always_pure, true_and]
    intro base low high
    exact ⟨⟨rfl, List.suffix_append [_, _] _⟩, rfl⟩
  | relative => exact ⟨trivial, fun offset => ⟨⟨rfl, List.suffix_refl _⟩, rfl⟩⟩

theorem always_fetchMany_fetched (n : Nat) (r : Registers) (past : List Exchange) :
    (fetchMany n r).Always (fun _ _ _ => True)
      (fun past' _ bytes => bytes.length = n ∧ past' = fetching r.pc bytes ++ past)
      past := by
  -- The later bytes are fetched from an address that has moved on.
  induction n generalizing r past with
  | zero => exact ⟨rfl, rfl⟩
  | succ n ih =>
    simp only [fetchMany, Action.always_bind, always_fetch, Action.always_pure, true_and]
    intro b
    refine (ih { r with pc := r.pc + 1 } (.read r.pc.toNat b :: past)).mono (fun _ _ _ h => h) ?_
    intro past' _ bytes h
    obtain ⟨hlength, rfl⟩ := h
    exact ⟨congrArg (· + 1) hlength, by simp [fetching_cons]⟩

end Operand

/-! ## Decoded instructions -/

namespace Instruction

/-- The instruction with the given opcode has been decoded where the program counter of the
registers is, by the accesses in the past. -/
structure Decoded (variant : Variant) (r : Registers) (opcode : Byte) (past : List Exchange)
    (i : Instruction) : Prop where
  opcode_eq : i.opcode = opcode.toNat
  variant_eq : i.variant = variant
  descriptor_eq : i.descriptor = Descriptor.ofOpcode opcode
  serves : i.operand.Serves i.descriptor.mnemonic.need
  onBus : i.operand.OnBus
  fits : i.descriptor.isDocumented → i.operand.Fits i.descriptor.mode
  length_eq : i.descriptor.length = (opcode :: i.operand.bytes).length
  /-- The operand is where the memory that has answered has it. -/
  cell?_eq : i.descriptor.isDocumented → ∀ memory, AnsweredBy memory past →
    i.operand.cell? = i.descriptor.mode.cell? memory { r with pc := r.pc + 1 }
  /-- So is its page. -/
  crosses_eq : i.descriptor.isDocumented → ∀ memory, AnsweredBy memory past →
    i.operand.pageCrossed = i.descriptor.mode.crosses memory { r with pc := r.pc + 1 }
  /-- Nothing has been written. -/
  silent : written past = []
  /-- The bytes of the instruction have been read before all else. -/
  fetched : fetching r.pc (opcode :: i.operand.bytes) <:+ past
  /-- Behind them, only a pointer has been read. -/
  count : i.descriptor.isDocumented → past.length = 1 + i.descriptor.mode.reads
  /-- Without a documented meaning nothing else has been read. -/
  undocumented : i.descriptor.isDocumented = false →
    past = fetching r.pc (opcode :: i.operand.bytes)

/-- The opcode has been read first of all. -/
theorem Decoded.opcode_suffix {variant : Variant} {r : Registers} {opcode : Byte}
    {past : List Exchange} {i : Instruction} (h : i.Decoded variant r opcode past) :
    [.read r.pc.toNat opcode] <:+ past := by
  have hfetched := h.fetched
  rw [fetching_cons] at hfetched
  exact (List.suffix_append _ _).trans hfetched

/-- The opcode is the one in the memory that has answered. -/
theorem Decoded.memory_eq {variant : Variant} {r : Registers} {opcode : Byte}
    {past : List Exchange} {i : Instruction} (h : i.Decoded variant r opcode past)
    {memory : Address → Byte} (hmemory : AnsweredBy memory past) : memory r.pc = opcode :=
  ((answeredBy_cons_read ..).mp (hmemory.of_suffix h.opcode_suffix)).1

/-- The bytes of an instruction are fetched when it is decoded. -/
theorem always_decode_fetched (variant : Variant) (opcode : Int) (r : Registers)
    (past : List Exchange) :
    (decode variant opcode r).Always (fun _ _ _ => True)
      (fun past' _ i => i.operand.FetchedFrom r.pc i.descriptor.mode past past' ∧
        (i.descriptor.isDocumented → past'.length = past.length + i.descriptor.mode.reads) ∧
        (i.descriptor.isDocumented = false →
          past' = fetching r.pc i.operand.bytes ++ past)) past := by
  unfold decode
  cases hd : (Descriptor.ofOpcode (byte opcode)).isDocumented with
  | true =>
    simp only [if_true, Action.always_bind, Action.always_pure]
    refine (Operand.always_resolve_fetched _ r past).mono (fun _ _ _ h => h) ?_
    intro past' _ o h
    exact ⟨h.1, fun _ => h.2, fun hundocumented => by simp [hd] at hundocumented⟩
  | false =>
    simp only [Bool.false_eq_true, if_false, Action.always_bind, Action.always_get,
      Action.always_tell, Action.always_pure, Operand.skip]
    refine (Operand.always_fetchMany_fetched _ r past).mono (fun _ _ _ h => h) ?_
    intro past' _ bytes h
    obtain ⟨hlength, rfl⟩ := h
    exact ⟨⟨hlength, List.suffix_refl _⟩, fun hdocumented => by simp [hd] at hdocumented,
      fun _ => rfl⟩

/-- Behind the opcode the instruction is decoded, and the program counter ends behind it. -/
theorem always_decoded (variant : Variant) (opcode : Byte) (r : Registers) :
    (decode variant opcode.toNat { r with pc := r.pc + 1 }).Always (fun _ _ _ => True)
      (fun past s i => i.Decoded variant r opcode past ∧
        s = { r with pc := r.pc + BitVec.ofNat 16 i.descriptor.length })
      [.read r.pc.toNat opcode] := by
  -- Four accounts of one decoding, put together.
  have hdecode := always_decode variant opcode { r with pc := r.pc + 1 } [.read r.pc.toNat opcode]
  have hfits := always_decode_fits variant opcode.toNat { r with pc := r.pc + 1 }
    [.read r.pc.toNat opcode]
  have htarget := always_decode_target variant opcode { r with pc := r.pc + 1 }
    [.read r.pc.toNat opcode]
  have hfetched := always_decode_fetched variant opcode.toNat { r with pc := r.pc + 1 }
    [.read r.pc.toNat opcode]
  refine (((hdecode.and hfits).and htarget).and hfetched).mono (fun _ _ _ _ => trivial) ?_
  intro past s i h
  obtain ⟨⟨⟨⟨rfl, hopcode, hvariant, hdescriptor, hserves, honBus⟩, hfits⟩, hsilent, htarget⟩,
    ⟨hlength, hfetched⟩, hcount, hundocumented⟩ := h
  refine ⟨⟨hopcode, hvariant, hdescriptor, hserves, honBus, hfits, ?_,
    fun hi memory hmemory => (htarget hi memory hmemory).1,
    fun hi memory hmemory => (htarget hi memory hmemory).2, hsilent, ?_, hcount, ?_⟩, ?_⟩
  · -- The opcode counts as a byte of the instruction, and has been fetched in front of the others.
    rw [List.length_cons, hlength, Descriptor.length, Nat.add_comm]
  · rwa [fetching_cons]
  · rwa [fetching_cons]
  · rw [Descriptor.length, BitVec.ofNat_add, ← BitVec.add_assoc]
    rfl

end Instruction

/-- A turn in which no interrupt is due decodes the instruction at the program counter and executes
it. What it always does when it is executed, the turn does, and its cycles are those of the outcome
on top of its own. -/
theorem always_turn_of_executed (variant : Variant) {r : Registers}
    (hdue : Interrupts.due? r = none)
    (goal : Instruction → Byte → List Exchange → Registers → Int → Prop)
    (h : ∀ (i : Instruction) opcode past, i.Decoded variant r opcode past →
      (i.descriptor.mnemonic.execute i.variant i.operand
        { r with pc := r.pc + BitVec.ofNat 16 i.descriptor.length }).Always (fun _ _ _ => True)
        (fun past' s extra => goal i opcode past' s extra) past) :
    ((mos variant).turn r).Always (fun _ _ _ => True)
      (fun past s completed => ∃ i opcode extra decoding,
        completed = (.instruction i (Clock.instructionCycles i.descriptor.cycles
          i.operand.pageCrossed i.descriptor.hasPagePenalty extra), true) ∧
          i.Decoded variant r opcode decoding ∧ decoding <:+ past ∧ goal i opcode past s extra)
      [] := by
  rw [turn_of_not_due variant hdue]
  simp only [Architecture.instruction, Action.always_bind, Action.always_pure, always_fetch,
    true_and]
  intro opcode
  refine (Instruction.always_decoded variant opcode r).mono (fun _ _ _ h => h) ?_
  intro decoding s i hdecoded
  obtain ⟨hdecoded, rfl⟩ := hdecoded
  -- What has been decoded stays in the past of what is executed.
  simp only [Instruction.execute, Action.always_bind, Action.always_pure]
  refine (h i opcode decoding hdecoded).suffix.mono (fun _ _ _ _ => trivial) ?_
  intro past s' extra hgoal
  exact ⟨i, opcode, extra, decoding, rfl, hdecoded, hgoal.1, hgoal.2⟩

/-- What an instruction always does to the registers and the bus when it is executed, the turn
does. -/
theorem always_turn_of_decoded (variant : Variant) {r : Registers} (hdue : Interrupts.due? r = none)
    (goal : Instruction → Byte → List Exchange → Registers → Prop)
    (h : ∀ (i : Instruction) opcode past, i.Decoded variant r opcode past →
      (i.descriptor.mnemonic.execute i.variant i.operand
        { r with pc := r.pc + BitVec.ofNat 16 i.descriptor.length }).Always (fun _ _ _ => True)
        (fun past' s _ => goal i opcode past' s) past) :
    ((mos variant).turn r).Always (fun _ _ _ => True)
      (fun past s completed => ∃ i opcode cycles decoding,
        completed = (.instruction i cycles, true) ∧ i.Decoded variant r opcode decoding ∧
          decoding <:+ past ∧ goal i opcode past s) [] := by
  have hturn := always_turn_of_executed variant hdue
    (fun i opcode past s _ => goal i opcode past s) h
  refine hturn.mono (fun _ _ _ h => h) ?_
  rintro past s completed ⟨i, opcode, extra, decoding, hcompleted, hdecoded, hpast, hgoal⟩
  exact ⟨i, opcode, _, decoding, hcompleted, hdecoded, hpast, hgoal⟩

/-- What each instruction always does when it is executed holds of the one that a turn executes. -/
theorem always_turn_instruction {variant : Variant} {r : Registers}
    (hdue : Interrupts.due? r = none) {goal : Instruction → List Exchange → Registers → Prop}
    (h : ∀ (i : Instruction) opcode past, i.Decoded variant r opcode past →
      (i.descriptor.mnemonic.execute i.variant i.operand
        { r with pc := r.pc + BitVec.ofNat 16 i.descriptor.length }).Always (fun _ _ _ => True)
        (fun past' s _ => goal i past' s) past) :
    ((mos variant).turn r).Always (fun _ _ _ => True)
      (fun past s completed => ∀ i cycles, completed.1 = .instruction i cycles → goal i past s)
      [] := by
  refine (always_turn_of_decoded variant hdue (fun i _ => goal i) h).mono (fun _ _ _ h => h) ?_
  rintro past s _ ⟨i, _, cycles, _, rfl, -, -, hgoal⟩ _ _ hsame
  cases hsame
  exact hgoal

end Micro6502
