import Micro6502.Proofs.Decoded
import Micro6502.Proofs.History

/-!
# What an instruction may touch

Every instruction has its registers and its flags, and leaves all others as they were, whatever
bytes it finds in memory. Most instructions also have a result, a byte that they put into a
register or into memory, and the flags N and Z describe it.

## Contents

- `Descriptor.registers` and `Mnemonic.flags`, what an instruction may change
- `Registers.SameBut`, all else is as it was, with `Registers.without`, which masks what may differ
- `Result`, with `Mnemonic.result?`: the byte that the flags describe
- `Mnemonic.leaves_without`, the frame of execution, and `Mnemonic.always_described`
- `Cpu.step_touches`
-/

namespace Micro6502

/-! ## Registers and flags by instruction -/

/-- The registers, but for the program counter and the status, that an instruction may change. -/
def Descriptor.registers (d : Descriptor) : List Register :=
  match d.mnemonic with
  | .lda | .txa | .tya | .adc | .sbc | .and | .ora | .eor => [.a]
  | .asl | .lsr | .rol | .ror => if d.mode = .accumulator then [.a] else []
  | .ldx | .tax | .tsx | .inx | .dex => [.x]
  | .ldy | .tay | .iny | .dey => [.y]
  | .pla => [.a, .sp]
  | .txs | .pha | .php | .plp | .jsr | .rts | .rti | .brk => [.sp]
  | _ => []

/-- The flags that an instruction may change. -/
def Mnemonic.flags : Mnemonic → List Flag
  | lda | ldx | ldy | tax | tay | txa | tya | tsx | and | ora | eor | pla | inc | dec | inx | dex
  | iny | dey => [.negative, .zero]
  | adc | sbc => [.negative, .overflow, .zero, .carry]
  | cmp | cpx | cpy | asl | lsr | rol | ror => [.negative, .zero, .carry]
  | bit => [.negative, .overflow, .zero]
  | clc | sec => [.carry]
  | cli | sei | brk => [.interrupt]
  | cld | sed => [.decimal]
  | clv => [.overflow]
  | plp | rti => Flag.all
  | _ => []

/-! ## All else as it was -/

namespace Registers

/-- The registers but for the program counter, the latches, and the named registers and flags. -/
def without (words : List Register) (flags : List Flag) (r : Registers) : Registers where
  pc := 0
  sp := bif words.contains .sp then 0 else r.sp
  a := bif words.contains .a then 0 else r.a
  x := bif words.contains .x then 0 else r.x
  y := bif words.contains .y then 0 else r.y
  status :=
    { negative := !flags.contains .negative && r.status.negative
      overflow := !flags.contains .overflow && r.status.overflow
      brk := !flags.contains .brk && r.status.brk
      decimal := !flags.contains .decimal && r.status.decimal
      interrupt := !flags.contains .interrupt && r.status.interrupt
      zero := !flags.contains .zero && r.status.zero
      carry := !flags.contains .carry && r.status.carry }
  irq := false
  nmi := false

/-- Only the named registers, bits of the status byte that belong to the named flags, and the
program counter may differ. -/
structure SameBut (r : Registers) (words : List Register) (flags : List Flag) (s : Registers) :
    Prop where
  word : ∀ register, register ≠ .pc → register ≠ .p → register ∉ words →
    s.read register = r.read register
  bit : ∀ n, n ∉ flags.map Flag.bit → (s.read .p).testBit n = (r.read .p).testBit n

variable {words : List Register} {flags : List Flag} {r s : Registers}

theorem get_of_without_eq (h : s.without words flags = r.without words flags) {flag : Flag}
    (hflag : flag ∉ flags) : s.status.get flag = r.status.get flag := by
  have hstatus := congrArg (fun s : Registers => s.status.get flag) h
  cases flag <;> simpa [without, Status.get, hflag] using hstatus

/-- The bits of a status byte that stay are those of the flags that stay, and bit 5. -/
theorem testBit_read_of_get {n : Nat} (hget : ∀ flag ∉ flags, s.status.get flag = r.status.get flag)
    (hn : n ∉ flags.map Flag.bit) : (s.read .p).testBit n = (r.read .p).testBit n := by
  show s.status.pack.toNat.testBit n = r.status.pack.toNat.testBit n
  rw [BitVec.testBit_toNat, BitVec.testBit_toNat]
  by_cases hlarge : 8 ≤ n
  · rw [BitVec.getLsbD_of_ge _ _ hlarge, BitVec.getLsbD_of_ge _ _ hlarge]
  · -- Bit 5 is no flag and is always set.
    rcases Flag.exists_bit (Nat.lt_of_not_le hlarge) with rfl | ⟨flag, rfl⟩
    · rw [Status.getLsbD_pack_five, Status.getLsbD_pack_five]
    · have hflag : flag ∉ flags := fun h => hn (List.mem_map_of_mem h)
      rw [Status.getLsbD_pack, Status.getLsbD_pack, hget flag hflag]

theorem SameBut.of_without_eq (h : s.without words flags = r.without words flags) :
    r.SameBut words flags s where
  word register hpc hp hregister := by
    have hword := congrArg (fun s : Registers => s.read register) h
    cases register with
    | pc => exact absurd rfl hpc
    | p => exact absurd rfl hp
    | sp | a | x | y => simpa [without, read, hregister] using hword
  bit n hn := testBit_read_of_get (fun _ hflag => get_of_without_eq h hflag) hn

theorem SameBut.get (h : r.SameBut words flags s) {flag : Flag} (hflag : flag ∉ flags) :
    s.status.get flag = r.status.get flag := by
  have hbit : flag.bit ∉ flags.map Flag.bit := by
    intro hmem
    obtain ⟨other, hother, hsame⟩ := List.mem_map.mp hmem
    exact hflag (Flag.bit_injective hsame ▸ hother)
  have hsame := h.bit flag.bit hbit
  rw [read, read, BitVec.testBit_toNat, BitVec.testBit_toNat] at hsame
  rwa [Status.getLsbD_pack, Status.getLsbD_pack] at hsame

end Registers

/-! ## Results -/

/-- The flags N and Z are the top bit of the byte and whether it is zero. -/
structure Status.Describes (status : Status) (b : Byte) : Prop where
  negative : status.negative = b.getLsbD 7
  zero : status.zero = true ↔ b = 0

/-- What an instruction makes the flags describe. -/
inductive Result where
  /-- What it puts into a register. -/
  | register (name : Register)
  /-- What it puts in place of its operand. -/
  | operand
  /-- The difference of a register and its operand, which it puts nowhere. -/
  | difference (name : Register)
  deriving DecidableEq, Repr

/-- The result of an instruction, if it has one. -/
def Mnemonic.result? : Mnemonic → Option Result
  | lda | txa | tya | pla | and | ora | eor | adc | sbc => some (.register .a)
  | ldx | tax | tsx | inx | dex => some (.register .x)
  | ldy | tay | iny | dey => some (.register .y)
  | asl | lsr | rol | ror | inc | dec => some .operand
  | cmp => some (.difference .a)
  | cpx => some (.difference .x)
  | cpy => some (.difference .y)
  | _ => none

/-- The byte is the value of the operand: the accumulator, the one that came with the program, or
the one that has just been read. -/
def Operand.ReadAs (o : Operand) (past : List Exchange) (r : Registers) (b : Byte) : Prop :=
  match o.location with
  | .nowhere => False
  | .accumulator => b = r.a
  | .value v => b = v
  | .cell a => past.head? = some (.read a b)

/-- The byte is the result of an instruction that has taken the registers `r` to `s`. If it went to
memory, then it did so by the latest access. -/
def Result.Is (o : Operand) (past : List Exchange) (r s : Registers) (b : Byte) : Result → Prop
  | .register name => s.read name = b.toNat
  | .operand =>
    match o.location with
    | .accumulator => s.a = b
    | .cell a => past.head? = some (.write a b.toNat)
    | _ => False
  | .difference name => ∃ m, o.ReadAs past r m ∧ b = byte (r.read name - m.toNat)

/-- The registers have gone from `r` to `s`, and the flags describe the result of the instruction,
if it has one. Sums and differences are described only if they are binary. -/
def Mnemonic.Described (variant : Variant) (o : Operand) (past : List Exchange) (r s : Registers)
    (m : Mnemonic) : Prop :=
  ∀ result, m.result? = some result →
    (m = .adc ∨ m = .sbc → (variant.hasDecimal && r.status.decimal) = false) →
    ∃ b, result.Is o past r s b ∧ s.status.Describes b

/-! ## The frame of execution -/

section Frame

open Micro6502.Action (Leaves)

/-- Entering a handler leaves what neither the stack pointer nor the program counter nor the mask
can touch. -/
theorem Interrupts.leaves_enter {view : Registers → τ}
    (hsp : ∀ (r : Registers) b, view { r with sp := b } = view r)
    (hpc : ∀ (r : Registers) a, view { r with pc := a } = view r)
    (hmask : ∀ r : Registers, view (r.setFlag .interrupt true) = view r)
    (vector target : Int) (isBreak : Bool) : Leaves view (enter vector target isBreak) := by
  have hword : Leaves view (Action.readWord vector) := by
    intro r past
    simp
  exact .bind (Stack.leaves_pushWord hsp _) fun _ => .bind .get fun _ =>
    .bind (Stack.leaves_push hsp _) fun _ => .bind (.modify hmask) fun _ =>
    .bind hword fun pc => .modify fun r => hpc r pc

/-- An instruction changes its own registers and flags only. -/
theorem Mnemonic.leaves_without (variant : Variant) {d : Descriptor} {o : Operand} (ho : o.OnBus)
    (haccumulator : o.location = .accumulator → d.mode = .accumulator)
    (hcount : d.mnemonic = .inc ∨ d.mnemonic = .dec → d.mode ≠ .accumulator) :
    Leaves (Registers.without d.registers d.mnemonic.flags) (d.mnemonic.execute variant o) := by
  -- By the pattern of the instruction, as what it may change follows its pattern.
  obtain ⟨m, mode, cycles⟩ := d
  cases m
  case lda | ldx | ldy | and | ora | eor | bit | cmp | cpx | cpy =>
    exact Execute.leaves_load ho fun _ _ => rfl
  case adc =>
    refine Execute.leaves_load ho fun r b => ?_
    unfold Variant.add
    split <;> rfl
  case sbc =>
    refine Execute.leaves_load ho fun r b => ?_
    unfold Variant.subtract
    split <;> rfl
  case sta | stx | sty => exact Execute.leaves_store ho _
  case tax | tay | txa | tya | tsx | txs | inx | dex | iny | dey | clc | sec | cli | sei | clv |
      cld | sed =>
    exact Execute.leaves_register fun _ => rfl
  case asl | rol =>
    refine .bind (Operand.leaves_update_at ho (fun _ b => Arithmetic.givesByte_shiftInLow b _)
      (fun _ _ => rfl) fun hlocation _ _ => ?_) fun _ => .pure 0
    obtain rfl : mode = .accumulator := haccumulator hlocation
    rfl
  case lsr | ror =>
    refine .bind (Operand.leaves_update_at ho (fun _ b => Arithmetic.givesByte_shiftInHigh b _)
      (fun _ _ => rfl) fun hlocation _ _ => ?_) fun _ => .pure 0
    obtain rfl : mode = .accumulator := haccumulator hlocation
    rfl
  case inc | dec =>
    -- Counting is never done in the accumulator.
    exact .bind (Operand.leaves_update_at ho (fun _ _ => Arithmetic.givesByte_mod _)
      (fun _ _ => rfl) fun hlocation => absurd (haccumulator hlocation) (hcount (by simp)))
      fun _ => .pure 0
  case bcc | bcs | beq | bne | bmi | bpl | bvc | bvs =>
    show Leaves _ (execute variant o _)
    rw [execute]
    exact Execute.leaves_branch o _ fun _ _ => rfl
  case jmp => exact .bind (Execute.leaves_jump o fun _ _ => rfl) fun _ => .pure 0
  case jsr =>
    exact .bind .get fun r => .bind (Stack.leaves_pushWord (fun _ _ => rfl) _) fun _ =>
      .bind (Execute.leaves_jump o fun _ _ => rfl) fun _ => .pure 0
  case rts =>
    exact .bind (Stack.leaves_pullWord fun _ _ => rfl) fun _ =>
      .bind (.modify fun _ => rfl) fun _ => .pure 0
  case pha | php =>
    exact .bind .get fun r => .bind (Stack.leaves_push (fun _ _ => rfl) _) fun _ => .pure 0
  case pla =>
    exact .bind (Stack.leaves_pull fun _ _ => rfl) fun _ => .bind (.modify fun _ => rfl) fun _ =>
      .pure 0
  case plp => exact .bind (Execute.leaves_pullStatus fun _ _ _ => rfl) fun _ => .pure 0
  case rti =>
    exact .bind (Execute.leaves_pullStatus fun _ _ _ => rfl) fun _ =>
      .bind (Stack.leaves_pullWord fun _ _ => rfl) fun _ => .bind (.modify fun _ => rfl) fun _ =>
      .pure 0
  case brk =>
    refine .bind (.bind .get fun r => ?_) fun _ => .pure 0
    -- The latch of a request that takes the break elsewhere is no register of the frame.
    have henter (vector : Int) : Leaves (Registers.without [.sp] [.interrupt])
        (Interrupts.enter vector (r.pc + 1).toNat true) :=
      Interrupts.leaves_enter (fun _ _ => rfl) (fun _ _ => rfl) (fun _ => rfl) _ _ _
    cases r.nmi with
    | false => exact henter Interrupts.irqVector
    | true =>
      exact .bind (.modify fun _ => rfl) fun _ => .bind (fun _ _ => rfl) fun _ =>
        henter Interrupts.nmiVector
  case nop | skip => exact .pure 0

end Frame

/-! ## Flags that describe the result -/

namespace Arithmetic

theorem byte_sub (a b : Byte) : byte (a.toNat - b.toNat) = a - b := by
  apply BitVec.eq_of_toNat_eq
  rw [byte, BitVec.toNat_ofInt, BitVec.toNat_sub]
  omega

theorem describes_setNZ (status : Status) (b : Byte) : (status.setNZ b).Describes b where
  negative := rfl
  zero := beq_iff_eq

/-- Work on a byte gives a byte that the flags describe. -/
def DescribesWork (work : Registers → Byte → Registers × Int) : Prop :=
  ∀ r b, GivesByte (work r b).2 ∧ (work r b).1.status.Describes (byte (work r b).2)

theorem describes_shifted (r : Registers) (result : Int) (carry : Bool) :
    (shifted r result carry).1.status.Describes (byte result) where
  negative := rfl
  zero := beq_iff_eq

theorem describes_addBinary (r : Registers) (m : Byte) :
    (addBinary r m).status.Describes (addBinary r m).a where
  negative := rfl
  zero := beq_iff_eq

end Arithmetic

namespace Execute

/-- An instruction that reads its operand works with the byte that it has read. -/
theorem always_load {o : Operand} (ho : o.Serves .value) (f : Registers → Byte → Registers)
    (r : Registers) (past : List Exchange) :
    (load o f r).Always (fun _ _ _ => True)
      (fun past' s _ => ∃ b, o.ReadAs past' r b ∧ s = f r b) past := by
  unfold load Operand.ReadAs
  simp only [Action.always_bind, Operand.always_read]
  -- The operand serves, so it has a value to read.
  cases hlocation : o.location with
  | nowhere => simp [Operand.Serves, Operand.read?, hlocation] at ho
  | accumulator => exact ⟨r.a, rfl, rfl⟩
  | value v => exact ⟨v, rfl, rfl⟩
  | cell a => exact ⟨trivial, fun b => ⟨b, rfl, rfl⟩⟩

/-- An instruction that works in place leaves a described byte there. -/
theorem always_update_described {o : Operand} (ho : o.Serves .place)
    {work : Registers → Byte → Registers × Int} (hwork : Arithmetic.DescribesWork work)
    (r start : Registers) (past : List Exchange) :
    (update o work r).Always (fun _ _ _ => True)
      (fun past' s _ => ∃ b, Result.operand.Is o past' start s b ∧ s.status.Describes b) past := by
  unfold update Operand.update Result.Is
  simp only [Action.always_bind, Operand.always_read]
  -- Here it is a place, so there is somewhere to put the result.
  cases hlocation : o.location with
  | nowhere => simp [Operand.Serves, Operand.address?, hlocation] at ho
  | value v => simp [Operand.Serves, Operand.address?, hlocation] at ho
  | accumulator =>
    unfold Operand.write
    rw [hlocation]
    exact ⟨_, rfl, (hwork r r.a).2⟩
  | cell a =>
    refine ⟨trivial, fun b => ?_⟩
    unfold Operand.write
    rw [hlocation]
    obtain ⟨hbyte, hdescribes⟩ := hwork r b
    exact ⟨trivial, _, by rw [toNat_byte_of_isByte (isByte_iff.mpr hbyte)]; rfl, hdescribes⟩

end Execute

namespace Mnemonic

variable {variant : Variant} {o : Operand} {past : List Exchange} {r s : Registers} {m : Mnemonic}

theorem Described.of_none (h : m.result? = none) : m.Described variant o past r s := by
  intro result hresult
  rw [h] at hresult
  exact nomatch hresult

/-- What an instruction has left is described, where a sum is asked for only if it is binary. -/
theorem Described.of_some {result : Result} (h : m.result? = some result)
    (hdescribes : (m = .adc ∨ m = .sbc → (variant.hasDecimal && r.status.decimal) = false) →
      ∃ b, result.Is o past r s b ∧ s.status.Describes b) : m.Described variant o past r s := by
  intro result' hresult hbinary
  obtain rfl := Option.some.inj (h.symm.trans hresult)
  exact hdescribes hbinary

/-- A byte is put into a register and described. -/
theorem Described.of_setNZ {name : Register} {t : Registers} {b : Byte}
    (h : m.result? = some (.register name)) (hread : (t.setNZ b).read name = b.toNat) :
    m.Described variant o past r (t.setNZ b) :=
  .of_some h fun _ => ⟨b, hread, Arithmetic.describes_setNZ _ _⟩

/-- A register is compared with the operand. -/
theorem Described.of_compare {name : Register} {t : Registers} {register b : Byte}
    (h : m.result? = some (.difference name)) (hread : r.read name = register.toNat)
    (hb : o.ReadAs past r b) :
    m.Described variant o past r (Arithmetic.compare t register b) := by
  refine .of_some h fun _ => ⟨register - b, ⟨b, hb, ?_⟩, ⟨rfl, beq_iff_eq⟩⟩
  rw [hread, Arithmetic.byte_sub]

/-- The flags describe the result of an instruction when it has been executed. Its own operand
bytes have moved the program counter before that. -/
theorem always_described (variant : Variant) {o : Operand} {m : Mnemonic} (ho : o.Serves m.need)
    (r : Registers) (pc : Address) (past : List Exchange) :
    (m.execute variant o { r with pc := pc }).Always (fun _ _ _ => True)
      (fun past' s _ => m.Described variant o past' r s) past := by
  cases m
  case lda | ldx | ldy | and | ora | eor =>
    refine (Execute.always_load ho _ _ past).mono (fun _ _ _ h => h) ?_
    rintro past' s _ ⟨b, -, rfl⟩
    exact .of_setNZ rfl rfl
  case txa | tya | tax | tsx | inx | dex | tay | iny | dey => exact .of_setNZ rfl rfl
  case pla => exact ⟨trivial, fun b => .of_setNZ rfl rfl⟩
  case adc =>
    refine (Execute.always_load ho _ _ past).mono (fun _ _ _ h => h) ?_
    rintro past' s _ ⟨b, -, rfl⟩
    refine .of_some rfl fun hbinary => ?_
    -- The sum is asked for only if it is binary.
    have hadd : variant.add { r with pc := pc } b = Arithmetic.addBinary { r with pc := pc } b := by
      simp [Variant.add, hbinary (.inl rfl)]
    rw [hadd]
    exact ⟨_, rfl, Arithmetic.describes_addBinary _ _⟩
  case sbc =>
    refine (Execute.always_load ho _ _ past).mono (fun _ _ _ h => h) ?_
    rintro past' s _ ⟨b, -, rfl⟩
    refine .of_some rfl fun hbinary => ?_
    -- A binary subtraction is the addition of the complement.
    have hsubtract : variant.subtract { r with pc := pc } b =
        Arithmetic.addBinary { r with pc := pc } (~~~b) := by
      simp [Variant.subtract, Arithmetic.subtractBinary, hbinary (.inr rfl)]
    rw [hsubtract]
    exact ⟨_, rfl, Arithmetic.describes_addBinary _ _⟩
  -- The difference goes nowhere, but the flags describe it.
  case cmp | cpx | cpy =>
    refine (Execute.always_load ho _ _ past).mono (fun _ _ _ h => h) ?_
    rintro past' s _ ⟨b, hb, rfl⟩
    exact .of_compare rfl rfl hb
  case asl | rol =>
    refine (Execute.always_update_described ho (fun r b => ?_) _ r past).mono (fun _ _ _ h => h)
      fun _ _ _ h => .of_some rfl fun _ => h
    exact ⟨Arithmetic.givesByte_shiftInLow b _, Arithmetic.describes_shifted ..⟩
  case lsr | ror =>
    refine (Execute.always_update_described ho (fun r b => ?_) _ r past).mono (fun _ _ _ h => h)
      fun _ _ _ h => .of_some rfl fun _ => h
    exact ⟨Arithmetic.givesByte_shiftInHigh b _, Arithmetic.describes_shifted ..⟩
  case inc | dec =>
    refine (Execute.always_update_described ho (fun r b => ?_) _ r past).mono (fun _ _ _ h => h)
      fun _ _ _ h => .of_some rfl fun _ => h
    exact ⟨Arithmetic.givesByte_mod _, Arithmetic.describes_setNZ _ _⟩
  -- The others have no result.
  all_goals exact Dialogue.always_of_forall (fun _ _ _ => .of_none rfl) _ past

end Mnemonic

/-! ## Turns and steps -/

/-- A mode gives the accumulator only if it is the one that names it. -/
theorem Operand.Fits.mode_eq {o : Operand} {mode : Mode} (h : o.Fits mode)
    (hlocation : o.location = .accumulator) : mode = .accumulator := by
  cases mode <;> simp_all [Fits, Operand.value?]

/-- Counting is done in memory only. -/
theorem Descriptor.mode_ne_of_count (opcode : Byte) :
    (ofOpcode opcode).mnemonic = .inc ∨ (ofOpcode opcode).mnemonic = .dec →
      (ofOpcode opcode).mode ≠ .accumulator := by
  have h : ∀ n : Fin 256, (ofOpcode (BitVec.ofFin n)).mnemonic = .inc ∨
      (ofOpcode (BitVec.ofFin n)).mnemonic = .dec →
      (ofOpcode (BitVec.ofFin n)).mode ≠ .accumulator := by decide +kernel
  exact h opcode.toFin

/-- What an instruction has done to the registers `r` when they have become `s`. -/
structure Instruction.Touches (i : Instruction) (past : List Exchange) (r s : Registers) :
    Prop where
  /-- All but its own registers and flags are as they were. -/
  same : r.SameBut i.descriptor.registers i.descriptor.mnemonic.flags s
  /-- The flags describe its result, if it has one. -/
  described : i.descriptor.mnemonic.Described i.variant i.operand past r s
  /-- An opcode without a documented meaning moves the program counter, and writes nothing. -/
  undocumented : i.descriptor.isDocumented = false →
    s = { r with pc := r.pc + BitVec.ofNat 16 i.descriptor.length } ∧ written past = []

/-- An instruction without a documented meaning has only moved the program counter. -/
theorem Instruction.touches_undocumented {i : Instruction} {past : List Exchange} {r : Registers}
    (hi : i.descriptor.isDocumented = false) (hnothing : written past = []) :
    i.Touches past r { r with pc := r.pc + BitVec.ofNat 16 i.descriptor.length } where
  same := .of_without_eq rfl
  described := .of_none (by rw [Descriptor.mnemonic_eq_skip hi]; rfl)
  undocumented _ := ⟨rfl, hnothing⟩

/-- A decoded instruction is executed and has done what it may. -/
theorem Instruction.Decoded.always_touches {variant : Variant} {r : Registers} {opcode : Byte}
    {past : List Exchange} {i : Instruction} (h : i.Decoded variant r opcode past) :
    (i.descriptor.mnemonic.execute i.variant i.operand
      { r with pc := r.pc + BitVec.ofNat 16 i.descriptor.length }).Always (fun _ _ _ => True)
      (fun past' s _ => i.Touches past' r s) past := by
  -- Without a meaning there is nothing to execute.
  cases hi : i.descriptor.isDocumented with
  | false =>
    rw [Descriptor.mnemonic_eq_skip hi]
    exact touches_undocumented hi h.silent
  | true =>
    -- The frame and the result come from the same execution.
    have hcount := Descriptor.mode_ne_of_count opcode
    rw [← h.descriptor_eq] at hcount
    have hframe := Mnemonic.leaves_without i.variant h.onBus (h.fits hi).mode_eq hcount
    have hdescribed := Mnemonic.always_described i.variant h.serves r
      (r.pc + BitVec.ofNat 16 i.descriptor.length) past
    refine ((hframe _ past).and hdescribed).mono (fun _ _ _ _ => trivial) ?_
    intro past' s _ h
    -- The frame masks the program counter, which has moved before.
    exact ⟨.of_without_eq h.1, h.2, fun hi' => by simp [hi] at hi'⟩

/-- A turn in which no interrupt is due executes the instruction at the program counter. -/
theorem always_turn_touches (variant : Variant) {r : Registers}
    (hdue : Interrupts.due? r = none) :
    ((mos variant).turn r).Always (fun _ _ _ => True)
      (fun past s completed => ∃ i opcode cycles, completed = (.instruction i cycles, true) ∧
        [.read r.pc.toNat opcode] <:+ past ∧ i.descriptor = Descriptor.ofOpcode opcode ∧
        i.variant = variant ∧ i.Touches past r s) [] := by
  have hturn := always_turn_of_decoded variant hdue (fun i _ past s => i.Touches past r s)
    fun _ _ _ hdecoded => hdecoded.always_touches
  refine hturn.mono (fun _ _ _ h => h) ?_
  intro past s completed h
  obtain ⟨i, opcode, cycles, decoding, rfl, hdecoded, hpast, htouches⟩ := h
  exact ⟨i, opcode, cycles, rfl, hdecoded.opcode_suffix.trans hpast, hdecoded.descriptor_eq,
    hdecoded.variant_eq, htouches⟩

/-- An instruction touches its own registers and flags, and no others.

When a step succeeds and no interrupt is due, it executes the instruction of the byte at the program
counter. Registers that are not those of the instruction keep their contents, and so does every bit
of the status byte that is not one of its flags. If it has a result, then N and Z describe it. An
opcode without a documented meaning changes nothing but the program counter. -/
theorem Cpu.step_touches {variant : Variant} {β : Type} [HostBus β] {p q : Cpu variant β}
    {cycles : Int} {told : List Notice} (hdue : Interrupts.due? p.state = none)
    (hstep : Processor.step p = ⟨.ok cycles, q, told⟩) :
    ∃ i opcode, q.last = some (.instruction i cycles) ∧
      [.read p.state.pc.toNat opcode] <:+ p.stepExchanges ∧
      i.descriptor = Descriptor.ofOpcode opcode ∧ i.variant = variant ∧
      i.Touches p.stepExchanges p.state q.state := by
  obtain ⟨operation, isInstruction, hlast, hcycles, -, i, opcode, cycles', hcompleted, htouches⟩ :=
    Cpu.step_always (always_turn_touches variant hdue) hstep
  obtain ⟨rfl, -⟩ := Prod.mk.inj hcompleted
  obtain rfl : cycles = cycles' := hcycles
  exact ⟨i, opcode, hlast, htouches⟩

/-- A decrement in memory, at which the flags say that the cell has become zero. -/
theorem Cpu.step_touches_decrement :
    let program := (((Bytes.uniform 0).set 15 0 0xC6).set 15 1 0x10).set 15 0x10 1
    let p := Cpu.new .nmos (⟨program⟩ : FlatBus)
    Interrupts.due? p.state = none ∧ ∃ q told, Processor.step p = ⟨.ok 5, q, told⟩ ∧
      ∃ i, q.last = some (.instruction i 5) ∧ i.Touches p.stepExchanges p.state q.state := by
  intro program p
  have hstep : Processor.step p =
      ⟨.ok 5, (Processor.step p).machine, (Processor.step p).notices⟩ :=
    Outcome.eq_of_result (by decide +kernel)
  obtain ⟨i, -, hlast, -, -, -, htouches⟩ := Cpu.step_touches rfl hstep
  exact ⟨rfl, _, _, hstep, i, hlast, htouches⟩

end Micro6502
