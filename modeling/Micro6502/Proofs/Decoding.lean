import Micro6502.Processor.Mos
import Micro6502.Proofs.Conduct

/-!
# Decoding, whatever the bus answers

Fetching and decoding make proper accesses only: their addresses are on the bus. They change no
register but the program counter, and the operand that they find has what the instruction will ask
of it.

## Contents

- `Access.Proper`
- The rules for fetching, for the stack, for operands and for branches
- `Operand.Serves`, an operand that has what the instruction asks for
- `Operand.always_resolve`, `Instruction.always_decode` and `Instruction.always_decode_fits`
-/

namespace Micro6502

/-! ## Proper accesses -/

/-- The address is on the bus, and what is written is a byte. -/
def Access.Proper : Access → Prop
  | read a => 0 ≤ a ∧ a ≤ 0xFFFF
  | write a data => (0 ≤ a ∧ a ≤ 0xFFFF) ∧ 0 ≤ data ∧ data ≤ 0xFF

namespace Access

theorem address_bounds (a : Address) : 0 ≤ (a.toNat : Int) ∧ (a.toNat : Int) ≤ 0xFFFF := by
  have := a.isLt
  omega

theorem byte_bounds (b : Byte) : 0 ≤ (b.toNat : Int) ∧ (b.toNat : Int) ≤ 0xFF := by
  have := b.isLt
  omega

@[simp] theorem proper_read (a : Address) : (read a.toNat).Proper := address_bounds a

@[simp] theorem proper_read_mod (a : Int) : (read (a % 65536)).Proper := by
  constructor <;> omega

@[simp] theorem proper_read_page (a : Int) : (read (a % 256)).Proper := by
  constructor <;> omega

/-- The high byte of an indirect target is on the page of the pointer, or just behind the low byte
if that is not the last of its page. -/
theorem proper_read_target (low high : Byte) :
    (read (if low = 0xFF then ((wordOf low high).toNat : Int) - 0xFF
      else (wordOf low high).toNat + 1)).Proper := by
  have hword := toNat_wordOf low high
  have hlow := low.isLt
  have hhigh := high.isLt
  split
  · next h =>
    have hlow255 : low.toNat = 255 := congrArg BitVec.toNat h
    constructor <;> omega
  · next h =>
    -- Only here may the pointer be on the last page: it is not its last byte.
    have hlow255 : low.toNat ≠ 255 := fun h' => h (BitVec.eq_of_toNat_eq h')
    constructor <;> omega

@[simp] theorem proper_read_slot (sp : Byte) : (read (Stack.slot sp)).Proper := by
  have := sp.isLt
  unfold Stack.slot
  constructor <;> omega

@[simp] theorem proper_write_slot (sp : Byte) (value : Int) :
    (write (Stack.slot sp) (value % 0x100)).Proper := by
  refine ⟨proper_read_slot sp, ?_⟩
  omega

end Access

/-! ## Rules for the parts of an instruction -/

section Rules

variable {allowed : List Exchange → Registers → Access → Prop} {past : List Exchange}
  {r : Registers}

@[simp] theorem always_fetch {goal : List Exchange → Registers → Byte → Prop} :
    (fetch r).Always allowed goal past ↔
      allowed past r (.read r.pc.toNat) ∧
        ∀ b, goal (.read r.pc.toNat b :: past) { r with pc := r.pc + 1 } b := Iff.rfl

@[simp] theorem always_readPointer {goal : List Exchange → Registers → Address → Prop} (p : Int) :
    (readPointer p r).Always allowed goal past ↔
      allowed past r (.read (p % 0x100)) ∧ ∀ low,
        allowed (.read (p % 0x100) low :: past) r (.read ((p + 1) % 0x100)) ∧ ∀ high,
          goal (.read ((p + 1) % 0x100) high :: .read (p % 0x100) low :: past) r
            (wordOf low high) :=
  Iff.rfl

namespace Stack

@[simp] theorem always_push {goal : List Exchange → Registers → Unit → Prop} (value : Int) :
    (push value r).Always allowed goal past ↔
      allowed past r (.write (slot r.sp) (value % 0x100)) ∧
        goal (.write (slot r.sp) (value % 0x100) :: past) { r with sp := r.sp - 1 } () := Iff.rfl

end Stack

/-- Reading an operand: an access only if it is a cell. -/
theorem Operand.always_read {goal : List Exchange → Registers → Byte → Prop} (o : Operand) :
    (o.read r).Always allowed goal past ↔
      match o.location with
      | .nowhere => goal past r 0
      | .accumulator => goal past r r.a
      | .value b => goal past r b
      | .cell a => allowed past r (.read a) ∧ ∀ b, goal (.read a b :: past) r b := by
  unfold Operand.read Operand.read?
  cases o.location <;> exact Iff.rfl

/-- Going elsewhere makes no access. -/
@[simp] theorem Execute.always_jump {goal : List Exchange → Registers → Unit → Prop} (o : Operand) :
    (jump o r).Always allowed goal past ↔ goal past { r with pc := o.address?.getD r.pc } () := by
  unfold jump
  cases o.address? <;> exact Iff.rfl

@[simp] theorem Execute.always_branch {goal : List Exchange → Registers → Int → Prop} (o : Operand)
    (condition : Status → Bool) :
    (branch o condition r).Always allowed goal past ↔
      if condition r.status then
        goal past { r with pc := o.address?.getD r.pc } (if o.pageCrossed then 2 else 1)
      else goal past r 0 := by
  unfold branch
  cases h : condition r.status <;>
    simp [h, Action.always_bind, Action.always_get, Action.always_pure]

end Rules

/-! ## Operands that serve -/

/-- What an instruction asks of its operand. -/
inductive Need where
  | nothing
  /-- A value to read. -/
  | value
  /-- An address to write to or to go to. -/
  | address
  /-- A place to work on: a cell or the accumulator. -/
  | place
  deriving DecidableEq, Repr

/-- What an instruction asks of its operand. -/
def Mnemonic.need : Mnemonic → Need
  | lda | ldx | ldy | and | ora | eor | bit | adc | sbc | cmp | cpx | cpy => .value
  | sta | stx | sty | jmp | jsr | bcc | bcs | beq | bne | bmi | bpl | bvc | bvs => .address
  | asl | lsr | rol | ror | inc | dec => .place
  | _ => .nothing

/-- What the operands of an addressing mode can be used for. -/
def Mode.offers : Mode → Need → Bool
  | _, .nothing => true
  | .implied, _ => false
  | .accumulator, need => need != .address
  | .immediate, need => need == .value
  | _, _ => true

/-- The operand has what the instruction asks for. -/
def Operand.Serves (o : Operand) : Need → Prop
  | .nothing => True
  | .value => o.read?.isSome
  | .address => o.address?.isSome
  | .place => o.location = .accumulator ∨ o.address?.isSome

/-- Every opcode has a mode that suits its instruction. -/
theorem Descriptor.offers_need (opcode : Byte) :
    (ofOpcode opcode).mode.offers (ofOpcode opcode).mnemonic.need := by
  -- By a look at the whole table.
  have h : ∀ n : Fin 256, (ofOpcode (BitVec.ofFin n)).mode.offers
      (ofOpcode (BitVec.ofFin n)).mnemonic.need := by decide +kernel
  exact h opcode.toFin

/-! ## Finding the operand -/

/-- If the operand is a cell, then its address is on the bus. -/
def Operand.OnBus (o : Operand) : Prop := ∀ a, o.location = .cell a → (Access.read a).Proper

theorem Operand.onBus_of_nowhere {o : Operand} (h : o.location = .nowhere) : o.OnBus := by
  intro a ha
  simp [h] at ha

/-- The operand is of the kind that an addressing mode gives. -/
def Operand.Fits (o : Operand) : Mode → Prop
  | .implied => o.location = .nowhere
  | .accumulator => o.location = .accumulator
  | .immediate => o.value?.isSome
  | _ => ∃ a, o.location = .cell a ∧ (Access.read a).Proper

theorem Operand.Fits.serves {o : Operand} {mode : Mode} {need : Need} (h : o.Fits mode)
    (hoffers : mode.offers need) : o.Serves need := by
  obtain ⟨m, location, crossed, bytes⟩ := o
  -- A mode that offers what is needed fits no location that lacks it.
  cases mode <;> cases need <;> cases location <;>
    simp_all [Fits, Serves, Mode.offers, Operand.value?, Operand.address?, Operand.read?]

theorem Operand.Fits.onBus {o : Operand} {mode : Mode} (h : o.Fits mode) : o.OnBus := by
  intro a ha
  cases mode <;> simp_all [Fits, Operand.value?]

/-- Finding an operand makes proper accesses, changes no register but the program counter, which
ends behind the operand bytes, and finds what the mode promises. -/
theorem Operand.always_resolve (mode : Mode) (r : Registers) (past : List Exchange) :
    (resolve mode r).Always (fun _ _ x => x.Proper)
      (fun _ s o => s = { r with pc := r.pc + BitVec.ofNat 16 mode.operandLength } ∧ o.Fits mode)
      past := by
  cases mode with
  -- The indirect mode reads twice, and the second address comes from what the first read has found.
  | indirect =>
    simp only [resolve, Action.always_bind, always_fetch, Action.always_read, Action.always_pure,
      Access.proper_read, true_and]
    intro low high targetLow
    refine ⟨Access.proper_read_target low high, fun targetHigh => ⟨?_, _, rfl, ?_⟩⟩
    · simp [Mode.operandLength, BitVec.add_assoc]
    · exact Access.proper_read _
  | _ =>
    simp [resolve, resolveZeroPage, resolveAbsolute, indexed, Mode.operandLength, Fits,
      Operand.value?, BitVec.add_assoc]

theorem Operand.always_fetchMany (n : Nat) (r : Registers) (past : List Exchange) :
    (fetchMany n r).Always (fun _ _ x => x.Proper)
      (fun _ s _ => s = { r with pc := r.pc + BitVec.ofNat 16 n }) past := by
  -- Each byte moves the program counter, so the registers vary.
  induction n generalizing r past with
  | zero => simp [fetchMany]
  | succ n ih =>
    simp only [fetchMany, Action.always_bind, always_fetch, Action.always_pure]
    refine ⟨Access.proper_read _, fun b => (ih _ _).mono (fun _ _ _ h => h) ?_⟩
    intro past s bytes hs
    rw [hs, Nat.add_comm n 1, BitVec.ofNat_add, BitVec.add_assoc]
    rfl

/-- Without a documented meaning an opcode is to do nothing. -/
theorem Descriptor.mnemonic_eq_skip {d : Descriptor} (h : d.isDocumented = false) :
    d.mnemonic = .skip := by
  simpa [isDocumented] using h

/-- Decoding makes proper accesses and moves the program counter behind the instruction. What it
finds is the table's entry of the opcode with an operand that serves it and is on the bus. -/
theorem Instruction.always_decode (variant : Variant) (opcode : Byte) (r : Registers)
    (past : List Exchange) :
    (decode variant opcode.toNat r).Always (fun _ _ x => x.Proper)
      (fun _ s i =>
        s = { r with pc := r.pc + BitVec.ofNat 16 i.descriptor.mode.operandLength } ∧
        i.opcode = (opcode.toNat : Int) ∧ i.variant = variant ∧
        i.descriptor = Descriptor.ofOpcode opcode ∧
        i.operand.Serves i.descriptor.mnemonic.need ∧ i.operand.OnBus) past := by
  unfold decode
  rw [byte_toNat]
  -- Without a documented meaning the operand bytes are only skipped.
  cases hd : (Descriptor.ofOpcode opcode).isDocumented with
  | true =>
    simp only [if_true, Action.always_bind, Action.always_pure]
    refine (Operand.always_resolve _ r past).mono (fun _ _ _ h => h) ?_
    intro past s o h
    obtain ⟨hs, hfits⟩ := h
    exact ⟨hs, trivial, trivial, trivial, hfits.serves (Descriptor.offers_need opcode),
      hfits.onBus⟩
  | false =>
    simp only [Bool.false_eq_true, if_false, Action.always_bind, Action.always_get,
      Action.always_tell, Action.always_pure, Operand.skip]
    refine (Operand.always_fetchMany _ r past).mono (fun _ _ _ h => h) ?_
    intro past s bytes hs
    refine ⟨hs, trivial, trivial, trivial, ?_, Operand.onBus_of_nowhere rfl⟩
    -- An instruction that is to do nothing needs nothing.
    rw [Descriptor.mnemonic_eq_skip hd]
    trivial

/-- The operand of a documented instruction is of the kind that its mode gives. -/
theorem Instruction.always_decode_fits (variant : Variant) (opcode : Int) (r : Registers)
    (past : List Exchange) :
    (decode variant opcode r).Always (fun _ _ x => x.Proper)
      (fun _ _ i => i.descriptor.isDocumented → i.operand.Fits i.descriptor.mode) past := by
  unfold decode
  cases hd : (Descriptor.ofOpcode (byte opcode)).isDocumented with
  | true =>
    simp only [if_true, Action.always_bind, Action.always_pure]
    refine (Operand.always_resolve _ r past).mono (fun _ _ _ h => h) ?_
    intro past s o h
    exact fun _ => h.2
  | false =>
    simp only [Bool.false_eq_true, if_false, Action.always_bind, Action.always_get,
      Action.always_tell, Action.always_pure, Operand.skip]
    refine (Operand.always_fetchMany _ r past).mono (fun _ _ _ h => h) ?_
    intro past s bytes _ hdocumented
    simp [hd] at hdocumented

end Micro6502
