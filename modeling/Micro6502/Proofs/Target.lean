import Micro6502.Proofs.Decoding

/-!
# Effective addresses

Where the operand of an instruction is follows from the memory and the registers alone. The sums
here are sums of words, so they wrap by themselves; the processor computes them in the integers
and cuts them off. The two ways agree for every addressing mode.

## Contents

- `Mode.target?`, the address of an operand, and `Mode.crosses`, whether it is on another page
- `written`, the addresses of the writes in a list of exchanges
- `AnsweredBy`, reads that a memory may have answered
- `Action.Silent`, actions that write nothing, and `Action.Looks`, those that keep a view of the
  state besides
- `Operand.always_resolve_target` and `Instruction.always_decode_target`
-/

namespace Micro6502

/-! ## Addresses in memory -/

/-- The word whose low and high byte are at two addresses. -/
def wordIn (memory : Address → Byte) (low high : Address) : Address :=
  wordOf (memory low) (memory high)

/-- The word at a pointer in page zero. It does not leave the page. -/
def pointerIn (memory : Address → Byte) (p : Byte) : Address :=
  wordIn memory (zeroPage p) (zeroPage (p + 1))

/-- The address at which the operand is or to which it leads, if the mode has one. The program
counter is behind the opcode. -/
def Mode.target? (memory : Address → Byte) (r : Registers) : Mode → Option Address
  | .implied | .accumulator | .immediate => none
  | .zeroPage => some (Micro6502.zeroPage (memory r.pc))
  | .zeroPageX => some (Micro6502.zeroPage (memory r.pc + r.x))
  | .zeroPageY => some (Micro6502.zeroPage (memory r.pc + r.y))
  | .absolute => some (wordIn memory r.pc (r.pc + 1))
  | .absoluteX => some (wordIn memory r.pc (r.pc + 1) + r.x.setWidth 16)
  | .absoluteY => some (wordIn memory r.pc (r.pc + 1) + r.y.setWidth 16)
  -- The high byte comes from the same page as the low one.
  | .indirect => some (wordIn memory (wordIn memory r.pc (r.pc + 1))
      (wordOf (memory r.pc + 1) (memory (r.pc + 1))))
  | .indexedIndirect => some (pointerIn memory (memory r.pc + r.x))
  | .indirectIndexed => some (pointerIn memory (memory r.pc) + r.y.setWidth 16)
  | .relative => some (r.pc + 1 + (memory r.pc).signExtend 16)

/-- Adding an index to an address carries out of its low byte. -/
def indexCarries (base : Address) (index : Byte) : Bool :=
  decide (256 ≤ (lowByte base).toNat + index.toNat)

/-- Whether indexing leaves the page of the base address, or a branch, if it is taken, that of the
instruction behind it. The program counter is behind the opcode. -/
def Mode.crosses (memory : Address → Byte) (r : Registers) : Mode → Bool
  | .absoluteX => indexCarries (wordIn memory r.pc (r.pc + 1)) r.x
  | .absoluteY => indexCarries (wordIn memory r.pc (r.pc + 1)) r.y
  | .indirectIndexed => indexCarries (pointerIn memory (memory r.pc)) r.y
  | .relative => highByte (r.pc + 1 + (memory r.pc).signExtend 16) != highByte (r.pc + 1)
  | _ => false

/-! ## Sums in the integers -/

theorem toNat_zeroPage (b : Byte) : (zeroPage b).toNat = b.toNat := by
  have := b.isLt
  rw [zeroPage, BitVec.toNat_setWidth]
  omega

theorem toNat_zeroPage_byte (n : Int) : ((zeroPage (byte n)).toNat : Int) = n % 0x100 := by
  rw [toNat_zeroPage, toNat_byte]

theorem byte_add (b i : Byte) : byte (b.toNat + i.toNat) = b + i := by
  apply BitVec.eq_of_toNat_eq
  rw [byte, BitVec.toNat_ofInt, BitVec.toNat_add]
  omega

theorem byte_add_one (n : Int) : byte (n + 1) = byte n + 1 := by
  have hone : (1 : Byte).toNat = 1 := rfl
  apply BitVec.eq_of_toNat_eq
  rw [BitVec.toNat_add, byte, byte, BitVec.toNat_ofInt, BitVec.toNat_ofInt, hone]
  omega

theorem toNat_zeroPage_add (b i : Byte) :
    ((zeroPage (b + i)).toNat : Int) = (b.toNat + i.toNat) % 0x100 := by
  rw [← byte_add, toNat_zeroPage_byte]

theorem toNat_add_index (a : Address) (i : Byte) :
    ((a + i.setWidth 16).toNat : Int) = (a.toNat + i.toNat) % 0x10000 := by
  have := i.isLt
  rw [BitVec.toNat_add, BitVec.toNat_setWidth]
  omega

theorem toNat_add_offset (a : Address) (offset : Byte) :
    ((a + offset.signExtend 16).toNat : Int) = (a.toNat + offset.toInt) % 0x10000 := by
  rw [BitVec.signExtend, BitVec.toNat_add, BitVec.toNat_ofInt]
  omega

theorem indexCarries_zero (base : Address) : indexCarries base 0#8 = false := by
  have hlow := (lowByte base).isLt
  rw [indexCarries, BitVec.toNat_zero]
  exact decide_eq_false (by omega)

/-- An indexed address is on another page if there is a carry, also where it wraps. -/
theorem crossesPage_index (base : Address) (index : Byte) :
    crossesPage base.toNat ((base.toNat + index.toNat) % 0x10000) = indexCarries base index := by
  have hbase := base.isLt
  have hindex := index.isLt
  have hlow : (lowByte base).toNat = base.toNat % 256 := by
    simp [lowByte, BitVec.extractLsb'_toNat]
  -- Whether the high bytes differ is whether the low byte overflows, up to the end of the memory.
  rw [indexCarries, hlow, crossesPage, bne, Bool.eq_iff_iff]
  simp only [Bool.not_eq_true', beq_eq_false_iff_ne, decide_eq_true_eq]
  omega

theorem crossesPage_toNat (a b : Address) :
    crossesPage a.toNat b.toNat = (highByte b != highByte a) := by
  have ha : ((highByte a).toNat : Int) = a.toNat / 256 % 256 := by
    simp [highByte, BitVec.extractLsb'_toNat, Nat.shiftRight_eq_div_pow]
  have hb : ((highByte b).toNat : Int) = b.toNat / 256 % 256 := by
    simp [highByte, BitVec.extractLsb'_toNat, Nat.shiftRight_eq_div_pow]
  rw [crossesPage, ← ha, ← hb, bne_comm, Bool.eq_iff_iff, bne_iff_ne, bne_iff_ne]
  exact not_congr (Int.ofNat_inj.trans BitVec.toNat_inj)

/-- Behind the last byte of a page comes the first one. -/
theorem toNat_next_in_page (low high : Byte) :
    ((wordOf (low + 1) high).toNat : Int) =
      if low = 0xFF then ((wordOf low high).toNat : Int) - 0xFF
      else (wordOf low high).toNat + 1 := by
  have hlow := low.isLt
  have hone : (1 : Byte).toNat = 1 := rfl
  rw [toNat_wordOf, toNat_wordOf, BitVec.toNat_add, hone]
  -- Behind the last byte the low half starts again, and the high half stays.
  split
  · next h =>
    have hlow255 : low.toNat = 255 := congrArg BitVec.toNat h
    omega
  · next h =>
    have hlow255 : low.toNat ≠ 255 := fun h' => h (BitVec.eq_of_toNat_eq h')
    omega

/-! ## Reads and writes of the past -/

def Exchange.written? : Exchange → Option Int
  | read _ _ => none
  | write a _ => some a

/-- The addresses of the writes, the latest in front. -/
def written (past : List Exchange) : List Int := past.filterMap Exchange.written?

/-- What was read is what the memory holds. -/
def AnsweredBy (memory : Address → Byte) (past : List Exchange) : Prop :=
  ∀ (a : Address) b, .read a.toNat b ∈ past → memory a = b

@[simp] theorem answeredBy_cons_read (memory : Address → Byte) (a : Address) (b : Byte)
    (past : List Exchange) :
    AnsweredBy memory (.read a.toNat b :: past) ↔ memory a = b ∧ AnsweredBy memory past := by
  simp only [AnsweredBy, List.mem_cons, Exchange.read.injEq]
  constructor
  · intro h
    exact ⟨h a b (.inl ⟨rfl, rfl⟩), fun c d hmem => h c d (.inr hmem)⟩
  · rintro ⟨rfl, h⟩ c d (⟨hsame, rfl⟩ | hmem)
    · -- The integers of two addresses are the same only if the addresses are.
      rw [BitVec.eq_of_toNat_eq (Int.ofNat_inj.mp hsame)]
    · exact h c d hmem

theorem AnsweredBy.of_suffix {memory : Address → Byte} {earlier past : List Exchange}
    (h : AnsweredBy memory past) (hsuffix : earlier <:+ past) : AnsweredBy memory earlier :=
  fun a b hmem => h a b (hsuffix.subset hmem)

/-- The two bytes of a pointer, read one after the other. -/
theorem AnsweredBy.pointer {memory : Address → Byte} {p : Int} {low high : Byte}
    {past : List Exchange}
    (h : AnsweredBy memory (.read ((p + 1) % 0x100) high :: .read (p % 0x100) low :: past)) :
    pointerIn memory (byte p) = wordOf low high ∧ AnsweredBy memory past := by
  rw [← toNat_zeroPage_byte, ← toNat_zeroPage_byte, byte_add_one] at h
  simp only [answeredBy_cons_read] at h
  obtain ⟨hhigh, hlow, h⟩ := h
  exact ⟨by rw [pointerIn, wordIn, hlow, hhigh], h⟩

/-! ## Actions that write nothing -/

/-- The action makes reads only, whatever the bus answers. -/
def Action.Silent (x : Action σ α) : Prop :=
  ∀ s past, (x s).Always (fun _ _ _ => True) (fun past' _ _ => written past' = written past) past

namespace Action.Silent

theorem pure (a : α) : Silent (Pure.pure a : Action σ α) := fun _ _ => rfl

theorem bind {x : Action σ α} {next : α → Action σ β} (hx : Silent x)
    (hnext : ∀ a, Silent (next a)) : Silent (x >>= next) := by
  intro s past
  rw [always_bind]
  refine (hx s past).mono (fun _ _ _ h => h) ?_
  intro past' s' a hpast
  refine (hnext a s' past').mono (fun _ _ _ h => h) ?_
  intro past'' _ _ hpast'
  exact hpast'.trans hpast

theorem modify (f : σ → σ) : Silent (Action.modify f) := fun _ _ => rfl

end Action.Silent

/-- The action makes reads only, and a view of the state stays what it was, whenever a read is made
and at the end. -/
def Action.Looks (view : σ → τ) (x : Action σ α) : Prop :=
  ∀ s past, (x s).Always
    (fun past' s' x => (∃ a, x = .read a) ∧ view s' = view s ∧ written past' = written past)
    (fun past' s' _ => view s' = view s ∧ written past' = written past) past

namespace Action.Looks

variable {view : σ → τ}

theorem pure (a : α) : Looks view (Pure.pure a : Action σ α) := fun _ _ => ⟨rfl, rfl⟩

theorem bind {x : Action σ α} {next : α → Action σ β} (hx : Looks view x)
    (hnext : ∀ a, Looks view (next a)) : Looks view (x >>= next) := by
  intro s past
  rw [always_bind]
  refine (hx s past).mono (fun _ _ _ h => h) ?_
  rintro past' s' a ⟨hs', hpast'⟩
  -- What the second part leaves alone has been left alone by the first.
  refine (hnext a s' past').mono ?_ ?_
  · rintro past'' s'' _ ⟨hread, hs'', hpast''⟩
    exact ⟨hread, hs''.trans hs', hpast''.trans hpast'⟩
  · rintro past'' s'' _ ⟨hs'', hpast''⟩
    exact ⟨hs''.trans hs', hpast''.trans hpast'⟩

theorem get : Looks view (Action.get : Action σ σ) := fun _ _ => ⟨rfl, rfl⟩

theorem modify {f : σ → σ} (hf : ∀ s, view (f s) = view s) : Looks view (Action.modify f) :=
  fun s _ => ⟨hf s, rfl⟩

theorem read (a : Int) : Looks view (Action.read a : Action σ Byte) :=
  fun _ _ => ⟨⟨⟨a, rfl⟩, rfl, rfl⟩, fun _ => ⟨rfl, rfl⟩⟩

theorem tell (notice : Notice) : Looks view (Action.tell notice : Action σ Unit) :=
  fun _ _ => ⟨rfl, rfl⟩

theorem silent {x : Action σ α} (hx : Looks view x) : Silent x := fun s past =>
  (hx s past).mono (fun _ _ _ _ => trivial) fun _ _ _ h => h.2

end Action.Looks

section Looks

open Micro6502.Action (Looks)

variable {view : Registers → τ} (hpc : ∀ (r : Registers) a, view { r with pc := a } = view r)

include hpc

theorem looks_fetch : Looks view fetch :=
  .bind .get fun _ => .bind (.read _) fun _ => .bind (.modify fun r => hpc r _) fun _ => .pure _

omit hpc in
theorem looks_readPointer (p : Int) : Looks view (readPointer p) :=
  .bind (.read _) fun _ => .bind (.read _) fun _ => .pure _

namespace Operand

theorem looks_resolveZeroPage (mode : Mode) (index : Registers → Byte) :
    Looks view (resolveZeroPage mode index) :=
  .bind (looks_fetch hpc) fun _ => .bind .get fun _ => .pure _

theorem looks_resolveAbsolute (mode : Mode) (index : Registers → Byte) :
    Looks view (resolveAbsolute mode index) :=
  .bind (looks_fetch hpc) fun _ => .bind (looks_fetch hpc) fun _ => .bind .get fun _ => .pure _

/-- Finding an operand makes reads only, and the program counter alone changes. -/
theorem looks_resolve (mode : Mode) : Looks view (resolve mode) := by
  cases mode with
  | implied | accumulator => exact .pure _
  | immediate => exact .bind (looks_fetch hpc) fun _ => .pure _
  | zeroPage | zeroPageX | zeroPageY => exact looks_resolveZeroPage hpc _ _
  | absolute | absoluteX | absoluteY => exact looks_resolveAbsolute hpc _ _
  | indirect =>
    exact .bind (looks_fetch hpc) fun _ => .bind (looks_fetch hpc) fun _ => .bind (.read _)
      fun _ => .bind (.read _) fun _ => .pure _
  | indexedIndirect =>
    exact .bind (looks_fetch hpc) fun _ => .bind .get fun _ => .bind (looks_readPointer _)
      fun _ => .pure _
  | indirectIndexed =>
    exact .bind (looks_fetch hpc) fun _ => .bind (looks_readPointer _) fun _ => .bind .get
      fun _ => .pure _
  | relative => exact .bind (looks_fetch hpc) fun _ => .bind .get fun _ => .pure _

theorem looks_fetchMany (n : Nat) : Looks view (fetchMany n) := by
  induction n with
  | zero => exact .pure []
  | succ n ih => exact .bind (looks_fetch hpc) fun _ => .bind ih fun _ => .pure _

end Operand

end Looks

/-! ## Finding the operand -/

/-- The address of the cell that an operand is, as it goes onto the bus. -/
def Operand.cell? (o : Operand) : Option Int :=
  match o.location with
  | .cell a => some a
  | _ => none

/-- The address of a target, as it goes onto the bus. -/
def Mode.cell? (mode : Mode) (memory : Address → Byte) (r : Registers) : Option Int :=
  (mode.target? memory r).map fun a => (a.toNat : Int)

namespace Operand

/-- Nothing has been written, and whatever memory answered the reads, the operand is where this
memory has it, on another page or not. -/
def Found (cell? : (Address → Byte) → Option Int) (crosses : (Address → Byte) → Bool)
    (past past' : List Exchange) (o : Operand) : Prop :=
  written past' = written past ∧ ∀ memory, AnsweredBy memory past' →
    o.cell? = cell? memory ∧ o.pageCrossed = crosses memory

theorem always_resolveZeroPage (mode : Mode) (index : Registers → Byte) (r : Registers)
    (past : List Exchange) :
    (resolveZeroPage mode index r).Always (fun _ _ _ => True)
      (fun past' _ o => o.Found (fun memory => some
        ((zeroPage (memory r.pc + index { r with pc := r.pc + 1 })).toNat : Int))
        (fun _ => false) past past')
      past := by
  simp only [resolveZeroPage, Action.always_bind, always_fetch, Action.always_get,
    Action.always_pure, true_and]
  intro base
  refine ⟨rfl, fun memory h => ?_⟩
  -- The byte that was fetched is the one that the memory holds.
  obtain ⟨rfl, -⟩ := (answeredBy_cons_read ..).mp h
  exact ⟨congrArg some (toNat_zeroPage_add ..).symm, rfl⟩

theorem always_resolveAbsolute (mode : Mode) (index : Registers → Byte) (r : Registers)
    (past : List Exchange) :
    (resolveAbsolute mode index r).Always (fun _ _ _ => True)
      (fun past' _ o => o.Found (fun memory => some
        ((wordIn memory r.pc (r.pc + 1) +
          (index { r with pc := r.pc + 1 + 1 }).setWidth 16).toNat : Int))
        (fun memory => indexCarries (wordIn memory r.pc (r.pc + 1))
          (index { r with pc := r.pc + 1 + 1 })) past past')
      past := by
  simp only [resolveAbsolute, Action.always_bind, always_fetch, Action.always_get,
    Action.always_pure, true_and]
  intro low high
  refine ⟨rfl, fun memory h => ?_⟩
  -- The latest read is the high byte.
  obtain ⟨hhigh, h⟩ := (answeredBy_cons_read ..).mp h
  obtain ⟨hlow, -⟩ := (answeredBy_cons_read ..).mp h
  show some _ = some _ ∧ crossesPage _ _ = indexCarries _ _
  rw [wordIn, hlow, hhigh, toNat_add_index, crossesPage_index]
  exact ⟨rfl, rfl⟩

theorem always_resolve_target (mode : Mode) (r : Registers) (past : List Exchange) :
    (resolve mode r).Always (fun _ _ _ => True)
      (fun past' _ o => o.Found (fun memory => mode.cell? memory r)
        (fun memory => mode.crosses memory r) past past') past := by
  cases mode with
  | implied => exact ⟨rfl, fun _ _ => ⟨rfl, rfl⟩⟩
  | accumulator => exact ⟨rfl, fun _ _ => ⟨rfl, rfl⟩⟩
  | immediate => exact ⟨trivial, fun _ => ⟨rfl, fun _ _ => ⟨rfl, rfl⟩⟩⟩
  | zeroPage =>
    -- The modes without an index add zero.
    refine (always_resolveZeroPage .zeroPage (fun _ => 0) r past).mono (fun _ _ _ h => h) ?_
    intro past' _ o h
    simpa [Found, Mode.cell?, Mode.target?, Mode.crosses] using h
  | zeroPageX => exact always_resolveZeroPage .zeroPageX Registers.x r past
  | zeroPageY => exact always_resolveZeroPage .zeroPageY Registers.y r past
  | absolute =>
    refine (always_resolveAbsolute .absolute (fun _ => 0) r past).mono (fun _ _ _ h => h) ?_
    intro past' _ o h
    simpa [Found, Mode.cell?, Mode.target?, Mode.crosses, indexCarries_zero] using h
  | absoluteX => exact always_resolveAbsolute .absoluteX Registers.x r past
  | absoluteY => exact always_resolveAbsolute .absoluteY Registers.y r past
  | indirect =>
    simp only [resolve, Action.always_bind, always_fetch, Action.always_read, Action.always_pure,
      true_and]
    intro low high targetLow targetHigh
    refine ⟨rfl, fun memory h => ?_⟩
    -- The second byte of the pointer is read from the same page, as the chip does.
    rw [← toNat_next_in_page] at h
    simp only [answeredBy_cons_read] at h
    obtain ⟨rfl, rfl, hhigh, hlow, -⟩ := h
    simp only [cell?, Mode.cell?, Mode.target?, Mode.crosses, wordIn, hlow, hhigh, Option.map_some,
      and_self]
  | indexedIndirect =>
    simp only [resolve, Action.always_bind, always_fetch, Action.always_get, always_readPointer,
      Action.always_pure, true_and]
    intro base low high
    refine ⟨rfl, fun memory h => ?_⟩
    -- The index is added before the pointer is followed, within page zero.
    obtain ⟨hpointer, h⟩ := h.pointer
    obtain ⟨rfl, -⟩ := (answeredBy_cons_read ..).mp h
    rw [byte_add] at hpointer
    exact ⟨congrArg (fun a : Address => some (a.toNat : Int)) hpointer.symm, rfl⟩
  | indirectIndexed =>
    simp only [resolve, Action.always_bind, always_fetch, Action.always_get, always_readPointer,
      Action.always_pure, true_and]
    intro pointer low high
    refine ⟨rfl, fun memory h => ?_⟩
    -- Here it is added behind the pointer, where it may leave the page.
    obtain ⟨hbase, h⟩ := h.pointer
    obtain ⟨rfl, -⟩ := (answeredBy_cons_read ..).mp h
    rw [byte_toNat] at hbase
    simp only [cell?, indexed, Mode.cell?, Mode.target?, Mode.crosses, hbase, toNat_add_index,
      crossesPage_index, Option.map_some, and_self]
  | relative =>
    simp only [resolve, Action.always_bind, always_fetch, Action.always_get, Action.always_pure,
      true_and]
    intro offset
    refine ⟨rfl, fun memory h => ?_⟩
    obtain ⟨rfl, -⟩ := (answeredBy_cons_read ..).mp h
    rw [← toNat_add_offset, crossesPage_toNat]
    exact ⟨rfl, rfl⟩

end Operand

/-- Decoding writes nothing, and the operand of a documented instruction is where the memory that
was read has it. -/
theorem Instruction.always_decode_target (variant : Variant) (opcode : Byte) (r : Registers)
    (past : List Exchange) :
    (decode variant opcode.toNat r).Always (fun _ _ _ => True)
      (fun past' _ i => written past' = written past ∧ (i.descriptor.isDocumented →
        ∀ memory, AnsweredBy memory past' →
          i.operand.cell? = i.descriptor.mode.cell? memory r ∧
          i.operand.pageCrossed = i.descriptor.mode.crosses memory r)) past := by
  unfold decode
  rw [byte_toNat]
  cases hd : (Descriptor.ofOpcode opcode).isDocumented with
  | true =>
    simp only [if_true, Action.always_bind, Action.always_pure]
    refine (Operand.always_resolve_target _ r past).mono (fun _ _ _ h => h) ?_
    intro past' _ o h
    exact ⟨h.1, fun _ => h.2⟩
  | false =>
    simp only [Bool.false_eq_true, if_false, Action.always_bind, Action.always_get,
      Action.always_tell, Action.always_pure, Operand.skip]
    -- Any view will do, since only the silence of the reads matters.
    have hsp (r : Registers) (a : Address) : Registers.sp { r with pc := a } = r.sp := rfl
    refine ((Operand.looks_fetchMany hsp _).silent r past).mono (fun _ _ _ h => h) ?_
    intro past' _ bytes h
    exact ⟨h, fun hdocumented => by simp [hd] at hdocumented⟩

end Micro6502
