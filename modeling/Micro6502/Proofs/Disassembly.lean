import Micro6502.Bus.Flat
import Micro6502.Processor.Mos
import Micro6502.Proofs.Radix
import Micro6502.Proofs.Target

/-!
# Reading a listing back

The line of a listing shows a mnemonic and an operand. With the address of the instruction it shows
all bytes of it: the punctuation and the number of digits tell the addressing modes apart, with the
mnemonic they tell the opcode, and the digits tell the operand bytes. A branch shows where it leads,
from which the offset follows, also around the ends of the bus.

## Contents

- `Hex.digits_injective`, and `Hex.padded_of_lt` for numbers that fit
- `Format`, how an operand is written, with `Mode.format` and `Mode.shown`, the number in it
- `shape`, a text without its numbers, and `Descriptor.eq_of_shape`
- `Operand.Written`, an operand that is written with all its bytes
- `Instruction.Written`, a decoded instruction with its text, and `Instruction.listing_unambiguous`
-/

namespace Micro6502

/-! ## Digits -/

namespace Hex

theorem capitalDigit_injective {m n : Nat} (hm : m < 16) (hn : n < 16)
    (h : capitalDigit m = capitalDigit n) : m = n := by
  have hall : ∀ m n : Fin 16, capitalDigit m = capitalDigit n → m = n := by decide
  exact congrArg Fin.val (hall ⟨m, hm⟩ ⟨n, hn⟩ h)

theorem isSome_digitValue?_capitalDigit {n : Nat} (hn : n < 16) :
    (digitValue? (capitalDigit n)).isSome := by
  have hall : ∀ n : Fin 16, (digitValue? (capitalDigit n)).isSome := by decide
  exact hall ⟨n, hn⟩

/-- Numbers with the same digits are the same, if they have no more than these. -/
theorem digits_injective {k m n : Nat} (hm : m < 16 ^ k) (hn : n < 16 ^ k)
    (h : digits capitalDigit k m = digits capitalDigit k n) : m = n := by
  induction k generalizing m n with
  | zero => omega
  | succ k ih =>
    rw [Nat.pow_succ] at hm hn
    -- The last digit is the remainder, and the digits before it are those of the quotient.
    obtain ⟨hhigh, hlow⟩ := List.append_inj' h rfl
    have hlow := capitalDigit_injective (Nat.mod_lt m (by decide)) (Nat.mod_lt n (by decide))
      (List.head_eq_of_cons_eq hlow)
    have hhigh := ih (by omega) (by omega) hhigh
    omega

/-- A number with digits to spare is padded to the width. -/
theorem padded_of_lt {k n : Nat} (hk : 0 < k) (hn : n < 16 ^ k) :
    padded k n = String.ofList (digits capitalDigit k n) := by
  have hsize : size n ≤ k := by
    have hlog : n.log2 < 4 * k := by
      -- Zero has no logarithm of its own, and needs one digit.
      rcases Nat.eq_zero_or_pos n with rfl | hpos
      · simpa using hk
      · rw [Nat.log2_lt hpos.ne', Nat.pow_mul]
        exact hn
    unfold size
    omega
  have hsign : sign (n : Int) = [] := if_neg (by omega)
  simp [padded, hsign, Nat.max_eq_left hsize]

theorem ofByte_eq (b : Byte) : ofByte b = String.ofList (digits capitalDigit 2 b.toNat) :=
  padded_of_lt (by decide) b.isLt

end Hex

/-- The operand bytes are written as the digits of their number. -/
theorem Operand.number_eq (o : Operand) :
    o.number = String.ofList
      (Hex.digits Hex.capitalDigit (2 * o.bytes.length) (Radix.binary.number o.bytes)) := by
  unfold Operand.number
  induction o.bytes with
  | nil => rfl
  | cons b rest ih =>
    have hnumber : Radix.binary.number (b :: rest) = b.toNat + 256 * Radix.binary.number rest := by
      simp [Radix.binary]
    -- The two last digits are those of the first byte.
    have hrest : Radix.binary.number (b :: rest) / 16 / 16 = Radix.binary.number rest := by
      have := b.isLt
      omega
    have hhigh : Radix.binary.number (b :: rest) / 16 % 16 = b.toNat / 16 % 16 := by omega
    have hlow : Radix.binary.number (b :: rest) % 16 = b.toNat % 16 := by omega
    rw [List.reverse_cons, List.map_append, String.join_append, ih, List.length_cons, Nat.mul_succ]
    simp only [Hex.digits, hrest, hhigh, hlow]
    simp [String.join_cons, Hex.ofByte_eq, Hex.digits]

/-! ## How operands are written -/

/-- A way to write a number: what stands in front of its digits, how many these are, and what stands
behind them. -/
structure Format where
  lead : String
  width : Nat
  trail : String

/-- A number as it is written. -/
def Format.write (f : Format) (n : Nat) : String :=
  f.lead ++ String.ofList (Hex.digits Hex.capitalDigit f.width n) ++ f.trail

theorem Format.write_injective {f : Format} {m n : Nat} (hm : m < 16 ^ f.width)
    (hn : n < 16 ^ f.width) (h : f.write m = f.write n) : m = n := by
  apply Hex.digits_injective hm hn
  have h := congrArg String.toList h
  simpa [write] using h

namespace Mode

/-- How the operands of a mode are written. -/
def format : Mode → Format
  | implied => ⟨"", 0, ""⟩
  | accumulator => ⟨"A", 0, ""⟩
  | immediate => ⟨"#$", 2, ""⟩
  | zeroPage => ⟨"$", 2, ""⟩
  | zeroPageX => ⟨"$", 2, ",X"⟩
  | zeroPageY => ⟨"$", 2, ",Y"⟩
  | absolute | relative => ⟨"$", 4, ""⟩
  | absoluteX => ⟨"$", 4, ",X"⟩
  | absoluteY => ⟨"$", 4, ",Y"⟩
  | indirect => ⟨"($", 4, ")"⟩
  | indexedIndirect => ⟨"($", 2, ",X)"⟩
  | indirectIndexed => ⟨"($", 2, "),Y"⟩

/-- The number that is written: that of the operand bytes, but a branch shows where it leads from
the address behind it. -/
def shown (behind : Address) (bytes : List Byte) : Mode → Nat
  | relative => (behind + (bytes.headD 0).signExtend 16).toNat
  | _ => Radix.binary.number bytes

variable {mode : Mode} {behind : Address} {bytes others : List Byte}

theorem shown_lt (hbytes : bytes.length = mode.operandLength) :
    mode.shown behind bytes < 16 ^ mode.format.width := by
  have hnumber : Radix.binary.number bytes < 256 ^ mode.operandLength :=
    hbytes ▸ Radix.number_lt fun _ _ => trivial
  cases mode with
  | relative => exact (behind + (bytes.headD 0).signExtend 16).isLt
  | _ => exact hnumber

/-- What is written tells the operand bytes. -/
theorem shown_injective (hbytes : bytes.length = mode.operandLength)
    (hothers : others.length = mode.operandLength)
    (h : mode.shown behind bytes = mode.shown behind others) : bytes = others := by
  cases mode with
  | relative =>
    obtain ⟨b, rfl⟩ := List.length_eq_one_iff.mp hbytes
    obtain ⟨c, rfl⟩ := List.length_eq_one_iff.mp hothers
    -- The two branches start from one address, so that they differ in their offsets alone.
    have hoffset : b.signExtend 16 = c.signExtend 16 :=
      (BitVec.add_right_inj behind).mp (BitVec.eq_of_toNat_eq h)
    have hoffset := congrArg BitVec.toInt hoffset
    rw [BitVec.toInt_signExtend_of_le (by decide), BitVec.toInt_signExtend_of_le (by decide)]
      at hoffset
    rw [BitVec.eq_of_toInt_eq hoffset]
  | _ =>
    exact Radix.eq_of_number_eq (hbytes.trans hothers.symm) (fun _ _ => trivial)
      (fun _ _ => trivial) h

end Mode

/-! ## Telling the opcode -/

/-- A text with a zero in place of each hexadecimal digit. -/
def shape (text : String) : List Char :=
  text.toList.map fun c => if (Hex.digitValue? c).isSome then '0' else c

theorem shape_digits (k n : Nat) :
    shape (String.ofList (Hex.digits Hex.capitalDigit k n)) = List.replicate k '0' := by
  induction k generalizing n with
  | zero => rfl
  | succ k ih =>
    -- Every digit becomes a zero, whichever it is.
    have hdigit := Hex.isSome_digitValue?_capitalDigit (Nat.mod_lt n (by decide : 0 < 16))
    have ih := ih (n / 16)
    simp only [shape, String.toList_ofList] at ih ⊢
    simp [Hex.digits, ih, hdigit, List.replicate_succ']

/-- The number that is written does not matter to the shape. -/
theorem Format.shape_write (f : Format) (m n : Nat) : shape (f.write m) = shape (f.write n) := by
  have hdigits := (shape_digits f.width m).trans (shape_digits f.width n).symm
  simp only [shape, write, String.toList_append, List.map_append] at hdigits ⊢
  rw [hdigits]

/-- A documented opcode is known by its mnemonic and the shape of its operands. -/
theorem Descriptor.eq_of_shape {opcode opcode' : Byte} (hopcode : (ofOpcode opcode).isDocumented)
    (hopcode' : (ofOpcode opcode').isDocumented)
    (hmnemonic : (ofOpcode opcode).mnemonic.text = (ofOpcode opcode').mnemonic.text) {m n : Nat}
    (hshape : shape ((ofOpcode opcode).mode.format.write m) =
      shape ((ofOpcode opcode').mode.format.write n)) : opcode = opcode' := by
  let key (n : Fin 256) : String × List Char :=
    let d := ofOpcode (BitVec.ofFin n)
    (d.mnemonic.text, shape (d.mode.format.write 0))
  -- By a look at the whole table.
  have hnodup : (((List.finRange 256).filter fun n => (ofOpcode (BitVec.ofFin n)).isDocumented).map
      key).Nodup := by decide +kernel
  have hmem {opcode : Byte} (h : (ofOpcode opcode).isDocumented) :
      opcode.toFin ∈ (List.finRange 256).filter fun n => (ofOpcode (BitVec.ofFin n)).isDocumented :=
    List.mem_filter.mpr ⟨List.mem_finRange _, h⟩
  -- Any number will do for the shape, so the table is looked at with zeros.
  have hshape := (Format.shape_write _ 0 m).trans (hshape.trans (Format.shape_write _ n 0))
  have hkey : key opcode.toFin = key opcode'.toFin := Prod.ext hmnemonic hshape
  exact BitVec.eq_of_toFin_eq (List.inj_on_of_nodup_map hnodup (hmem hopcode) (hmem hopcode') hkey)

/-! ## Decoded instructions -/

/-- The operand has the bytes of its mode, and is written as the mode is, where the program goes on
behind it. -/
def Operand.Written (behind : Address) (mode : Mode) (o : Operand) : Prop :=
  o.bytes.length = mode.operandLength ∧ o.text = mode.format.write (mode.shown behind o.bytes)

namespace Operand

/-- Finding an operand keeps the bytes that it is written with. -/
theorem always_resolve_written (mode : Mode) (r : Registers) (past : List Exchange) :
    (resolve mode r).Always (fun _ _ _ => True)
      (fun _ s o => o.Written s.pc mode) past := by
  cases mode with
  | implied | accumulator => exact ⟨rfl, rfl⟩
  | immediate | zeroPage | zeroPageX | zeroPageY =>
    -- The fetched bytes are kept, and written as the number that they are.
    refine ⟨trivial, fun b => ⟨rfl, ?_⟩⟩
    simp [text, number_eq, Mode.format, Mode.shown, Format.write]
  | absolute | absoluteX | absoluteY =>
    refine ⟨trivial, fun low => ⟨trivial, fun high => ⟨rfl, ?_⟩⟩⟩
    simp [text, indexed, number_eq, Mode.format, Mode.shown, Format.write]
  | indirect =>
    simp only [resolve, Action.always_bind, always_fetch, Action.always_read, Action.always_pure,
      true_and]
    intro low high targetLow targetHigh
    refine ⟨rfl, ?_⟩
    simp [text, number_eq, Mode.format, Mode.shown, Format.write]
  | indexedIndirect | indirectIndexed =>
    simp only [resolve, Action.always_bind, always_fetch, Action.always_get, always_readPointer,
      Action.always_pure, true_and]
    intro base low high
    refine ⟨rfl, ?_⟩
    simp [text, indexed, number_eq, Mode.format, Mode.shown, Format.write]
  | relative =>
    simp only [resolve, Action.always_bind, always_fetch, Action.always_get, Action.always_pure,
      true_and]
    intro offset
    refine ⟨rfl, ?_⟩
    -- A branch is written as the address to which it leads.
    show "$" ++ Hex.padded 4 (((r.pc + 1).toNat + offset.toInt) % 0x10000) = _
    rw [← toNat_add_offset, Hex.padded_of_lt (by decide) (BitVec.isLt _)]
    simp [Mode.format, Mode.shown, Format.write]

end Operand

namespace Instruction

/-- The instruction has been decoded from an opcode, with the program counter behind it, and is
written with all its bytes. -/
def Written (pc : Address) (opcode : Byte) (i : Instruction) : Prop :=
  i.descriptor = Descriptor.ofOpcode opcode ∧
    i.operand.Written (pc + BitVec.ofNat 16 i.descriptor.mode.operandLength) i.descriptor.mode

theorem always_decode_written (variant : Variant) {opcode : Byte}
    (hopcode : (Descriptor.ofOpcode opcode).isDocumented) (r : Registers) (past : List Exchange) :
    (decode variant opcode.toNat r).Always (fun _ _ _ => True)
      (fun _ _ i => i.Written r.pc opcode) past := by
  have hwritten : (decode variant opcode.toNat r).Always (fun _ _ _ => True)
      (fun _ s i => i.operand.Written s.pc i.descriptor.mode) past := by
    unfold decode
    rw [byte_toNat]
    simp only [hopcode, if_true, Action.always_bind, Action.always_pure]
    exact Operand.always_resolve_written _ r past
  refine ((always_decode variant opcode r past).and hwritten).mono (fun _ _ _ _ => trivial) ?_
  rintro past s i ⟨⟨rfl, -, -, hdescriptor, -⟩, hwritten⟩
  exact ⟨hdescriptor, hwritten⟩

section Two

variable {i i' : Instruction} {pc : Address} {opcode opcode' : Byte}

/-- With the same bytes at the same place, the text of the operand is the same. -/
theorem Written.text_eq (h : i.Written pc opcode) (h' : i'.Written pc opcode)
    (hbytes : i.operand.bytes = i'.operand.bytes) : i.operand.text = i'.operand.text := by
  rw [h.2.2, h'.2.2, h.1, h'.1, hbytes]

/-- The mnemonic and the text of the operand tell the opcode and the operand bytes. -/
theorem Written.bytes_eq (h : i.Written pc opcode) (h' : i'.Written pc opcode')
    (hopcode : (Descriptor.ofOpcode opcode).isDocumented)
    (hopcode' : (Descriptor.ofOpcode opcode').isDocumented)
    (hmnemonic : i.descriptor.mnemonic.text = i'.descriptor.mnemonic.text)
    (htext : i.operand.text = i'.operand.text) :
    opcode = opcode' ∧ i.operand.bytes = i'.operand.bytes := by
  obtain ⟨hdescriptor, hlength, hwritten⟩ := h
  obtain ⟨hdescriptor', hlength', hwritten'⟩ := h'
  rw [hdescriptor] at hmnemonic hlength hwritten
  rw [hdescriptor'] at hmnemonic hlength' hwritten'
  have hformat := hwritten.symm.trans (htext.trans hwritten')
  -- First the opcode, by the shape alone; then the number in the one format that is left.
  obtain rfl := Descriptor.eq_of_shape hopcode hopcode' hmnemonic (congrArg shape hformat)
  have hshown := Format.write_injective (Mode.shown_lt hlength) (Mode.shown_lt hlength') hformat
  exact ⟨rfl, Mode.shown_injective hlength hlength' hshown⟩

theorem text_eq_of_operands (h : i.listing.operands = i'.listing.operands) :
    i.operand.text = i'.operand.text := by
  simp only [listing, String.isEmpty_iff] at h
  -- A listing without operands has an empty text, and the other text is then empty too.
  split at h <;> split at h <;> simp_all

/-- Behind the mnemonic, the text of the operand stands after a blank, if there is any. -/
theorem toList_symbol (i : Instruction) :
    i.listing.symbol.toList = i.descriptor.mnemonic.text.toList ++
      if i.operand.text = "" then [] else ' ' :: i.operand.text.toList := by
  unfold Listing.symbol listing
  by_cases h : i.operand.text = "" <;> simp [h]

theorem length_mnemonic (hopcode : i.descriptor.isDocumented) :
    i.descriptor.mnemonic.text.toList.length = 3 := by
  cases h : i.descriptor.mnemonic with
  | skip => simp [Descriptor.isDocumented, h] at hopcode
  | _ => rfl

/-- All mnemonics are equally long, so that the symbol tells where the operand begins. -/
theorem eq_of_symbol (hi : i.descriptor.isDocumented) (hi' : i'.descriptor.isDocumented)
    (h : i.listing.symbol = i'.listing.symbol) :
    i.descriptor.mnemonic.text = i'.descriptor.mnemonic.text ∧
      i.operand.text = i'.operand.text := by
  have h := congrArg String.toList h
  rw [toList_symbol, toList_symbol] at h
  obtain ⟨hmnemonic, hoperand⟩ :=
    List.append_inj h ((length_mnemonic hi).trans (length_mnemonic hi').symm)
  refine ⟨String.toList_inj.mp hmnemonic, ?_⟩
  -- An operand that is there has at least the blank in front of it.
  split at hoperand <;> split at hoperand
  · simp_all
  · simp at hoperand
  · simp at hoperand
  · exact String.toList_inj.mp (List.cons.inj hoperand).2

end Two

/-- Listings are unambiguous.

Let two documented instructions be decoded at the same address, by variants of the processor and on
hosts that may be different ones, with any registers. If the mnemonics and the operands in their
listings are the same, then so are the opcodes, the operand bytes, the addressing modes and the
lengths. The symbol, which is mnemonic and operand in one text, is the same for the same opcode and
operand bytes, and for no others. -/
theorem listing_unambiguous {β γ : Type} [HostBus β] [HostBus γ] (variant variant' : Variant)
    (opcode opcode' : Byte) (hopcode : (Descriptor.ofOpcode opcode).isDocumented)
    (hopcode' : (Descriptor.ofOpcode opcode').isDocumented) {r r' : Registers} (hpc : r.pc = r'.pc)
    {bus : β} {bus' : γ} {i i' : Instruction}
    (hi : ((decode variant opcode.toNat r).run bus).result = .ok i)
    (hi' : ((decode variant' opcode'.toNat r').run bus').result = .ok i') :
    (i.listing.mnemonic = i'.listing.mnemonic ∧ i.listing.operands = i'.listing.operands →
      opcode = opcode' ∧ i.listing.bytes = i'.listing.bytes ∧
        i.descriptor.mode = i'.descriptor.mode ∧ i.listing.length = i'.listing.length) ∧
    (i.listing.symbol = i'.listing.symbol ↔
      opcode = opcode' ∧ i.listing.bytes = i'.listing.bytes) := by
  obtain ⟨_, hwritten⟩ := (always_decode_written variant hopcode r []).of_ok hi
  obtain ⟨_, hwritten'⟩ := (always_decode_written variant' hopcode' r' []).of_ok hi'
  -- Both were decoded at one address, from which the branches count.
  rw [← hpc] at hwritten'
  refine ⟨fun ⟨hmnemonic, hoperands⟩ => ?_, fun hsymbol => ?_, ?_⟩
  · -- The listing gives both texts by themselves, the symbol has to be taken apart.
    have htext := text_eq_of_operands hoperands
    obtain ⟨rfl, hbytes⟩ := hwritten.bytes_eq hwritten' hopcode hopcode' hmnemonic htext
    have hdescriptor := hwritten.1.trans hwritten'.1.symm
    exact ⟨rfl, hbytes, congrArg Descriptor.mode hdescriptor,
      congrArg Descriptor.length hdescriptor⟩
  · have hdocumented := hwritten.1.symm ▸ hopcode
    have hdocumented' := hwritten'.1.symm ▸ hopcode'
    obtain ⟨hmnemonic, htext⟩ := eq_of_symbol hdocumented hdocumented' hsymbol
    exact hwritten.bytes_eq hwritten' hopcode hopcode' hmnemonic htext
  · rintro ⟨rfl, hbytes⟩
    apply String.toList_inj.mp
    rw [toList_symbol, toList_symbol, hwritten.1, hwritten'.1, hwritten.text_eq hwritten' hbytes]

/-- A byte of page zero, named with two digits and with four. -/
theorem listing_unambiguous_zeroPage :
    let r := { Registers.initial with pc := 0x0201 }
    let bus := FlatBus.zeroed.store 0x0201 0x12
    let short : Instruction :=
      ⟨0xA5, .nmos, ⟨.lda, .zeroPage, 3⟩, ⟨.zeroPage, .cell 0x12, false, [0x12]⟩⟩
    let long : Instruction :=
      ⟨0xAD, .nmos, ⟨.lda, .absolute, 4⟩, ⟨.absolute, .cell 0x12, false, [0x12, 0x00]⟩⟩
    ((decode .nmos 0xA5 r).run bus).result = .ok short ∧
      ((decode .nmos 0xAD r).run bus).result = .ok long ∧
      ¬(short.listing.mnemonic = long.listing.mnemonic ∧
        short.listing.operands = long.listing.operands) ∧
      short.listing.symbol ≠ long.listing.symbol := by
  intro r bus short long
  have hshort : ((decode .nmos 0xA5 r).run bus).result = .ok short :=
    congrArg Outcome.result (Outcome.eq_of_result (by decide +kernel))
  have hlong : ((decode .nmos 0xAD r).run bus).result = .ok long :=
    congrArg Outcome.result (Outcome.eq_of_result (by decide +kernel))
  have hopcodes : (0xA5 : Byte) ≠ 0xAD := by decide
  obtain ⟨hlisting, hsymbol⟩ := listing_unambiguous .nmos .nmos 0xA5 0xAD rfl rfl rfl hshort hlong
  exact ⟨hshort, hlong, fun h => hopcodes (hlisting h).1, fun h => hopcodes (hsymbol.mp h).1⟩

end Instruction

end Micro6502
