import Micro6502.Proofs.Chains

/-!
# Binary numbers of many bytes

With the decimal flag clear, or on a chip that does not look at it, addition and subtraction are
those of binary numbers of any length. The flags N and V at the end are those of the numbers with
their signs. A comparison does to the carry what a subtraction without a borrow does, though it has
a way of its own to find it, so it can take the place of the first subtraction.

## Contents

- `Arithmetic.IsBinary` and `Rule.work_binary`, both rules as one binary addition
- `Arithmetic.SignFlags`, what N and V say, with `signFlags_chain`
- `Arithmetic.compareA` and `exists_subtractBinary_eq`, a comparison as a subtraction, with
  `endAlike_compareA` for what comes after it
- `Arithmetic.chain_binary`
-/

namespace Micro6502.Arithmetic

/-! ## Both rules as one addition -/

/-- The chip does not work with decimal digits. -/
def IsBinary (variant : Variant) (status : Status) : Prop :=
  (variant.hasDecimal && status.decimal) = false

/-- What a rule adds to the accumulator. -/
def Rule.operand (m : Byte) : Rule → Byte
  | addition => m
  | subtraction => ~~~m

theorem toNat_addBinary (r : Registers) (m : Byte) :
    (addBinary r m).a.toNat + 256 * (addBinary r m).status.carry.toNat =
      r.a.toNat + m.toNat + r.status.carry.toNat := by
  have ha := r.a.isLt
  have hm := m.isLt
  have hc := r.status.carry.toNat_le
  have hresult : (addBinary r m).a.toNat = (r.a.toNat + m.toNat + r.status.carry.toNat) % 256 :=
    BitVec.toNat_ofNat ..
  have hcarry : (addBinary r m).status.carry =
      decide (255 < r.a.toNat + m.toNat + r.status.carry.toNat) := rfl
  rw [hresult, hcarry]
  -- The sum is below 512, so what is cut off is 256 or nothing.
  by_cases hlarge : 255 < r.a.toNat + m.toNat + r.status.carry.toNat
  · rw [decide_eq_true hlarge, Bool.toNat_true]
    omega
  · rw [decide_eq_false hlarge, Bool.toNat_false]
    omega

/-- The top bit counts 128. -/
theorem msb_bounds (b : Byte) :
    128 * b.msb.toNat ≤ b.toNat ∧ b.toNat < 128 + 128 * b.msb.toNat := by
  have hb := b.isLt
  rw [BitVec.msb_eq_decide]
  by_cases hlarge : 2 ^ (8 - 1) ≤ b.toNat
  · rw [decide_eq_true hlarge, Bool.toNat_true]
    omega
  · rw [decide_eq_false hlarge, Bool.toNat_false]
    omega

theorem toInt_eq_sub_msb (b : Byte) : b.toInt = b.toNat - 256 * b.msb.toNat := by
  rw [BitVec.toInt_eq_msb_cond]
  -- A set top bit counts as minus 128 in place of 128.
  cases b.msb <;> rfl

/-- The sum of the signed bytes fits unless there is an overflow, and the two flags tell its sign
even then. -/
theorem signs_addBinary (r : Registers) (m : Byte) :
    ((addBinary r m).status.overflow = true ↔
        ¬FitsSigned 1 (r.a.toInt + m.toInt + r.status.carry.toNat)) ∧
      (((addBinary r m).status.negative ^^ (addBinary r m).status.overflow) = true ↔
        r.a.toInt + m.toInt + r.status.carry.toNat < 0) := by
  have hsum := toNat_addBinary r m
  have hc := r.status.carry.toNat_le
  have ha := r.a.isLt
  have hm := m.isLt
  have hresult := (addBinary r m).a.isLt
  have hnegative : (addBinary r m).status.negative = (addBinary r m).a.msb := rfl
  have hoverflow : (addBinary r m).status.overflow =
      (r.a.msb == m.msb && r.a.msb != (addBinary r m).a.msb) := rfl
  rw [hnegative, hoverflow, toInt_eq_sub_msb, toInt_eq_sub_msb]
  have hatop := msb_bounds r.a
  have hmtop := msb_bounds m
  have htop := msb_bounds (addBinary r m).a
  -- For any three top bits the sum lies in a range of its own, and the exact one decides.
  generalize r.a.msb = atop, m.msb = mtop, (addBinary r m).a.msb = top at *
  cases atop <;> cases mtop <;> cases top <;> simp [FitsSigned] at hatop hmtop htop ⊢ <;> omega

namespace Rule

variable {variant : Variant} {r : Registers}

theorem work_binary (rule : Rule) (h : IsBinary variant r.status) (m : Byte) :
    rule.work variant r m = addBinary r (rule.operand m) := by
  unfold IsBinary at h
  -- A subtraction adds the complement.
  cases rule <;> simp [work, Variant.add, Variant.subtract, subtractBinary, operand, h]

theorem exact_eq_operand (rule : Rule) (x : Int) (m : Byte) (carry : Bool) :
    rule.exact x m.toNat carry =
      x + (rule.operand m).toNat + carry.toNat + 256 * rule.exact 0 0 false := by
  cases rule <;> simp [exact, operand]
  omega

theorem exact_carry (rule : Rule) (carry : Bool) :
    rule.exact 0 0 carry = carry.toNat + rule.exact 0 0 false := by
  cases rule <;> simp [exact]
  omega

theorem signed_exact_eq_operand (rule : Rule) (x : Int) (m : Byte) (carry : Bool) :
    rule.exact x m.toInt carry = x + (rule.operand m).toInt + carry.toNat := by
  cases rule with
  | addition => rfl
  | subtraction =>
    have hm := m.isLt
    simp only [exact, operand, toInt_eq_sub_msb, BitVec.toNat_not, BitVec.msb_not]
    -- The complement of a byte with a sign is its negative less one.
    cases m.msb <;> simp <;> omega

end Rule

/-- Binary work follows the rules on bytes. -/
theorem digitByDigit_binary (rule : Rule) (variant : Variant) :
    DigitByDigit Radix.binary rule (IsBinary variant) (rule.work variant) where
  keeps r m h := by
    rw [rule.work_binary h]
    exact h
  isDigit _ _ _ _ _ := trivial
  exact r m h _ _ := by
    have hsum : ((addBinary r (rule.operand m)).a.toNat : Int) +
        256 * (addBinary r (rule.operand m)).status.carry.toNat =
          r.a.toNat + (rule.operand m).toNat + r.status.carry.toNat := by
      exact_mod_cast toNat_addBinary r (rule.operand m)
    have hcarry := rule.exact_carry (addBinary r (rule.operand m)).status.carry
    rw [rule.work_binary h]
    show ((addBinary r (rule.operand m)).a.toNat : Int) + 256 * _ = rule.exact r.a.toNat m.toNat _
    -- The constant that the complement brings in is there on both sides.
    rw [rule.exact_eq_operand, hcarry, ← hsum]
    ring

/-! ## Signs -/

/-- The flags N and V describe a result as a number with a sign. N is its top bit, V says that the
exact result does not fit, and where they differ the exact result is negative. -/
structure SignFlags (rule : Rule) (pairs : List (Byte × Byte)) (carry : Bool) (bytes : List Byte)
    (status : Status) : Prop where
  negative : status.negative = (Radix.binary.number bytes).testBit (8 * bytes.length - 1)
  overflow : status.overflow = true ↔ ¬FitsSigned pairs.length
    (rule.exact (signed (pairs.map Prod.fst)) (signed (pairs.map Prod.snd)) carry)
  sign : (status.negative ^^ status.overflow) = true ↔
    rule.exact (signed (pairs.map Prod.fst)) (signed (pairs.map Prod.snd)) carry < 0

/-- One pair of bytes. -/
theorem signFlags_singleton (rule : Rule) {variant : Variant} {r : Registers}
    (h : IsBinary variant r.status) (x y : Byte) :
    SignFlags rule [(x, y)] r.status.carry [(rule.work variant { r with a := x } y).a]
      (rule.work variant { r with a := x } y).status := by
  have hsigns := signs_addBinary { r with a := x } (rule.operand y)
  rw [← rule.signed_exact_eq_operand] at hsigns
  rw [rule.work_binary (r := { r with a := x }) h]
  refine ⟨?_, ?_, ?_⟩
  · show (addBinary _ _).a.msb = _
    rw [BitVec.msb_eq_getLsbD_last, ← BitVec.testBit_toNat]
    simp [Radix.binary]
  · simpa [signed_singleton] using hsigns.1
  · simpa [signed_singleton] using hsigns.2

/-- The last bytes decide about the signs; those before them count through their carry. -/
theorem SignFlags.cons {rule : Rule} {x y b b' : Byte} {p : Byte × Byte}
    {rest : List (Byte × Byte)} {bytes : List Byte} {carry carry' : Bool} {status : Status}
    (hexact : (b.toNat : Int) + 256 * rule.exact 0 0 carry' = rule.exact x.toNat y.toNat carry)
    (hrest : SignFlags rule (p :: rest) carry' (b' :: bytes) status) :
    SignFlags rule ((x, y) :: p :: rest) carry (b :: b' :: bytes) status := by
  have hsigned : rule.exact (signed (((x, y) :: p :: rest).map Prod.fst))
      (signed (((x, y) :: p :: rest).map Prod.snd)) carry =
        b.toNat + 256 * rule.exact (signed ((p :: rest).map Prod.fst))
          (signed ((p :: rest).map Prod.snd)) carry' := by
    simp only [List.map_cons, signed_cons]
    exact rule.exact_cons hexact _ _
  refine ⟨?_, ?_, ?_⟩
  · -- The top bit is that of the rest, and so is the range.
    rw [hrest.negative, Radix.testBit_number_cons]
  · rw [hsigned]
    exact hrest.overflow.trans (not_congr (fitsSigned_succ b (Nat.succ_ne_zero _) _).symm)
  · -- A byte cannot change the sign of what counts 256 times as much.
    have hb := b.isLt
    rw [hrest.sign, hsigned]
    omega

/-- A chain of binary work leaves the flags of the numbers with their signs. -/
theorem signFlags_chain (rule : Rule) {variant : Variant} {r : Registers}
    (h : IsBinary variant r.status) (x y : Byte) (rest : List (Byte × Byte)) :
    SignFlags rule ((x, y) :: rest) r.status.carry
      (chain (rule.work variant) r ((x, y) :: rest)).1
      (chain (rule.work variant) r ((x, y) :: rest)).2.status := by
  have hwork := digitByDigit_binary rule variant
  induction rest generalizing r x y with
  | nil => exact signFlags_singleton rule h x y
  | cons p rest ih =>
    -- The pair in front is the lowest, which has no say in the signs.
    exact .cons (hwork.exact { r with a := x } y h trivial trivial)
      (ih (hwork.keeps { r with a := x } y h) p.1 p.2)

/-! ## Comparison -/

/-- What the comparison of the accumulator does to the registers. -/
def compareA (r : Registers) (m : Byte) : Registers := compare r r.a m

theorem works_cmp (variant : Variant) : Works .cmp variant compareA :=
  fun _ ho r past => Execute.always_load ho _ r past

/-- A comparison does what a subtraction without a borrow does, but it leaves the accumulator and
the overflow flag alone. -/
theorem exists_subtractBinary_eq (r : Registers) (m : Byte) (hcarry : r.status.carry = true) :
    ∃ a overflow, subtractBinary r m =
      { compareA r m with
        a := a, status := { (compareA r m).status with overflow := overflow } } := by
  have hdifference : BitVec.ofNat 8 (r.a.toNat + (~~~m).toNat + 1) = r.a - m := by
    -- With the carry set the complement is completed to the negative.
    apply BitVec.eq_of_toNat_eq
    rw [BitVec.toNat_ofNat, BitVec.toNat_not, BitVec.toNat_sub]
    omega
  have hborrow : 255 < r.a.toNat + (~~~m).toNat + 1 ↔ m ≤ r.a := by
    rw [BitVec.le_def, BitVec.toNat_not]
    omega
  refine ⟨(subtractBinary r m).a, (subtractBinary r m).status.overflow, ?_⟩
  simp only [subtractBinary, addBinary, compareA, compare, Status.setNZ, hcarry, Bool.toNat_true,
    hdifference, hborrow]

/-- What the accumulator and the overflow flag hold does not get into the pairs that follow. -/
theorem chain_forgets (variant : Variant) {r : Registers} (h : IsBinary variant r.status) (a : Byte)
    (overflow : Bool) (p : Byte × Byte) (rest : List (Byte × Byte)) :
    chain variant.subtract { r with a := a, status := { r.status with overflow := overflow } }
        (p :: rest) =
      chain variant.subtract r (p :: rest) := by
  -- The work on the first pair has overwritten both.
  have hfirst : variant.subtract
      { r with a := p.1, status := { r.status with overflow := overflow } } p.2 =
        variant.subtract { r with a := p.1 } p.2 := by
    have hthis := Rule.subtraction.work_binary (r := { r with a := p.1 }) h p.2
    have hother := Rule.subtraction.work_binary
      (r := { r with a := p.1, status := { r.status with overflow := overflow } }) h p.2
    exact hother.trans hthis.symm
  show chain variant.subtract _ ((p.1, p.2) :: rest) = chain variant.subtract _ ((p.1, p.2) :: rest)
  rw [chain_cons, chain_cons, hfirst]

/-- Two ways through rows of bytes end alike, if need be but for the overflow flag. -/
structure EndAlike (s t : List Byte × Registers) (overflow : Prop) : Prop where
  bytes : s.1 = t.1
  carry : s.2.status.carry = t.2.status.carry
  negative : s.2.status.negative = t.2.status.negative
  overflow : overflow → s.2.status.overflow = t.2.status.overflow

/-- The first subtraction without a borrow may be a comparison. The overflow flag is the same if
there is a subtraction after it. -/
theorem endAlike_compareA {variant : Variant} {r : Registers} (h : IsBinary variant r.status)
    (hcarry : r.status.carry = true) (m : Byte) (rest : List (Byte × Byte)) :
    EndAlike (chain variant.subtract (compareA r m) rest)
      (chain variant.subtract (variant.subtract r m) rest) (rest ≠ []) := by
  obtain ⟨a, overflow, hsubtract⟩ := exists_subtractBinary_eq r m hcarry
  have hwork : variant.subtract r m = subtractBinary r m := Rule.subtraction.work_binary h m
  rw [hwork, hsubtract]
  cases rest with
  -- Without a pair behind it, the overflow flag is what the two differ in.
  | nil => exact ⟨rfl, rfl, rfl, fun hrest => absurd rfl hrest⟩
  | cons p rest =>
    rw [chain_forgets variant (r := compareA r m) h]
    exact ⟨rfl, rfl, rfl, fun _ => rfl⟩

/-! ## The law -/

/-- Addition and subtraction are those of binary numbers of any length.

The chip works through two rows of bytes from the lowest on and does not look at the decimal flag,
or finds it clear. Then the bytes are those of the exact sum or difference, the carry says whether
it leaves the range of the bytes, and N and V describe it as a number with a sign. In a subtraction
without a borrow, the first pair may be compared in place of being subtracted; what comes after it
is the same, and neither the carry nor the decimal flag has a say in the comparison. -/
theorem chain_binary (variant : Variant) {r : Registers} (h : IsBinary variant r.status)
    (x y : Byte) (rest : List (Byte × Byte)) :
    (∀ rule : Rule, Works rule.mnemonic variant (rule.work variant) ∧
      Worked Radix.binary rule ((x, y) :: rest) r.status.carry
        (chain (rule.work variant) r ((x, y) :: rest)).1
        (chain (rule.work variant) r ((x, y) :: rest)).2.status.carry ∧
      SignFlags rule ((x, y) :: rest) r.status.carry
        (chain (rule.work variant) r ((x, y) :: rest)).1
        (chain (rule.work variant) r ((x, y) :: rest)).2.status) ∧
    Works .cmp variant compareA ∧
    (r.status.carry = true →
      EndAlike (chain variant.subtract (compareA { r with a := x } y) rest)
        ((chain variant.subtract r ((x, y) :: rest)).1.tail,
          (chain variant.subtract r ((x, y) :: rest)).2) (rest ≠ [])) ∧
    ∀ (s : Registers) (m : Byte) (carry decimal : Bool),
      compareA { s with status := { s.status with carry := carry, decimal := decimal } } m =
        { compareA s m with status := { (compareA s m).status with decimal := decimal } } := by
  refine ⟨fun rule => ⟨rule.works variant, ?_, signFlags_chain rule h x y rest⟩, works_cmp variant,
    fun hcarry => endAlike_compareA (r := { r with a := x }) h hcarry y rest, fun _ _ _ _ => rfl⟩
  exact (digitByDigit_binary rule variant).worked h fun _ _ => ⟨trivial, trivial⟩

/-- Two words with a sign whose difference is too large, on the chip that does not look at the
decimal flag: `$7F00 - $80FF` is `$FE01`, with a borrow. -/
theorem chain_binary_overflow :
    let r := { Registers.initial with status := { decimal := true, carry := true } }
    let pairs := [(0x00, 0xFF), (0x7F, 0x80)]
    let result := chain Variant.ricoh2A03.subtract r pairs
    IsBinary .ricoh2A03 r.status ∧ r.status.carry = true ∧ result.1 = [0x01, 0xFE] ∧
      Worked Radix.binary .subtraction pairs true result.1 false ∧
      SignFlags .subtraction pairs true result.1 result.2.status ∧
      EndAlike (chain Variant.ricoh2A03.subtract (compareA { r with a := 0x00 } 0xFF)
        [(0x7F, 0x80)]) (result.1.tail, result.2) True := by
  intro r pairs result
  obtain ⟨hrules, -, hcompare, -⟩ :=
    chain_binary .ricoh2A03 (r := r) rfl 0x00 0xFF [(0x7F, 0x80)]
  obtain ⟨-, hworked, hsigns⟩ := hrules .subtraction
  obtain ⟨hbytes, hcarry, hnegative, hoverflow⟩ := hcompare rfl
  exact ⟨rfl, rfl, by decide, hworked, hsigns, hbytes, hcarry, hnegative,
    fun _ => hoverflow (List.cons_ne_nil _ _)⟩

end Micro6502.Arithmetic
