import Micro6502.Proofs.Chains

/-!
# Decimal numbers of many bytes

With the decimal flag set, the chip with a decimal mode adds and subtracts numbers that have two
decimal digits in every byte. The corrections of the chip are hexadecimal: a digit that is too large
or negative is moved by six, and what it carries counts sixteen.

## Contents

- `Arithmetic.exists_addLowDigits` and `packed_of_sum`, the low and the high digit of a sum, with
  `addDecimal_packed`
- `Arithmetic.exists_subtractLowDigits` and `packed_of_difference`, those of a difference, with
  `subtractDecimal_packed`
- `Arithmetic.work_packed` and `digitByDigit_decimal`
- `Arithmetic.chain_decimal`
-/

namespace Micro6502.Arithmetic

open Radix (packed)

theorem packed_of_halves {b : Byte} {high low : Nat} (hhigh : high ≤ 9) (hlow : low ≤ 9)
    (h : b.toNat = 16 * high + low) : packed.IsDigit b ∧ packed.digit b = 10 * high + low := by
  simp only [packed]
  omega

/-! ## Addition -/

/-- The low digits add up to a digit and a carry. In the corrected sum, the carry counts sixteen. -/
theorem exists_addLowDigits {a m : Byte} (ha : packed.IsDigit a) (hm : packed.IsDigit m)
    (carry : Bool) :
    ∃ low k, low ≤ 9 ∧ k ≤ 1 ∧ a.toNat % 16 + m.toNat % 16 + carry.toNat = 10 * k + low ∧
      addLowDigits a m carry = 16 * k + low := by
  obtain ⟨-, ha⟩ := ha
  obtain ⟨-, hm⟩ := hm
  have hc := carry.toNat_le
  unfold addLowDigits
  -- Only a sum above nine is corrected, and it is below twenty.
  by_cases hlow : 9 < a.toNat % 16 + m.toNat % 16 + carry.toNat
  · refine ⟨a.toNat % 16 + m.toNat % 16 + carry.toNat - 10, 1, ?_⟩
    simp only [if_pos hlow]
    omega
  · refine ⟨a.toNat % 16 + m.toNat % 16 + carry.toNat, 0, ?_⟩
    simp only [if_neg hlow]
    omega

/-- The correction of the high digit carries out of the byte just if the digit is too large. -/
theorem packed_of_sum {high low : Nat} (hhigh : high ≤ 19) (hlow : low ≤ 9) :
    let half := 16 * high + low
    let sum := if 0xA0 ≤ half then half + 0x60 else half
    packed.IsDigit (BitVec.ofNat 8 sum) ∧
      packed.digit (BitVec.ofNat 8 sum) + 100 * (decide (255 < sum)).toNat = 10 * high + low := by
  intro half sum
  -- With two digits in the high half the corrected sum leaves the byte.
  by_cases hlarge : 10 ≤ high
  · have hsum : sum = 16 * high + low + 0x60 := if_pos (by omega)
    have hbyte : (BitVec.ofNat 8 sum).toNat = 16 * (high - 10) + low := by
      rw [BitVec.toNat_ofNat]
      omega
    obtain ⟨hdigit, hvalue⟩ := packed_of_halves (by omega) hlow hbyte
    rw [hvalue, decide_eq_true (by omega)]
    exact ⟨hdigit, by simp; omega⟩
  · have hsum : sum = 16 * high + low := if_neg (by omega)
    have hbyte : (BitVec.ofNat 8 sum).toNat = 16 * high + low := by
      rw [BitVec.toNat_ofNat]
      omega
    obtain ⟨hdigit, hvalue⟩ := packed_of_halves (by omega) hlow hbyte
    rw [hvalue, decide_eq_false (by omega)]
    exact ⟨hdigit, by simp⟩

theorem addDecimal_packed (r : Registers) (m : Byte) (ha : packed.IsDigit r.a)
    (hm : packed.IsDigit m) :
    packed.IsDigit (addDecimal r m).a ∧
      packed.digit (addDecimal r m).a + 100 * (addDecimal r m).status.carry.toNat =
        packed.digit r.a + packed.digit m + r.status.carry.toNat := by
  obtain ⟨low, k, hlow, hk, hlows, hadd⟩ := exists_addLowDigits ha hm r.status.carry
  obtain ⟨hahigh, -⟩ := ha
  obtain ⟨hmhigh, -⟩ := hm
  have hhalf : addHalfCorrected r.a m r.status.carry =
      16 * (r.a.toNat / 16 + m.toNat / 16 + k) + low := by
    -- The carry of the low digits is one more sixteen.
    rw [addHalfCorrected, hadd]
    omega
  have hdigits : packed.digit r.a + packed.digit m + r.status.carry.toNat =
      10 * (r.a.toNat / 16 + m.toNat / 16 + k) + low := by
    simp only [packed]
    omega
  rw [hdigits]
  unfold addDecimal
  simp only [hhalf]
  exact packed_of_sum (by omega) hlow

/-! ## Subtraction -/

/-- The low digits differ by a digit less a borrow. In the corrected difference, the borrow counts
sixteen. -/
theorem exists_subtractLowDigits {a m : Byte} (ha : packed.IsDigit a) (hm : packed.IsDigit m)
    (carry : Bool) :
    ∃ low k : Nat, low ≤ 9 ∧ k ≤ 1 ∧
      (a.toNat : Int) % 16 - m.toNat % 16 + carry.toNat - 1 = low - 10 * k ∧
      subtractLowDigits a m carry = low - 16 * k := by
  obtain ⟨-, ha⟩ := ha
  obtain ⟨-, hm⟩ := hm
  have hc := carry.toNat_le
  unfold subtractLowDigits
  -- A borrowed ten makes up for a negative difference.
  by_cases hlow : (a.toNat : Int) % 16 - m.toNat % 16 + carry.toNat - 1 < 0
  · refine ⟨a.toNat % 16 + carry.toNat + 9 - m.toNat % 16, 1, ?_⟩
    simp only [if_pos hlow]
    omega
  · refine ⟨a.toNat % 16 + carry.toNat - 1 - m.toNat % 16, 0, ?_⟩
    simp only [if_neg hlow]
    omega

/-- The correction of the high digit borrows just if the digit is negative. -/
theorem packed_of_difference (high : Int) {low : Nat} (hhigh : -10 ≤ high) (hhigh' : high ≤ 9)
    (hlow : low ≤ 9) :
    let half := 16 * high + low
    let difference := if half < 0 then half - 0x60 else half
    packed.IsDigit (BitVec.ofInt 8 difference) ∧
      (packed.digit (BitVec.ofInt 8 difference) : Int) =
        10 * high + low + 100 * (decide (high < 0)).toNat := by
  intro half difference
  -- A negative digit wraps around in the byte, and the correction moves it back among the ten.
  by_cases hnegative : high < 0
  · have hdifference : difference = 16 * high + low - 0x60 := if_pos (by omega)
    have hbyte : (BitVec.ofInt 8 difference).toNat = 16 * (high + 10).toNat + low := by
      rw [BitVec.toNat_ofInt]
      omega
    obtain ⟨hdigit, hvalue⟩ := packed_of_halves (by omega) hlow hbyte
    rw [hvalue, decide_eq_true hnegative]
    exact ⟨hdigit, by simp; omega⟩
  · have hdifference : difference = 16 * high + low := if_neg (by omega)
    have hbyte : (BitVec.ofInt 8 difference).toNat = 16 * high.toNat + low := by
      rw [BitVec.toNat_ofInt]
      omega
    obtain ⟨hdigit, hvalue⟩ := packed_of_halves (by omega) hlow hbyte
    rw [hvalue, decide_eq_false hnegative]
    exact ⟨hdigit, by simp; omega⟩

/-- The binary difference of the bytes borrows when the decimal one does. -/
theorem subtractDecimal_packed (r : Registers) (m : Byte) (ha : packed.IsDigit r.a)
    (hm : packed.IsDigit m) :
    packed.IsDigit (subtractDecimal r m).a ∧
      (packed.digit (subtractDecimal r m).a : Int) +
          100 * ((subtractDecimal r m).status.carry.toNat - 1) =
        packed.digit r.a - packed.digit m + (r.status.carry.toNat - 1) := by
  obtain ⟨low, k, hlow, hk, hlows, hsubtract⟩ := exists_subtractLowDigits ha hm r.status.carry
  have hc := r.status.carry.toNat_le
  obtain ⟨hahigh, -⟩ := ha
  obtain ⟨hmhigh, -⟩ := hm
  have hhalf : (r.a.toNat : Int) / 16 * 16 - m.toNat / 16 * 16 +
      subtractLowDigits r.a m r.status.carry = 16 * (r.a.toNat / 16 - m.toNat / 16 - k) + low := by
    rw [hsubtract]
    omega
  have hdigits : (packed.digit r.a : Int) - packed.digit m + (r.status.carry.toNat - 1) =
      10 * (r.a.toNat / 16 - m.toNat / 16 - k) + low := by
    simp only [packed]
    omega
  -- The chip takes the carry from the binary sum with the complement.
  have hcarry : (subtractDecimal r m).status.carry =
      !decide ((r.a.toNat : Int) / 16 - m.toNat / 16 - k < 0) := by
    show decide (255 < r.a.toNat + (~~~m).toNat + r.status.carry.toNat) = _
    rw [BitVec.toNat_not, ← decide_not]
    congr 1
    apply propext
    omega
  obtain ⟨hdigit, hvalue⟩ := packed_of_difference ((r.a.toNat : Int) / 16 - m.toNat / 16 - k)
    (by omega) (by omega) hlow
  rw [hdigits, hcarry]
  unfold subtractDecimal
  simp only [hhalf]
  refine ⟨hdigit, ?_⟩
  rw [hvalue]
  cases decide ((r.a.toNat : Int) / 16 - m.toNat / 16 - k < 0) <;> simp

/-! ## Chains -/

/-- With the decimal flag set, the work on two bytes of decimal digits follows the rule. -/
theorem work_packed (rule : Rule) {r : Registers} {m : Byte} (h : r.status.decimal = true)
    (ha : packed.IsDigit r.a) (hm : packed.IsDigit m) :
    packed.IsDigit (rule.work .nmos r m).a ∧
      (packed.digit (rule.work .nmos r m).a : Int) +
          100 * rule.exact 0 0 (rule.work .nmos r m).status.carry =
        rule.exact (packed.digit r.a) (packed.digit m) r.status.carry := by
  -- The decimal flag picks the decimal form of either rule.
  cases rule with
  | addition =>
    have hwork : Rule.addition.work .nmos r m = addDecimal r m := by
      simp [Rule.work, Variant.add, Variant.hasDecimal, h]
    obtain ⟨hdigit, hexact⟩ := addDecimal_packed r m ha hm
    rw [hwork]
    refine ⟨hdigit, ?_⟩
    simp only [Rule.exact]
    omega
  | subtraction =>
    have hwork : Rule.subtraction.work .nmos r m = subtractDecimal r m := by
      simp [Rule.work, Variant.subtract, Variant.hasDecimal, h]
    obtain ⟨hdigit, hexact⟩ := subtractDecimal_packed r m ha hm
    rw [hwork]
    refine ⟨hdigit, ?_⟩
    simp only [Rule.exact]
    omega

theorem digitByDigit_decimal (rule : Rule) :
    DigitByDigit packed rule (fun status => status.decimal = true) (rule.work .nmos) where
  keeps r m h := by
    -- Neither form changes the decimal flag.
    cases rule <;> simp only [Rule.work, Variant.add, Variant.subtract] <;> split <;> exact h
  isDigit _ _ h ha hm := (work_packed rule h ha hm).1
  exact _ _ h ha hm := (work_packed rule h ha hm).2

/-! ## The law -/

/-- Addition and subtraction are those of decimal numbers of any length.

The chip with a decimal mode works through two rows of decimal digits from the lowest on, with the
decimal flag set. Then the bytes are the decimal digits of the exact sum or difference, and the
carry says whether it leaves their range. So a number that has been added can be taken away again,
whatever is in the other registers by then. -/
theorem chain_decimal {r : Registers} {pairs : List (Byte × Byte)} (h : r.status.decimal = true)
    (hdigits : Digits packed pairs) :
    (∀ rule : Rule, Works rule.mnemonic .nmos (rule.work .nmos) ∧
      Worked packed rule pairs r.status.carry (chain (rule.work .nmos) r pairs).1
        (chain (rule.work .nmos) r pairs).2.status.carry) ∧
    (r.status.carry = false → ∀ s : Registers, s.status.decimal = true → s.status.carry = true →
      (chain Variant.nmos.subtract s
        ((chain Variant.nmos.add r pairs).1.zip (pairs.map Prod.snd))).1 = pairs.map Prod.fst) := by
  have hworked (rule : Rule) := (digitByDigit_decimal rule).worked h hdigits
  refine ⟨fun rule => ⟨rule.works .nmos, hworked rule⟩, fun hcarry s hs hborrow => ?_⟩
  have hsum := hworked .addition
  rw [hcarry] at hsum
  -- The digits of the sum are worked on once more, with those of the number that was added.
  have hdigits' : Digits packed ((chain Variant.nmos.add r pairs).1.zip (pairs.map Prod.snd)) := by
    intro p hp
    obtain ⟨hsumMem, haddedMem⟩ := List.of_mem_zip hp
    obtain ⟨p', hp', hsecond⟩ := List.mem_map.mp haddedMem
    exact ⟨hsum.isDigit _ hsumMem, hsecond ▸ (hdigits p' hp').2⟩
  have hdifference := (digitByDigit_decimal .subtraction).worked hs hdigits'
  rw [hborrow] at hdifference
  exact hsum.difference_of_sum hdigits hdifference

/-- `5678 + 8765` is `4443` with a carry, and `4443 - 8765` is `5678` with a borrow. -/
theorem chain_decimal_word :
    let r := { Registers.initial with status := { decimal := true } }
    let s := { Registers.initial with status := { decimal := true, carry := true } }
    let pairs := [(0x78, 0x65), (0x56, 0x87)]
    r.status.decimal = true ∧ Digits packed pairs ∧
      Worked packed .addition pairs false [0x43, 0x44] true ∧
      (chain Variant.nmos.subtract s [(0x43, 0x65), (0x44, 0x87)]).1 = [0x78, 0x56] := by
  intro r s pairs
  have hdigits : Digits packed pairs := by
    intro p hp
    -- The lowest pair is in front.
    obtain rfl | rfl : p = (0x78, 0x65) ∨ p = (0x56, 0x87) := by simpa [pairs] using hp
    · exact ⟨⟨by decide, by decide⟩, by decide, by decide⟩
    · exact ⟨⟨by decide, by decide⟩, by decide, by decide⟩
  obtain ⟨hrules, hback⟩ := chain_decimal (r := r) rfl hdigits
  have hworked := (hrules .addition).2
  have hdifference := hback rfl s rfl rfl
  have hsum : (chain Variant.nmos.add r pairs).1 = [0x43, 0x44] := by decide
  have hcarry : (chain Variant.nmos.add r pairs).2.status.carry = true := by decide
  rw [Rule.work, hsum, hcarry] at hworked
  rw [hsum] at hdifference
  exact ⟨rfl, hdigits, hworked, hdifference⟩

end Micro6502.Arithmetic
