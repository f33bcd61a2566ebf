import Mathlib.Data.Nat.Digits.Lemmas
import Mathlib.Tactic.LinearCombination
import Micro6502.Word

/-!
# Numbers of many bytes

A row of bytes is a number, the lowest byte in front. Which number it is depends on what a byte
counts: all of its eight bits, or two decimal digits of four bits each. A row in which the bits
count may also be read as a number with a sign.

## Contents

- `Radix`, a way to write numbers, with `Radix.binary` and `Radix.packed`
- `Radix.number`, which is below a power of the base and tells rows of one length apart
- `signed` and `FitsSigned`, numbers with a sign, by the byte in front and the rest
-/

namespace Micro6502

/-! ## Ways to write numbers -/

/-- A way to write numbers as rows of bytes. Not every byte needs to be a digit. -/
structure Radix where
  base : Nat
  IsDigit : Byte → Prop
  /-- What a byte counts. -/
  digit : Byte → Nat
  one_lt_base : 1 < base
  digit_lt : ∀ {b}, IsDigit b → digit b < base
  digit_inj : ∀ {b c}, IsDigit b → IsDigit c → digit b = digit c → b = c

namespace Radix

/-- Every byte is a digit. -/
def binary : Radix where
  base := 256
  IsDigit _ := True
  digit b := b.toNat
  one_lt_base := by decide
  digit_lt {b} _ := b.isLt
  digit_inj _ _ h := BitVec.eq_of_toNat_eq h

/-- A byte has a decimal digit in its upper and one in its lower half. -/
def packed : Radix where
  base := 100
  IsDigit b := b.toNat / 16 ≤ 9 ∧ b.toNat % 16 ≤ 9
  digit b := b.toNat / 16 * 10 + b.toNat % 16
  one_lt_base := by decide
  digit_lt {b} h := by omega
  digit_inj {b c} hb hc h := by
    -- Both halves are below ten, so that the digits can be read back.
    apply BitVec.eq_of_toNat_eq
    omega

/-- The number of a row of bytes, the lowest in front. -/
def number (R : Radix) (bytes : List Byte) : Nat := Nat.ofDigits R.base (bytes.map R.digit)

variable {R : Radix} {bytes others : List Byte}

@[simp] theorem number_nil : R.number [] = 0 := rfl

@[simp] theorem number_cons (b : Byte) (rest : List Byte) :
    R.number (b :: rest) = R.digit b + R.base * R.number rest :=
  Nat.ofDigits_cons

theorem digit_lt_of_mem (h : ∀ b ∈ bytes, R.IsDigit b) : ∀ d ∈ bytes.map R.digit, d < R.base := by
  intro d hd
  obtain ⟨b, hb, rfl⟩ := List.mem_map.mp hd
  exact R.digit_lt (h b hb)

theorem number_lt (h : ∀ b ∈ bytes, R.IsDigit b) : R.number bytes < R.base ^ bytes.length := by
  have hlt := Nat.ofDigits_lt_base_pow_length R.one_lt_base (digit_lt_of_mem h)
  rwa [List.length_map] at hlt

/-- Rows of digits of one length are the same if their numbers are. -/
theorem eq_of_number_eq (hlength : bytes.length = others.length) (h : ∀ b ∈ bytes, R.IsDigit b)
    (h' : ∀ b ∈ others, R.IsDigit b) (hnumber : R.number bytes = R.number others) :
    bytes = others := by
  have hdigits : bytes.map R.digit = others.map R.digit :=
    Nat.ofDigits_inj_of_len_eq R.one_lt_base (by simpa using hlength) (digit_lt_of_mem h)
      (digit_lt_of_mem h') hnumber
  -- The digits agree place by place, and each has one byte.
  refine List.ext_getElem hlength fun i hi hi' => ?_
  have hdigit := List.getElem_of_eq hdigits (by simpa using hi)
  rw [List.getElem_map, List.getElem_map] at hdigit
  exact R.digit_inj (h _ (List.getElem_mem hi)) (h' _ (List.getElem_mem hi')) hdigit

end Radix

/-! ## Numbers with a sign -/

/-- The number of a row of bytes in two's complement. -/
def signed (bytes : List Byte) : Int := (Radix.binary.number bytes : Int).bmod (256 ^ bytes.length)

/-- The integer is one of those that some bytes can hold in two's complement. -/
def FitsSigned (n : Nat) (z : Int) : Prop := -(256 ^ n : Int) ≤ 2 * z ∧ 2 * z < 256 ^ n

theorem signed_singleton (b : Byte) : signed [b] = b.toInt := by
  rw [BitVec.toInt_eq_toNat_bmod]
  simp [signed, Radix.binary]

/-- The sign of a row is in its last byte; the byte in front counts in full. -/
theorem signed_cons (b c : Byte) (rest : List Byte) :
    signed (b :: c :: rest) = b.toNat + 256 * signed (c :: rest) := by
  have hb := b.isLt
  -- The modulus of the rest is even, so that half of it is a whole number.
  obtain ⟨k, hk⟩ : ∃ k, 256 ^ (c :: rest).length = 2 * k :=
    ⟨128 * 256 ^ rest.length, by rw [List.length_cons, pow_succ]; ring⟩
  have hpos : 0 < 256 ^ (c :: rest).length := Nat.pow_pos (by decide)
  have hsize : 256 ^ (b :: c :: rest).length = 512 * k := by
    rw [List.length_cons, pow_succ, hk]
    ring
  -- The same quotient serves for the whole row.
  obtain ⟨hlow, hhigh, q, hq⟩ := (Int.bmod_eq_iff (c := signed (c :: rest)) hpos).mp rfl
  refine (Int.bmod_eq_iff (by omega)).mpr ?_
  rw [hk] at hlow hhigh hq
  rw [hsize]
  refine ⟨by omega, by omega, q, ?_⟩
  have hnumber : (Radix.binary.number (b :: c :: rest) : Int) =
      b.toNat + 256 * Radix.binary.number (c :: rest) := by
    rw [Radix.number_cons]
    simp [Radix.binary]
  rw [hnumber]
  push_cast at hq ⊢
  linear_combination 256 * hq

/-- Whether a number fits does not depend on its lowest byte. -/
theorem fitsSigned_succ (b : Byte) {n : Nat} (hn : n ≠ 0) (z : Int) :
    FitsSigned (n + 1) (b.toNat + 256 * z) ↔ FitsSigned n z := by
  have hb := b.isLt
  obtain ⟨n, rfl⟩ := Nat.exists_eq_succ_of_ne_zero hn
  simp only [FitsSigned, pow_succ]
  -- What is left is linear in the size, for the lowest byte is too small to matter.
  generalize (256 : Int) ^ n = size
  omega

/-- The top bit of a row is that of its last byte. -/
theorem Radix.testBit_number_cons (b c : Byte) (rest : List Byte) :
    (binary.number (b :: c :: rest)).testBit (8 * (b :: c :: rest).length - 1) =
      (binary.number (c :: rest)).testBit (8 * (c :: rest).length - 1) := by
  have hnumber : binary.number (b :: c :: rest) = 2 ^ 8 * binary.number (c :: rest) + b.toNat := by
    rw [number_cons, Nat.add_comm]
    rfl
  rw [hnumber, Nat.testBit_two_pow_mul_add _ b.isLt, if_neg (by simp; omega)]
  congr 1

end Micro6502
