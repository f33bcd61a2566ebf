import Mathlib.Data.Int.Bitwise
import Micro6502.Status

/-!
# The status byte in masks

The flags are the bits of one byte, so they can be set and cleared by masks. The mask of a flag is
an integer with its bit alone. Joined to the byte it sets the flag; what is common to the byte and
the complement of the mask, which is a negative integer, has the flag cleared. Before it becomes
the byte, an integer is settled: eight bits of it are kept, and bit 5 is set.

## Contents

- `Flag.mask`, `settled` and `masked`
- `getLsbD_byte` and `land_byte`, eight bits of an integer of any sign
- `Status.pack_eq_settled`, the byte of a status from its flags
- `Status.pack_unpack`, `Status.pack_set` and `Status.get_eq_mask`, the status by masks
-/

namespace Micro6502

/-! ## Masks -/

/-- The integer in which only the bit of the flag is set. -/
def Flag.mask (flag : Flag) : Int := (2 ^ flag.bit : Nat)

/-- What the status byte becomes when it is given an integer. -/
def settled (n : Int) : Int := (n.land 0xFF).lor 0x20

/-- The status byte with a flag set or cleared by its mask. -/
def masked (p : Int) (flag : Flag) (value : Bool) : Int :=
  settled (if value then p.lor flag.mask else p.land flag.mask.lnot)

theorem Flag.testBit_mask (flag other : Flag) :
    flag.mask.testBit other.bit = decide (other = flag) := by
  cases flag <;> cases other <;> decide

theorem Flag.bit_lt (flag : Flag) : flag.bit < 8 := by cases flag <;> decide

/-! ## Bytes of integers -/

theorem getLsbD_byte (n : Int) (i : Nat) :
    (byte n).getLsbD i = (decide (i < 8) && n.testBit i) := by
  cases n with
  | ofNat m => exact BitVec.getLsbD_ofNat 8 m i
  -- The bits of a negative integer are those of a natural number, turned over.
  | negSucc m =>
    rw [byte, BitVec.ofInt_negSucc_eq_not_ofNat, BitVec.getLsbD_not, BitVec.getLsbD_ofNat]
    cases h : decide (i < 8) <;> simp [Int.testBit]

/-- What eight bits of an integer have in common with it is its byte. -/
theorem land_byte (n : Int) : n.land 0xFF = (byte n).toNat := by
  -- What is common to an integer and a natural number is natural, whatever the sign.
  obtain ⟨m, hm⟩ : ∃ m : Nat, n.land 0xFF = m := by cases n <;> exact ⟨_, rfl⟩
  have hlow (i : Nat) : Nat.testBit 0xFF i = decide (i < 8) := Nat.testBit_two_pow_sub_one 8 i
  have hbits (i : Nat) : m.testBit i = (n.testBit i && Nat.testBit 0xFF i) :=
    (congrArg (Int.testBit · i) hm.symm).trans (Int.testBit_land n 0xFF i)
  rw [hm]
  congr 1
  refine Nat.eq_of_testBit_eq fun i => ?_
  rw [hbits, hlow, BitVec.testBit_toNat, getLsbD_byte, Bool.and_comm]

theorem settled_eq (n : Int) : settled n = (byte n ||| 0x20#8).toNat := by
  rw [settled, land_byte, BitVec.toNat_or]
  rfl

/-! ## The status by masks -/

namespace Status

variable {status : Status} {n : Int}

theorem testBit_pack (status : Status) (flag : Flag) :
    (status.pack.toNat : Int).testBit flag.bit = status.get flag := by
  rw [← getLsbD_pack]
  exact BitVec.testBit_toNat _

/-- The byte has the bits of the flags, and bit 5. -/
theorem pack_eq {b : Byte} (h : ∀ flag, status.get flag = b.getLsbD flag.bit) :
    status.pack = b ||| 0x20#8 := by
  refine BitVec.eq_of_getLsbD_eq fun i hi => ?_
  rw [BitVec.getLsbD_or]
  -- Every bit but the fifth is that of a flag.
  rcases Flag.exists_bit hi with rfl | ⟨flag, rfl⟩
  · rw [getLsbD_pack_five]
    exact (Bool.or_true _).symm
  · have hother : (0x20#8).getLsbD flag.bit = false := by cases flag <;> rfl
    rw [getLsbD_pack, h, hother, Bool.or_false]

theorem get_unpack_byte (n : Int) (flag : Flag) :
    (unpack (byte n)).get flag = n.testBit flag.bit := by
  rw [get_unpack, getLsbD_byte, decide_eq_true flag.bit_lt, Bool.true_and]

/-- An integer that has the flags as its bits becomes the byte of the status. -/
theorem pack_eq_settled (h : ∀ flag, status.get flag = n.testBit flag.bit) :
    (status.pack.toNat : Int) = settled n := by
  rw [settled_eq, pack_eq fun flag => ?_]
  rw [h, getLsbD_byte, decide_eq_true flag.bit_lt, Bool.true_and]

theorem pack_unpack (n : Int) : ((unpack (byte n)).pack.toNat : Int) = settled n :=
  pack_eq_settled (get_unpack_byte n)

theorem pack_set (status : Status) (flag : Flag) (value : Bool) :
    ((status.set flag value).pack.toNat : Int) = masked status.pack.toNat flag value := by
  refine pack_eq_settled fun other => ?_
  rw [get_set]
  -- The bit of the flag itself is given, and every other bit is kept.
  cases value with
  | true =>
    rw [if_pos rfl, Int.testBit_lor, testBit_pack, Flag.testBit_mask]
    by_cases hsame : other = flag <;> simp [hsame]
  | false =>
    rw [if_neg Bool.false_ne_true, Int.testBit_land, Int.testBit_lnot, testBit_pack,
      Flag.testBit_mask]
    by_cases hsame : other = flag <;> simp [hsame]

/-- A flag is set if its mask has something in common with the byte. -/
theorem get_eq_mask (status : Status) (flag : Flag) :
    status.get flag = decide ((status.pack.toNat : Int).land flag.mask ≠ 0) := by
  have hcommon : (status.pack.toNat : Int).land flag.mask =
      ((status.get flag).toNat * 2 ^ flag.bit : Nat) := by
    rw [← testBit_pack]
    exact congrArg Int.ofNat (Nat.and_two_pow _ _)
  rw [hcommon]
  cases status.get flag <;> simp

end Status

end Micro6502
