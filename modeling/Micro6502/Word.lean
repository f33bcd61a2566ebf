/-!
# Bytes and addresses

The two word sizes of the machine, and the ways in which arbitrary integers become words.

## Contents

- `Byte` and `Address`, words of eight and sixteen bits
- `byte` and `address`, the reduction of an integer to a word (two's complement for negatives)
- `wordOf`, an address from its low and its high byte, with the two halves back
- `crossesPage`, whether two integers have different page numbers
-/

namespace Micro6502

/-! ## Words -/

/-- A word of eight bits: the contents of a memory cell or of a small register. -/
abbrev Byte := BitVec 8

/-- A word of sixteen bits: a place on the bus. -/
abbrev Address := BitVec 16

/-- The integer reduced to eight bits. -/
def byte (n : Int) : Byte := BitVec.ofInt 8 n

/-- The integer reduced to sixteen bits. -/
def address (n : Int) : Address := BitVec.ofInt 16 n

@[simp] theorem byte_toNat (b : Byte) : byte b.toNat = b := by simp [byte]

theorem toNat_byte (n : Int) : ((byte n).toNat : Int) = n % 0x100 := by
  rw [byte, BitVec.toNat_ofInt]
  omega

theorem toNat_address (n : Int) : ((address n).toNat : Int) = n % 0x10000 := by
  rw [address, BitVec.toNat_ofInt]
  omega

/-! ## Halves of an address -/

/-- The address whose low half and high half are the two bytes. -/
def wordOf (low high : Byte) : Address := high ++ low

/-- The low half of an address: the position within its page. -/
def lowByte (a : Address) : Byte := a.extractLsb' 0 8

/-- The high half of an address: the number of its page. -/
def highByte (a : Address) : Byte := a.extractLsb' 8 8

/-- A byte as an address in page zero. -/
def zeroPage (b : Byte) : Address := b.setWidth 16

theorem toNat_wordOf (low high : Byte) :
    (wordOf low high).toNat = 256 * high.toNat + low.toNat := by
  rw [wordOf, BitVec.toNat_append, ← Nat.shiftLeft_add_eq_or_of_lt low.isLt, Nat.shiftLeft_eq]
  omega

theorem lowByte_wordOf (low high : Byte) : lowByte (wordOf low high) = low := by
  apply BitVec.eq_of_toNat_eq
  simp only [lowByte, BitVec.extractLsb'_toNat, toNat_wordOf, Nat.shiftRight_zero]
  have := low.isLt
  omega

theorem highByte_wordOf (low high : Byte) : highByte (wordOf low high) = high := by
  apply BitVec.eq_of_toNat_eq
  simp only [highByte, BitVec.extractLsb'_toNat, toNat_wordOf, Nat.shiftRight_eq_div_pow]
  have := low.isLt
  have := high.isLt
  omega

/-- Two integers lie on different pages when they differ in bits 8 to 15. -/
def crossesPage (a b : Int) : Bool := a / 256 % 256 != b / 256 % 256

end Micro6502
