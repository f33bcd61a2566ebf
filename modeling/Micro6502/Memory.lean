import Micro6502.Call
import Micro6502.Word

/-!
# Memory

A memory is a row of bytes of fixed length, all of one value at first. The row is a binary tree
over the bits of the offset, lowest bit first, in which a part whose bytes are all equal is one
leaf; a fresh memory is one leaf whatever its length.

## Contents

- `Bytes`, the tree, with `get` and `set` and the law `Bytes.get_set`
- `Memory`, with `make?`, and with `read` and `store`, which check offset and data
-/

namespace Micro6502

/-! ## Rows of bytes -/

/-- A row of bytes without an end. -/
inductive Bytes where
  /-- All bytes are the same. -/
  | uniform (value : Byte)
  /-- The bytes at even and at odd offsets. -/
  | interleave (even odd : Bytes)
  deriving Repr

namespace Bytes

def even : Bytes → Bytes
  | uniform value => uniform value
  | interleave even _ => even

def odd : Bytes → Bytes
  | uniform value => uniform value
  | interleave _ odd => odd

def get : Bytes → Nat → Byte
  | uniform value, _ => value
  | interleave even odd, i => if i % 2 = 0 then even.get (i / 2) else odd.get (i / 2)

/-- The row with one byte replaced. Offsets up to `2 ^ depth` are told apart. -/
def set : (depth : Nat) → Bytes → Nat → Byte → Bytes
  | 0, _, _, value => uniform value
  | depth + 1, row, i, value =>
    if i % 2 = 0 then interleave (set depth row.even (i / 2) value) row.odd
    else interleave row.even (set depth row.odd (i / 2) value)

theorem get_eq (row : Bytes) (i : Nat) :
    row.get i = if i % 2 = 0 then row.even.get (i / 2) else row.odd.get (i / 2) := by
  cases row <;> simp [get, even, odd]

/-- After a replacement the offset holds the new byte and all others what they held. -/
theorem get_set {depth i j : Nat} (row : Bytes) (value : Byte)
    (hi : i < Nat.pow 2 depth) (hj : j < Nat.pow 2 depth) :
    (set depth row i value).get j = if j = i then value else row.get j := by
  induction depth generalizing row i j with
  | zero =>
    have : j = i := (Nat.lt_one_iff.mp hj).trans (Nat.lt_one_iff.mp hi).symm
    simp [set, get, this]
  | succ depth ih =>
    have hpow : Nat.pow 2 (depth + 1) = Nat.pow 2 depth * 2 := rfl
    have hi2 : i / 2 < Nat.pow 2 depth := by omega
    have hj2 : j / 2 < Nat.pow 2 depth := by omega
    rw [set, get_eq row j]
    by_cases hi0 : i % 2 = 0 <;> by_cases hj0 : j % 2 = 0 <;>
      simp only [get, hi0, hj0, if_true, if_false, ih _ hi2 hj2] <;> grind

end Bytes

/-! ## Memories -/

/-- A memory of `size` bytes. -/
structure Memory where
  size : Nat
  bytes : Bytes
  deriving Repr

/-- Whether an integer is the value of a byte. -/
def isByte (n : Int) : Bool := 0 ≤ n && n ≤ 255

theorem isByte_iff {n : Int} : isByte n = true ↔ 0 ≤ n ∧ n ≤ 0xFF := by simp [isByte]

theorem toNat_byte_of_isByte {n : Int} (h : isByte n = true) : ((byte n).toNat : Int) = n := by
  obtain ⟨hlow, hhigh⟩ := isByte_iff.mp h
  rw [toNat_byte]
  omega

theorem byte_inj_of_isByte {m n : Int} (hm : isByte m = true) (hn : isByte n = true) :
    byte m = byte n ↔ m = n := by
  refine ⟨fun h => ?_, congrArg byte⟩
  rw [← toNat_byte_of_isByte hm, h, toNat_byte_of_isByte hn]

namespace Memory

/-- A memory whose bytes all have the value `fill`. The size is checked first. -/
def make? (size fill : Int) : Except Fault Memory :=
  if size ≤ 0 then .error .sizeNotPositive
  else if !isByte fill then .error (.fillTooWide fill)
  else .ok ⟨size.toNat, .uniform (byte fill)⟩

/-- Whether an integer is an offset into the memory. -/
def hasOffset (m : Memory) (offset : Int) : Bool := 0 ≤ offset && offset < m.size

def get (m : Memory) (offset : Nat) : Byte := m.bytes.get offset

def set (m : Memory) (offset : Nat) (value : Byte) : Memory :=
  { m with bytes := m.bytes.set (m.size.log2 + 1) offset value }

@[simp] theorem size_set (m : Memory) (offset : Nat) (value : Byte) :
    (m.set offset value).size = m.size := rfl

theorem get_set {m : Memory} {i j : Nat} (value : Byte) (hi : i < m.size) (hj : j < m.size) :
    (m.set i value).get j = if j = i then value else m.get j :=
  have hsize : m.size < Nat.pow 2 (m.size.log2 + 1) := Nat.lt_log2_self
  Bytes.get_set m.bytes value (Nat.lt_trans hi hsize) (Nat.lt_trans hj hsize)

def read (m : Memory) (kind : MemoryKind) (offset : Int) : Except Fault Byte :=
  if m.hasOffset offset then .ok (m.get offset.toNat)
  else .error (.outOfBounds kind offset m.size)

/-- Stores an integer at an offset. The offset is checked first. -/
def store (m : Memory) (kind : MemoryKind) (offset data : Int) : Except Fault Unit × Memory :=
  if !m.hasOffset offset then (.error (.outOfBounds kind offset m.size), m)
  else if !isByte data then (.error (.dataTooWide data), m)
  else (.ok (), m.set offset.toNat (byte data))

end Memory

end Micro6502
