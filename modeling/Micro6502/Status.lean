import Micro6502.Word
import Micro6502.Text.Case

/-!
# The status register

Seven flags, written as one byte with the bits N V 1 B D I Z C from the top. Bit 5 has no flag
behind it and always reads as one.

## Contents

- `Flag`, its letter and its bit, and `Flag.ofName?`
- `Status`, with `get` and `set` by flag
- `Status.pack` and `Status.unpack`, the byte form
- `Status.setNZ`, the flags that describe a result
-/

namespace Micro6502

/-! ## Flags -/

/-- The flags of the status register, from the highest bit to the lowest. -/
inductive Flag where
  | negative
  | overflow
  | brk
  | decimal
  | interrupt
  | zero
  | carry
  deriving DecidableEq, Repr

namespace Flag

/-- All flags, from the highest bit to the lowest. -/
def all : List Flag := [negative, overflow, brk, decimal, interrupt, zero, carry]

def letter : Flag → Char
  | negative => 'N'
  | overflow => 'V'
  | brk => 'B'
  | decimal => 'D'
  | interrupt => 'I'
  | zero => 'Z'
  | carry => 'C'

/-- The place of a flag in the status byte. -/
def bit : Flag → Nat
  | negative => 7
  | overflow => 6
  | brk => 4
  | decimal => 3
  | interrupt => 2
  | zero => 1
  | carry => 0

theorem bit_injective : Function.Injective bit := by
  intro flag other h
  cases flag <;> cases other <;> first | rfl | exact absurd h (by decide)

/-- Every place in a status byte is that of a flag, but for one. -/
theorem exists_bit {n : Nat} (hn : n < 8) : n = 5 ∨ ∃ flag : Flag, n = flag.bit := by
  have h : ∀ n : Fin 8, n.val = 5 ∨ ∃ flag ∈ all, n.val = flag.bit := by decide
  exact (h ⟨n, hn⟩).imp_right fun ⟨flag, _, hflag⟩ => ⟨flag, hflag⟩

/-- A flag name that no flag has, in capitals. -/
structure UnknownName where
  name : String

/-- The flag with the given letter, in either letter case. -/
def ofName? (name : String) : Except UnknownName Flag :=
  let capitals := Text.upper name
  match all.find? fun flag => String.singleton flag.letter == capitals with
  | some flag => .ok flag
  | none => .error ⟨capitals⟩

end Flag

/-! ## The register -/

/-- The contents of the status register. `brk` has a meaning only in the copy on the stack, and
`interrupt` set means that interrupt requests are masked. -/
structure Status where
  negative : Bool := false
  overflow : Bool := false
  brk : Bool := false
  decimal : Bool := false
  interrupt : Bool := false
  zero : Bool := false
  carry : Bool := false
  deriving DecidableEq, Repr

namespace Status

def get (status : Status) : Flag → Bool
  | .negative => status.negative
  | .overflow => status.overflow
  | .brk => status.brk
  | .decimal => status.decimal
  | .interrupt => status.interrupt
  | .zero => status.zero
  | .carry => status.carry

def set (status : Status) (flag : Flag) (value : Bool) : Status :=
  match flag with
  | .negative => { status with negative := value }
  | .overflow => { status with overflow := value }
  | .brk => { status with brk := value }
  | .decimal => { status with decimal := value }
  | .interrupt => { status with interrupt := value }
  | .zero => { status with zero := value }
  | .carry => { status with carry := value }

@[simp] theorem get_set (status : Status) (flag other : Flag) (value : Bool) :
    (status.set flag value).get other = if other = flag then value else status.get other := by
  cases flag <;> cases other <;> rfl

theorem ext_get {s t : Status} (h : ∀ flag, s.get flag = t.get flag) : s = t := by
  have hn := h .negative
  have hv := h .overflow
  have hb := h .brk
  have hd := h .decimal
  have hi := h .interrupt
  have hz := h .zero
  have hc := h .carry
  cases s
  cases t
  simp_all [get]

/-! ## The byte form -/

/-- The status as a byte, with bit 5 set. -/
def pack (status : Status) : Byte :=
  BitVec.ofBoolListBE [status.negative, status.overflow, true, status.brk, status.decimal,
    status.interrupt, status.zero, status.carry]

/-- The status whose flags are the bits of a byte; bit 5 is dropped. -/
def unpack (b : Byte) : Status where
  negative := b.getLsbD 7
  overflow := b.getLsbD 6
  brk := b.getLsbD 4
  decimal := b.getLsbD 3
  interrupt := b.getLsbD 2
  zero := b.getLsbD 1
  carry := b.getLsbD 0

@[simp] theorem get_unpack (b : Byte) (flag : Flag) : (unpack b).get flag = b.getLsbD flag.bit := by
  cases flag <;> rfl

theorem getLsbD_pack (status : Status) (flag : Flag) :
    status.pack.getLsbD flag.bit = status.get flag := by
  rcases status with ⟨n, v, b, d, i, z, c⟩
  cases flag <;> revert n v b d i z c <;> decide

theorem getLsbD_pack_five (status : Status) : status.pack.getLsbD 5 = true := by
  rcases status with ⟨n, v, b, d, i, z, c⟩
  revert n v b d i z c
  decide

@[simp] theorem unpack_pack (status : Status) : unpack status.pack = status :=
  ext_get fun flag => by rw [get_unpack, getLsbD_pack]

/-! ## Flags of a result -/

/-- The status in which N is the top bit of a result and Z says that the result is zero. -/
def setNZ (status : Status) (result : Byte) : Status :=
  { status with negative := result.msb, zero := result == 0 }

end Status

end Micro6502
