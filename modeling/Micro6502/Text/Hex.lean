import Micro6502.Word

/-!
# Hexadecimal numerals

Integers as hexadecimal text with a least width. The width counts every character, so the sign
of a negative number and the leading `0x` of the marked form take the place of padding zeros.

## Contents

- `digits`, the last `k` digits of a natural number, and `size`, how many it needs
- `padded`, capital digits: `0A`, `-1`, `-001`
- `marked`, small digits after `0x`: `0x000a`, `-0x001`
- `bytesOf?`, the bytes that a string of digit pairs spells
-/

namespace Micro6502.Hex

/-! ## Digits -/

/-- The digit of a number below sixteen, with capital letters. -/
def capitalDigit (n : Nat) : Char :=
  if n < 10 then Char.ofNat (48 + n) else Char.ofNat (55 + n)

/-- The digit of a number below sixteen, with small letters. -/
def smallDigit (n : Nat) : Char :=
  if n < 10 then Char.ofNat (48 + n) else Char.ofNat (87 + n)

/-- The last `k` hexadecimal digits of `n`, the most significant one first. -/
def digits (digit : Nat → Char) : Nat → Nat → List Char
  | 0, _ => []
  | k + 1, n => digits digit k (n / 16) ++ [digit (n % 16)]

/-- The number of hexadecimal digits that `n` needs; zero needs one. -/
def size (n : Nat) : Nat := n.log2 / 4 + 1

theorem length_digits (digit : Nat → Char) (k n : Nat) : (digits digit k n).length = k := by
  induction k generalizing n with
  | zero => rfl
  | succ k ih => simp [digits, ih]

/-! ## Numerals of a least width -/

/-- The minus sign of a negative number. -/
def sign (n : Int) : List Char := if n < 0 then ['-'] else []

/-- Capital digits, padded with zeros after the sign to `width` characters. -/
def padded (width : Nat) (n : Int) : String :=
  let lead := sign n
  String.ofList (lead ++ digits capitalDigit (max (width - lead.length) (size n.natAbs)) n.natAbs)

/-- Small digits after `0x`, padded with zeros to `width` characters. -/
def marked (width : Nat) (n : Int) : String :=
  let lead := sign n ++ ['0', 'x']
  String.ofList (lead ++ digits smallDigit (max (width - lead.length) (size n.natAbs)) n.natAbs)

/-- The two capital digits of a byte. -/
def ofByte (b : Byte) : String := padded 2 b.toNat

/-- The four capital digits of an address. -/
def ofAddress (a : Address) : String := padded 4 a.toNat

/-! ## Reading -/

/-- The value of a hexadecimal digit in either letter case. -/
def digitValue? (c : Char) : Option Nat :=
  if '0' ≤ c ∧ c ≤ '9' then some (c.toNat - 48)
  else if 'a' ≤ c ∧ c ≤ 'f' then some (c.toNat - 87)
  else if 'A' ≤ c ∧ c ≤ 'F' then some (c.toNat - 55)
  else none

/-- The bytes spelled by pairs of digits; nothing for an odd digit or a foreign character. -/
def bytesOf? : List Char → Option (List Byte)
  | [] => some []
  | [_] => none
  | high :: low :: rest => do
    let h ← digitValue? high
    let l ← digitValue? low
    let bytes ← bytesOf? rest
    return byte (16 * h + l) :: bytes

/-- The bytes as pairs of small digits. -/
def ofBytes (bytes : List Byte) : String :=
  String.ofList (bytes.flatMap fun b => digits smallDigit 2 b.toNat)

end Micro6502.Hex
