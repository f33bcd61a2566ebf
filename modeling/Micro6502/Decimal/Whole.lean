/-!
# Integers in decimal digits

Decimal digits are converted in quadratic time, so that an integer may have only so many of them,
whether it is read or written. Notations to a power of two are not limited.
-/

namespace Micro6502.Decimal

/-- The largest number of decimal digits that are converted. -/
def maxDigits : Nat := 4300

/-- The decimal digits of an integer behind its sign, if there are not too many. -/
def whole? (n : Int) : Option String :=
  if n.natAbs < Nat.pow 10 maxDigits then some (toString n) else none

/-- The report of an integer that has too many digits to be written. -/
def limitMessage : String :=
  "Exceeds the limit (" ++ toString maxDigits ++
    " digits) for integer string conversion; use sys.set_int_max_str_digits() " ++
    "to increase the limit"

end Micro6502.Decimal
