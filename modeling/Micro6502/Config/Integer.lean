import Micro6502.Decimal.Numeral

/-!
# Notations for integers

An integer in a configuration is written in decimal, or in hexadecimal after `0x` or after a dollar
sign. Blanks around it are dropped.
-/

namespace Micro6502.Config

open Decimal (integerOf)

/-- The integer that a text writes in one of the three notations. -/
def integer? (text : String) : Option Int :=
  let read :=
    match Text.strip text.toList with
    | '0' :: 'x' :: rest => integerOf 16 ('0' :: 'x' :: rest)
    | '0' :: 'X' :: rest => integerOf 16 ('0' :: 'X' :: rest)
    | '$' :: rest => integerOf 16 rest
    | stripped => integerOf 10 stripped
  read.toOption

end Micro6502.Config
