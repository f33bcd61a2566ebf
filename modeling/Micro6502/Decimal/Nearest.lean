import Micro6502.Decimal.Numeral

/-!
# Reading decimal numerals

The floating-point number that a decimal numeral stands for: the nearest one, at equal distance the
one with the even significand.

## Contents

- `nearest`, the floating-point number nearest to a decimal number
- `floatOf?`, the floating-point number that a text writes
-/

namespace Micro6502.Decimal

/-- The floating-point number nearest to `m * 10 ^ e`. The numbers that are certainly too small or
too large are told by their number of places, without computing the power. -/
def nearest (m : Nat) (e : Int) : Float :=
  let places : Int := (Nat.toDigits 10 m).length + e
  if m = 0 || places < -400 then 0
  else if 400 < places then 1 / 0
  else Float.ofScientific m (e < 0) e.natAbs

/-! ## Texts -/

/-- The digits at the start of a text, and what is behind them. -/
def takeDigits (text : List Char) : List Nat × List Char :=
  let digits := text.takeWhile fun c => (Text.decimalDigit? c).isSome
  (digits.filterMap Text.decimalDigit?, text.drop digits.length)

def ofDigits (digits : List Nat) : Nat := digits.foldl (fun n d => 10 * n + d) 0

/-- A text without its sign, and whether it was a minus sign. -/
def takeSign : List Char → Bool × List Char
  | '-' :: rest => (true, rest)
  | '+' :: rest => (false, rest)
  | text => (false, text)

/-- The exponent at the end of a numeral, with a sign if need be. There can be none. -/
def exponentOf? : List Char → Option Int
  | [] => some 0
  | e :: rest =>
    let (isNegative, rest) := takeSign rest
    let (digits, rest) := takeDigits rest
    if (e == 'e' || e == 'E') && !digits.isEmpty && rest.isEmpty then
      some (if isNegative then -(ofDigits digits : Int) else ofDigits digits)
    else none

/-- The floating-point number of a numeral without sign: digits with at most one point among them,
and an exponent. -/
def magnitudeOf? (text : List Char) : Option Float := do
  let (whole, rest) := takeDigits text
  let (fraction, rest) :=
    match rest with
    | '.' :: rest => takeDigits rest
    | _ => ([], rest)
  if whole.isEmpty && fraction.isEmpty then none
  else
    let exponent ← exponentOf? rest
    return nearest (ofDigits (whole ++ fraction)) (exponent - fraction.length)

/-- The floating-point number that a text writes: a numeral, or the name of an infinite number or
of no number. Blanks around it are dropped. -/
def floatOf? (text : List Char) : Option Float :=
  let (isNegative, text) := takeSign (trimNumeral text)
  let magnitude :=
    match (String.ofList text).toLower with
    | "inf" | "infinity" => some (1 / 0)
    | "nan" => some (0 / 0)
    | _ => magnitudeOf? text
  magnitude.map fun x => if isNegative then -x else x

end Micro6502.Decimal
