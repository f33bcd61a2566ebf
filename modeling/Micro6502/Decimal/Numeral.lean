import Micro6502.Decimal.Whole
import Micro6502.Text.Blank
import Micro6502.Text.Digit
import Micro6502.Text.Hex

/-!
# Numerals for integers

A numeral is a sign and digits to a base. Blanks may surround it, single underscores may stand
between its digits, and the decimal digits of all scripts count.

## Contents

- `Misreading`, why a text is no numeral
- `digitsOf` and `magnitudeOf`, numerals without sign
- `integerOf`, a signed numeral to a base
-/

namespace Micro6502.Decimal

/-! ## Digits -/

/-- Why a text is no numeral. -/
inductive Misreading where
  | invalid
  /-- There are more decimal digits than are converted. -/
  | tooManyDigits (count : Nat)
  deriving DecidableEq, Repr

/-- The characters that may surround a numeral: blanks other than the four separators. -/
def surroundsNumeral (c : Char) : Bool :=
  if c.toNat < 128 then c == ' ' || ('\t' ≤ c && c ≤ '\r') else Text.isBlank c

/-- The value of a digit to a base. Letters are digits of base sixteen. -/
def digit? (base : Nat) (c : Char) : Option Nat :=
  match Text.decimalDigit? c with
  | some n => if n < base then some n else none
  | none => if base = 16 then Hex.digitValue? c else none

/-- Reads on after the digits that make `n`. An underscore needs a digit behind it. -/
def digitsAfter? (base : Nat) (n : Nat) : List Char → Option Nat
  | [] => some n
  | '_' :: c :: rest =>
    match digit? base c with
    | some d => digitsAfter? base (n * base + d) rest
    | none => none
  | c :: rest =>
    match digit? base c with
    | some d => digitsAfter? base (n * base + d) rest
    | none => none

/-- The number written with digits to a base. There is one digit at least. -/
def digitsOf (base : Nat) (text : List Char) : Except Misreading Nat :=
  let read :=
    match text with
    | [] => none
    | c :: rest => (digit? base c).bind fun d => digitsAfter? base d rest
  match read with
  | some n => .ok n
  | none => .error .invalid

/-! ## Numerals -/

/-- The letters that can mark a numeral to a base, behind a zero. -/
def baseMarks : Nat → List Char
  | 2 => ['b', 'B']
  | 8 => ['o', 'O']
  | 16 => ['x', 'X']
  | _ => []

/-- The text without the mark of its base, behind which an underscore may stand. -/
def dropMark (base : Nat) (text : List Char) : List Char :=
  match text with
  | zero :: letter :: rest =>
    if Text.decimalDigit? zero == some 0 && (baseMarks base).contains letter then
      match rest with
      | '_' :: rest => rest
      | _ => rest
    else text
  | _ => text

/-- A numeral without sign. Only decimal digits are limited in number, and they are counted before
anything behind them is looked at. -/
def magnitudeOf (base : Nat) (text : List Char) : Except Misreading Nat :=
  let digits := text.takeWhile fun c => (digit? base c).isSome || c == '_'
  let count := digits.countP (· != '_')
  if base = 10 ∧ maxDigits < count ∧ (digitsOf base digits).isOk then .error (.tooManyDigits count)
  else digitsOf base (dropMark base text)

/-- The text without what may surround a numeral. -/
def trimNumeral (text : List Char) : List Char :=
  ((text.dropWhile surroundsNumeral).reverse.dropWhile surroundsNumeral).reverse

/-- A numeral with an optional sign. -/
def integerOf (base : Nat) (text : List Char) : Except Misreading Int :=
  match trimNumeral text with
  | '-' :: rest => (magnitudeOf base rest).map fun (n : Nat) => -n
  | '+' :: rest => (magnitudeOf base rest).map Int.ofNat
  | rest => (magnitudeOf base rest).map Int.ofNat

end Micro6502.Decimal
