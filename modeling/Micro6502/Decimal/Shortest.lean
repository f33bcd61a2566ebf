/-!
# Shortest decimal numerals

A binary floating-point number stands for all reals that round to it. Its decimal numeral is the
one with the fewest digits among those reals; of two with equally many digits it is the nearer, and
at equal distance the one whose last digit is even.

All arithmetic is exact: a positive number is taken apart into `m * 2 ^ q`, and the reals around it
are compared as quotients of natural numbers.

## Contents

- `Parts` and `Parts.ofFloat`, sign, significand and exponent
- `shortest`, the digits and the place of the decimal point
- `text`, the numeral
-/

namespace Micro6502.Decimal

/-! ## Taking numbers apart -/

/-- What the bits of a floating-point number say. -/
inductive Parts where
  | notANumber
  | infinite (negative : Bool)
  /-- The number `significand * 2 ^ exponent`. The gap below is half as wide as the gap above when
  the significand is the smallest of its binade. -/
  | finite (negative : Bool) (significand : Nat) (exponent : Int) (narrowBelow : Bool)
  deriving DecidableEq, Repr

def Parts.ofFloat (x : Float) : Parts :=
  let bits : Nat := x.toBits.toNat
  let negative := Nat.pow 2 63 ≤ bits
  let biased : Nat := bits / Nat.pow 2 52 % 2048
  let fraction : Nat := bits % Nat.pow 2 52
  if biased = 2047 then if fraction = 0 then infinite negative else notANumber
  else if biased = 0 then finite negative fraction (-1074) false
  else finite negative (Nat.pow 2 52 + fraction) (biased - 1075) (fraction = 0 && 1 < biased)

/-- The integer that a floating-point number is equal to, if there is one. -/
def Parts.integer? : Parts → Option Int
  | finite negative m q _ =>
    let magnitude : Option Nat :=
      if 0 ≤ q then some (m * Nat.pow 2 q.toNat)
      else if m % Nat.pow 2 (-q).toNat = 0 then some (m / Nat.pow 2 (-q).toNat)
      else none
    magnitude.map fun (n : Nat) => if negative then -n else n
  | _ => none

/-! ## Digits -/

/-- A quotient of natural numbers. -/
structure Quotient where
  num : Nat
  den : Nat

namespace Quotient

/-- A multiple of a power of two. -/
def ofBinary (m : Nat) (q : Int) : Quotient := ⟨m * Nat.pow 2 q.toNat, Nat.pow 2 (-q).toNat⟩

/-- The quotient divided by a power of ten. -/
def scaleDown (x : Quotient) (k : Int) : Quotient :=
  ⟨x.num * Nat.pow 10 (-k).toNat, x.den * Nat.pow 10 k.toNat⟩

def floor (x : Quotient) : Nat := x.num / x.den

end Quotient

/-- The numeral `digits * 10 ^ exponent`. -/
structure Numeral where
  digits : Nat
  exponent : Int
  deriving DecidableEq, Repr

/-- Looks for a multiple of `10 ^ k` among the reals that round to `m * 2 ^ q`. -/
def onGrid? (m : Nat) (q : Int) (narrowBelow : Bool) (k : Int) : Option Numeral :=
  -- In units of a quarter of the gap above.
  let value := (Quotient.ofBinary (4 * m) (q - 2)).scaleDown k
  let below := (Quotient.ofBinary (4 * m - if narrowBelow then 1 else 2) (q - 2)).scaleDown k
  let above := (Quotient.ofBinary (4 * m + 2) (q - 2)).scaleDown k
  let low := value.floor
  let closed := m % 2 == 0
  let reaches := below.num < low * below.den || (closed && below.num == low * below.den)
  let high := low + 1
  let covers := high * above.den < above.num || (closed && high * above.den == above.num)
  let fromLow := value.num - low * value.den
  let fromHigh := high * value.den - value.num
  let prefersLow := fromLow < fromHigh || (fromLow == fromHigh && low % 2 == 0)
  if reaches && (!covers || prefersLow) then some ⟨low, k⟩
  else if covers then some ⟨high, k⟩
  else none

/-- The number of decimal digits before the point; for a number below one, minus the number of
zeros behind the point. -/
def magnitude (x : Quotient) : Int :=
  let whole := x.floor
  if 0 < whole then (Nat.toDigits 10 whole).length
  else
    -- With `t` digits in the reciprocal the number lies between `10 ^ (-t)` and `10 ^ (1 - t)`.
    let t : Int := (Nat.toDigits 10 (x.den / x.num)).length
    if x.den ≤ x.num * Nat.pow 10 (t - 1).toNat then 2 - t else 1 - t

/-- The shortest numeral of `m * 2 ^ q`. Seventeen digits tell all numbers apart. -/
def shortest (m : Nat) (q : Int) (narrowBelow : Bool) : Numeral :=
  let places := magnitude (.ofBinary m q)
  let attempts := (List.range 17).map fun (n : Nat) => onGrid? m q narrowBelow (places - n - 1)
  (attempts.findSome? id).getD ⟨m, 0⟩

/-! ## Writing -/

/-- The digits without the zeros at their end. -/
def trimZeros (digits : List Char) : List Char := (digits.reverse.dropWhile (· == '0')).reverse

/-- The exponent behind a numeral: a sign and two digits at least. -/
def exponentText (e : Int) : List Char :=
  let digits := Nat.toDigits 10 e.natAbs
  let padded := if digits.length < 2 then '0' :: digits else digits
  (if e < 0 then '-' else '+') :: padded

/-- Digits with a decimal point behind the first `point` of them. Numbers from `10 ^ (-4)` up to
`10 ^ 16` are written with their point in place, all others with an exponent. -/
def place (digits : List Char) (point : Int) : List Char :=
  if -4 < point ∧ point ≤ 16 then
    if point ≤ 0 then '0' :: '.' :: List.replicate (-point).toNat '0' ++ digits
    else if digits.length ≤ point.toNat then
      digits ++ List.replicate (point.toNat - digits.length) '0' ++ ['.', '0']
    else digits.take point.toNat ++ '.' :: digits.drop point.toNat
  else
    let fraction := digits.drop 1
    digits.take 1 ++ (if fraction.isEmpty then [] else '.' :: fraction) ++
      'e' :: exponentText (point - 1)

def text (x : Float) : String :=
  match Parts.ofFloat x with
  | .notANumber => "nan"
  | .infinite negative => if negative then "-inf" else "inf"
  | .finite negative m q narrowBelow =>
    let body :=
      if m = 0 then ['0', '.', '0']
      else
        let numeral := shortest m q narrowBelow
        let digits := Nat.toDigits 10 numeral.digits
        place (trimZeros digits) (digits.length + numeral.exponent)
    String.ofList (if negative then '-' :: body else body)

end Micro6502.Decimal
