import Micro6502.Decimal.Nearest
import Micro6502.Text.Case
import Micro6502.Yaml.Flaw
import Micro6502.Yaml.Tag

/-!
# Numbers

The numbers that texts write. Underscores mean nothing, a zero in front is the mark of a base, and
parts between colons count sixty each. Texts are taken apart as code points, so that a part that is
no number is reported as it stands.

## Contents

- `integer` and `decimal`
- `truth`, the truth value that a text writes
-/

namespace Micro6502.Yaml

open Text (CodePoints)

/-! ## Parts of texts -/

def charsOf (t : CodePoints) : List Char := t.codes.map CodePoints.charOf

def behind (n : Nat) (t : CodePoints) : CodePoints := ⟨t.codes.drop n⟩

def unmarked (t : CodePoints) : CodePoints := ⟨t.codes.filter (· != '_'.toNat)⟩

def betweenColons (t : CodePoints) : List CodePoints := (cut ':'.toNat t.codes).map CodePoints.mk

/-- Whether a text has a minus sign, and what is behind its sign. A number is no empty text. -/
def signOf (t : CodePoints) : Reading (Bool × CodePoints) :=
  match charsOf t with
  | [] => .error .numberMissing
  | '-' :: _ => .ok (true, behind 1 t)
  | '+' :: _ => .ok (false, behind 1 t)
  | _ => .ok (false, t)

/-! ## Integers -/

/-- The integer that a text writes to a base. -/
def integerTo (base : Nat) (t : CodePoints) : Reading Int :=
  match Decimal.integerOf base (charsOf t) with
  | .ok n => .ok n
  | .error .invalid => .error (.notAnInteger base t)
  | .error (.tooManyDigits count) => .error (.tooManyDigits count)

/-- The integer of a text without its sign. -/
def magnitude (t : CodePoints) : Reading Int :=
  match charsOf t with
  | [] => .error .numberMissing
  | ['0'] => .ok 0
  | '0' :: 'b' :: _ => integerTo 2 (behind 2 t)
  | '0' :: 'x' :: _ => integerTo 16 (behind 2 t)
  | '0' :: _ => integerTo 8 t
  | _ => do
    let parts ← (betweenColons t).mapM (integerTo 10)
    return parts.foldl (fun n part => 60 * n + part) 0

def integer (t : CodePoints) : Reading Int := do
  let (isNegative, t) ← signOf (unmarked t)
  let n ← magnitude t
  return if isNegative then -n else n

/-! ## Numbers with a point -/

/-- The floating-point number that a text writes, without colons. -/
def decimalPart (t : CodePoints) : Reading Float :=
  match Decimal.floatOf? (charsOf t) with
  | some x => .ok x
  | none => .error (.notADecimal t)

/-- Parts between colons, the last one first, added up. Each weighs sixty times as much as the part
behind it, and no weight may be infinite. -/
def weighed (weight : Nat) (sum : Float) : List Float → Reading Float
  | [] => .ok sum
  | part :: rest =>
    let factor := Decimal.nearest weight 0
    if factor.isInf then .error .numberTooLarge
    else weighed (60 * weight) (sum + part * factor) rest

def decimal (t : CodePoints) : Reading Float := do
  let (isNegative, t) ← signOf (unmarked t.lower)
  let x ←
    if t == .ofString ".inf" then pure (1 / 0)
    else if t == .ofString ".nan" then return 0 / 0
    else if t.contains (.ofString ":") then do
      let parts ← (betweenColons t).mapM decimalPart
      weighed 1 0 parts.reverse
    else decimalPart t
  return if isNegative then -x else x

/-! ## Truth values -/

/-- The truth value that a text writes, in letters of either case. -/
def truth (t : CodePoints) : Reading Bool :=
  match truthValues.find? fun (word, _) => t.lower == .ofString word with
  | some (_, b) => .ok b
  | none => .error (.notATruthValue t.lower)

end Micro6502.Yaml
