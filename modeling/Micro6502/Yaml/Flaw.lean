import Micro6502.Decimal.Whole
import Micro6502.Text.Quoted

/-!
# Flaws of texts

Why a text has no value, and readings that can end in a flaw.

## Contents

- `Flaw`, with `Flaw.message?`
- `Reading`, with `refuse`
-/

namespace Micro6502.Yaml

open Text (CodePoints)

/-- Why a text has no value. -/
inductive Flaw where
  /-- The text is no document, or the document has parts that make no value. -/
  | malformed
  /-- An escape gives a number that is no code point. -/
  | notACodePoint
  /-- A number is too large for what it is needed for. -/
  | numberTooLarge
  /-- A text that has to be a number is empty. -/
  | numberMissing
  /-- A text is no integer to the base. -/
  | notAnInteger (base : Nat) (text : CodePoints)
  /-- An integer has too many decimal digits. -/
  | tooManyDigits (count : Nat)
  /-- A text is no number with a point. -/
  | notADecimal (text : CodePoints)
  /-- A text is no truth value. -/
  | notATruthValue (text : CodePoints)
  deriving DecidableEq, Repr

namespace Flaw

/-- The report of a flaw, if it has one. A long text without an integer is cut off. -/
def message? : Flaw → Option CodePoints
  | malformed => some "Invalid YAML"
  | notACodePoint => some "chr() arg not in range(0x110000)"
  | numberTooLarge => none
  | numberMissing => some "string index out of range"
  | notAnInteger base text =>
    some ("invalid literal for int() with base " ++ toString base ++ ": " ++
      String.ofList ((Text.quoted text).toList.take 200))
  | tooManyDigits count =>
    some ("Exceeds the limit (" ++ toString Decimal.maxDigits ++
      " digits) for integer string conversion: value has " ++ toString count ++
      " digits; use sys.set_int_max_str_digits() to increase the limit")
  | notADecimal text => some ("could not convert string to float: " ++ Text.quoted text)
  | notATruthValue text => some text

end Flaw

/-- What reading gives, or the flaw that ends it. -/
abbrev Reading (α : Type) := Except Flaw α

/-- The end of a reading at a text that is no document. -/
def refuse : Reading α := .error .malformed

/-- The reading that is refused where there is nothing. -/
def orRefuse : Option α → Reading α
  | some a => .ok a
  | none => refuse

end Micro6502.Yaml
