/-!
# Classes of characters as ranges of code points

A class of characters is a list of closed ranges in ascending order. Runs add a stride and a shift,
which is how the letter case maps of the character standard are written down.

## Contents

- `Ranges` and `Ranges.contains`
- `Run` and `shiftBy`
-/

namespace Micro6502.Text

/-! ## Ranges -/

/-- Closed ranges of code points, in ascending order. -/
abbrev Ranges := List (Nat × Nat)

/-- Whether one of the ranges holds the code point. -/
def Ranges.contains (ranges : Ranges) (code : Nat) : Bool :=
  ranges.any fun range => range.1 ≤ code && code ≤ range.2

/-! ## Runs -/

/-- Code points from `first` to `last`, `stride` apart, that all move by the same `shift`. -/
structure Run where
  first : Nat
  last : Nat
  stride : Nat
  shift : Int

def Run.contains (run : Run) (code : Nat) : Bool :=
  run.first ≤ code && code ≤ run.last && (code - run.first) % run.stride == 0

/-- The character moved by the shift of the run that holds it, itself if there is none. -/
def shiftBy (runs : List Run) (c : Char) : Char :=
  match runs.find? (·.contains c.toNat) with
  | some run => Char.ofNat (c.toNat + run.shift).toNat
  | none => c

end Micro6502.Text
