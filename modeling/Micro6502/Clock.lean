/-!
# Clock

How many cycles an instruction takes, and the count of all cycles and instructions so far.
-/

namespace Micro6502

/-- Cycles and instructions since power-up. -/
structure Clock where
  total : Int := 0
  instructions : Nat := 0
  deriving DecidableEq, Repr

namespace Clock

/-- Adds cycles, which may be those of an instruction or of something else. -/
def charge (clock : Clock) (cycles : Int) (isInstruction : Bool) : Clock :=
  { total := clock.total + cycles
    instructions := clock.instructions + if isInstruction then 1 else 0 }

/-- The cycles of an instruction: its own, those of its outcome, and one more if it pays for
leaving the page and did leave it. -/
def instructionCycles (base : Int) (pageCrossed hasPagePenalty : Bool) (extra : Int) : Int :=
  base + extra + if pageCrossed && hasPagePenalty then 1 else 0

end Clock

end Micro6502
