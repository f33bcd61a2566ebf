import Micro6502.Config.Value
import Micro6502.Fault
import Micro6502.Yaml.Flaw

/-!
# Descriptions of systems

What a system is made of: the kind of processor, the regions of its bus, and the state it starts in.

## Contents

- `SystemSpec`, `RegionSpec` and `InitialState`
- `Error`, why a description is refused, with `Error.message?`
-/

namespace Micro6502.Config

open Text (CodePoints)

/-! ## Descriptions -/

/-- A region of the bus. -/
structure RegionSpec where
  first : Int
  last : Int
  /-- `ROM`, or else RAM. -/
  type : CodePoints := "RAM"
  /-- A remark for the reader. -/
  label : Value := .scalar (.ofString "")
  /-- What all cells hold at first. -/
  fill : Int := 0

def RegionSpec.size (region : RegionSpec) : Int := region.last - region.first + 1

/-- The state that the processor starts in. -/
structure InitialState where
  /-- Whether the start goes through the reset vector. The rest then means nothing. -/
  useResetVector : Bool := true
  pc : Int := 0
  sp : Int := 0xFD
  /-- Other registers by name. -/
  registers : List (CodePoints × Int) := []

/-- A whole system. -/
structure SystemSpec where
  architecture : CodePoints := "MOS6502"
  regions : List RegionSpec := []
  openBus : Option Int := none
  initialState : InitialState := {}

/-! ## Errors -/

/-- Why a description is refused. -/
inductive Error where
  /-- The text of the description has a flaw. -/
  | unreadable (flaw : Yaml.Flaw)
  | rootNotMapping
  /-- A region, given as text, does not mention its ends. -/
  | endsMissing (region : CodePoints)
  /-- A value, given as text, is no integer. -/
  | notAnInteger (value : CodePoints)
  /-- An integer that has to be written as text has too many digits. -/
  | tooManyDigits
  | rangeInvalid (first last : Int)
  /-- The list of regions cannot be walked, or a region has no fields. -/
  | mapMisshapen
  /-- The document, the initial state or its registers are no mapping. -/
  | stateMisshapen
  | architectureUnsupported (name : CodePoints)
  | registerUnknown (name : CodePoints)
  /-- A device or the bus refused its part. -/
  | refused (fault : Fault)

/-- The report of an error. A document of the wrong shape has none. -/
def Error.message? : Error → Option CodePoints
  | unreadable flaw => flaw.message?
  | rootNotMapping => some "Configuration root must be a mapping."
  | endsMissing region => some ("Memory region requires 'start' and 'end': " ++ region)
  | notAnInteger value => some ("Invalid integer format: " ++ value)
  | tooManyDigits => some Decimal.limitMessage
  | rangeInvalid first last =>
    some ("Invalid memory region range: " ++ Hex.marked 6 first ++ "-" ++ Hex.marked 6 last)
  | mapMisshapen | stateMisshapen => none
  | architectureUnsupported name => some ("Unsupported architecture: " ++ name)
  | registerUnknown name => some ("Unknown register in initial_state: " ++ name)
  | refused fault => some fault.message

end Micro6502.Config
