import Micro6502.Bus.Mapped
import Micro6502.Config.System
import Micro6502.Processor.Mos

/-!
# Building systems

## Contents

- `variant?`, the architectures that can be built
- `InitialState.registers?` and `InitialState.start?`, the start of a processor
- `build`, a processor on its bus, ready to run
-/

namespace Micro6502.Config

open Text (CodePoints)

/-! ## Architectures -/

/-- The variant that an architecture is built with. -/
def variant? (architecture : CodePoints) : Option Variant :=
  if architecture == "MOS6502" then some .nmos
  else if architecture == "2A03" then some .ricoh2A03
  else none

/-! ## Starting -/

/-- The registers that can be set by name. -/
def register? (name : CodePoints) : Option Register :=
  if name == "a" then some .a
  else if name == "x" then some .x
  else if name == "y" then some .y
  else if name == "p" then some .p
  else none

/-- Sets registers by name, one after the other. -/
def assignAll (r : Registers) : List (CodePoints × Int) → Except Error Registers
  | [] => .ok r
  | (name, value) :: rest =>
    match register? name with
    | some register => assignAll (r.assign register value) rest
    | none => .error (.registerUnknown name)

namespace InitialState

/-- The register contents that the description asks for. -/
def registers? (s : InitialState) : Except Error Registers :=
  assignAll (Registers.startingAt s.pc s.sp) s.registers

/-- The call that starts a processor: a reset, or the described contents. -/
def start? [HostBus β] (s : InitialState) : Except Error (Call (Cpu v β) Unit) :=
  if s.useResetVector then .ok Cpu.reset
  else s.registers?.map Processor.restore

end InitialState

/-! ## Building -/

/-- A processor on a bus of regions. -/
structure Built where
  variant : Variant
  cpu : Cpu variant Bus

/-- The kind of memory for a type of region. -/
def memoryKind (type : CodePoints) : MemoryKind := if type == "ROM" then .rom else .ram

/-- The notice of a region whose type means nothing. -/
def regionNotices (region : RegionSpec) : List Notice :=
  if region.type == "ROM" || region.type == "RAM" then []
  else [.unknownDeviceType region.type region.first region.last]

/-- Puts the memory of a region on the bus. -/
def addRegion (region : RegionSpec) : Call Bus Unit := fun bus =>
  match Device.makeMemory? (memoryKind region.type) region.size region.fill with
  | .error fault => ⟨.error fault, bus, regionNotices region⟩
  | .ok device =>
    (Bus.register region.first region.last (.fresh device) bus).after (regionNotices region)

def buildBus (system : SystemSpec) : Except Error Bus × List Notice :=
  match Bus.make? system.openBus with
  | .error fault => (.error (.refused fault), [])
  | .ok bus =>
    let outcome := Call.forEach system.regions addRegion bus
    match outcome.result with
    | .error fault => (.error (.refused fault), outcome.notices)
    | .ok () => (.ok outcome.machine, outcome.notices)

/-- The registers of a processor that waits for its reset, or those that are described. -/
def powerUp (s : InitialState) : Except Error Registers :=
  if s.useResetVector then .ok Registers.initial else s.registers?

/-- Builds a system. One that starts through the reset vector still waits for its reset, so that
the vector can be loaded first. -/
def build (system : SystemSpec) : Except Error Built × List Notice :=
  match variant? system.architecture with
  | none => (.error (.architectureUnsupported system.architecture), [])
  | some variant =>
    -- Regions are built before the registers are looked at, so their faults come first.
    match buildBus system with
    | (.error e, told) => (.error e, told)
    | (.ok bus, told) =>
      match powerUp system.initialState with
      | .error e => (.error e, told)
      | .ok registers =>
        (.ok ⟨variant, { Cpu.new variant bus with state := registers }⟩,
          told ++ [.systemBuilt system.architecture system.regions.length])

end Micro6502.Config
