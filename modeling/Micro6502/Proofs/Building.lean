import Micro6502.Config.Build
import Micro6502.Proofs.Reading
import Micro6502.Proofs.Refinement

/-!
# What is built from a description

Reading, the memories, the bus and the builder each check a part of a description. Together they
refuse a description that has been read for four reasons only: reading has seen to it that the ends
of all regions are on the bus and in order, so that no memory fails to fit its region. What is built
otherwise is the machine that is described, whose memory at each address is that of the first region
in the list that holds it.

## Contents

- `SystemSpec.flaw?`, the first reason not to build what has been read
- `SystemSpec.cells`, the bus as a map of cells, and `buildBus_eq`
- `InitialState.contents`, the registers at first, and `powerUp_eq`
- `Built.Realises`, with `build_eq` and `build_of_parse`
-/

namespace Micro6502.Config

open Text (CodePoints)

/-! ## Flaws -/

/-- The first part of the bus that is refused: the open bus, or else the first region whose cells
cannot hold what they should. -/
def SystemSpec.busFlaw? (system : SystemSpec) : Option Fault :=
  ((system.openBus.filter fun n => !isByte n).map .openBusTooWide).or
    (((system.regions.map RegionSpec.fill).find? fun n => !isByte n).map .fillTooWide)

/-- The names of the registers that can be set. -/
def registerNames : List CodePoints := ["a", "x", "y", "p"]

/-- The names of the architectures that can be built. -/
def architectureNames : List CodePoints := ["MOS6502", "2A03"]

/-- The first name in the list that no register has. The list counts only if the start does not go
through the reset vector. -/
def InitialState.flaw? (s : InitialState) : Option CodePoints :=
  if s.useResetVector then none
  else (s.registers.map Prod.fst).find? fun name => name ∉ registerNames

/-- Why a description that has been read cannot be built, if it cannot. -/
def SystemSpec.flaw? (system : SystemSpec) : Option Error :=
  if system.architecture ∉ architectureNames then
    some (.architectureUnsupported system.architecture)
  else
    (system.busFlaw?.map .refused).or (system.initialState.flaw?.map .registerUnknown)

/-! ## The bus -/

/-- The cell that a region has at an address. -/
def RegionSpec.cell? (region : RegionSpec) (a : Int) : Option Cell :=
  if region.first ≤ a ∧ a ≤ region.last then some ⟨memoryKind region.type, byte region.fill⟩
  else none

/-- The bus of a system as a map of cells. -/
def SystemSpec.cells (system : SystemSpec) : CellBus where
  openBus := system.openBus.map byte
  cell? a := system.regions.findSome? (·.cell? a)
  -- Each region is built with a memory of its own.
  same a b := decide (a = b)
  recent := []

/-- A bus of memories, and what it is once regions have been put behind those that are there. -/
structure Extends (regions : List RegionSpec) (bus after : Bus) : Prop where
  allMemory : after.AllMemory
  cells : after.cells =
    { bus.cells with cell? := fun a => (bus.cells.cell? a).or (regions.findSome? (·.cell? a)) }

theorem Extends.trans {front behind : List RegionSpec} {bus next after : Bus}
    (h : Extends front bus next) (h' : Extends behind next after) :
    Extends (front ++ behind) bus after where
  allMemory := h'.allMemory
  cells := by
    rw [h'.cells, h.cells]
    simp only [List.findSome?_append, Option.or_assoc]

/-- The size of a memory is that of its region, which holds one address at least. -/
theorem makeMemory_eq {region : RegionSpec} (h : region.InOrder) (kind : MemoryKind) :
    Device.makeMemory? kind region.size region.fill =
      if isByte region.fill then
        .ok (.memory kind ⟨region.size.toNat, .uniform (byte region.fill)⟩)
      else .error (.fillTooWide region.fill) := by
  have hsize : ¬ region.size ≤ 0 := by
    obtain ⟨-, hends, -⟩ := h
    simp only [RegionSpec.size]
    omega
  simp only [Device.makeMemory?, Memory.make?, hsize, if_false]
  -- The size is positive, so the initial value decides.
  cases isByte region.fill <;> rfl

/-- A region that has been read can only be refused for what its cells should hold. -/
theorem addRegion_eq {region : RegionSpec} (h : region.InOrder) {bus : Bus}
    (hmemory : bus.AllMemory) :
    if isByte region.fill then
      ∃ after, addRegion region bus = ⟨.ok (), after, regionNotices region⟩ ∧
        Extends [region] bus after
    else
      addRegion region bus = ⟨.error (.fillTooWide region.fill), bus, regionNotices region⟩ := by
  unfold addRegion
  rw [makeMemory_eq h]
  split
  · obtain ⟨after, hregister, hall, hcells⟩ := Bus.register_fresh (memoryKind region.type)
      (byte region.fill) hmemory h (show region.size = _ from rfl)
    refine ⟨after, by simp [hregister, Outcome.after], hall, hcells.trans ?_⟩
    simp [RegionSpec.cell?]
  · rfl

/-- The regions of a list are put behind each other, up to the first that is refused. -/
theorem addRegions_eq {regions : List RegionSpec} (h : ∀ region ∈ regions, region.InOrder)
    {bus : Bus} (hmemory : bus.AllMemory) :
    match (regions.map RegionSpec.fill).find? fun n => !isByte n with
    | some fill => (Call.forEach regions addRegion bus).result = .error (.fillTooWide fill)
    | none => ∃ after told, Call.forEach regions addRegion bus = ⟨.ok (), after, told⟩ ∧
        Extends regions bus after := by
  -- For any bus of memories, as the regions before the next one have left one.
  induction regions generalizing bus with
  | nil => exact ⟨bus, [], rfl, hmemory, by simp⟩
  | cons region rest ih =>
    obtain ⟨hregion, hrest⟩ := List.forall_mem_cons.mp h
    have hadd := addRegion_eq hregion hmemory
    rw [List.map_cons, List.find?_cons]
    unfold Call.forEach Call.bind
    cases hfill : isByte region.fill with
    | false =>
      rw [hfill, if_neg Bool.false_ne_true] at hadd
      rw [hadd]
      rfl
    | true =>
      rw [hfill, if_pos rfl] at hadd
      obtain ⟨next, hadd, hnext⟩ := hadd
      have ih := ih hrest hnext.allMemory
      rw [hadd]
      simp only [Bool.not_true]
      split at ih
      · next fill hflaw =>
        simp only [hflaw]
        exact ih
      · next hflaw =>
        obtain ⟨after, told, hrun, hafter⟩ := ih
        simp only [hflaw]
        exact ⟨after, regionNotices region ++ told, by rw [hrun]; rfl, hnext.trans hafter⟩

/-- An open bus can only be refused for what it should read as. -/
theorem makeBus_eq (openBus : Option Int) :
    match openBus.filter fun n => !isByte n with
    | some value => Bus.make? openBus = .error (.openBusTooWide value)
    | none => Bus.make? openBus = .ok (.empty (openBus.map byte)) := by
  cases openBus with
  | none => rfl
  | some value => cases hvalue : isByte value <;> simp [Bus.make?, hvalue, Option.filter]

theorem buildBus_eq {system : SystemSpec} (h : system.Proper) :
    match system.busFlaw? with
    | some fault => (buildBus system).1 = .error (.refused fault)
    | none => ∃ bus told, buildBus system = (.ok bus, told) ∧ bus.AllMemory ∧
        bus.cells = system.cells := by
  have hmake := makeBus_eq system.openBus
  unfold SystemSpec.busFlaw? buildBus
  cases hopen : system.openBus.filter fun n => !isByte n with
  | some value =>
    rw [hopen] at hmake
    simp [hmake]
  | none =>
    rw [hopen] at hmake
    have hadd := addRegions_eq h.inOrder
      (show Bus.AllMemory (.empty (system.openBus.map byte)) from nofun)
    simp only [hmake, Option.map_none, Option.none_or]
    split at hadd
    · next fill hflaw => simp [hflaw, hadd]
    · next hflaw =>
      obtain ⟨bus, told, hrun, hbus⟩ := hadd
      simp only [hflaw, hrun, Option.map_none]
      refine ⟨bus, told, rfl, hbus.allMemory, hbus.cells.trans ?_⟩
      refine CellBus.ext rfl (funext fun a => Option.none_or) ?_ rfl
      -- There is no region yet, so no address shares a cell.
      have hapart : (Bus.empty (system.openBus.map byte)).Apart := Bus.apart_of_nodup List.nodup_nil
      exact funext fun a => funext (hapart.same_eq a)

/-! ## The registers -/

/-- The registers with new contents for those in a list, reduced to the width of the register. -/
def withContents (r : Registers) (registers : List (CodePoints × Int)) : Registers :=
  { r with
    a := ((registers.lookup (.ofString "a")).map byte).getD r.a
    x := ((registers.lookup (.ofString "x")).map byte).getD r.x
    y := ((registers.lookup (.ofString "y")).map byte).getD r.y
    status := ((registers.lookup (.ofString "p")).map fun n => .unpack (byte n)).getD r.status }

/-- The registers at first: those of a processor that waits for its reset, or else what is given. -/
def InitialState.contents (s : InitialState) : Registers :=
  if s.useResetVector then .initial
  else withContents (.startingAt s.pc s.sp) s.registers

theorem register?_eq_some {name : CodePoints} {register : Register} :
    register? name = some register ↔
      name = "a" ∧ register = .a ∨ name = "x" ∧ register = .x ∨ name = "y" ∧ register = .y ∨
        name = "p" ∧ register = .p := by
  grind [register?]

/-- A register that has been assigned keeps its contents if it is not named again. -/
theorem withContents_cons {registers : List (CodePoints × Int)} {name : CodePoints}
    {register : Register} (hregister : register? name = some register)
    (hname : name ∉ registers.map Prod.fst) (r : Registers) (value : Int) :
    withContents (r.assign register value) registers =
      withContents r ((name, value) :: registers) := by
  have hnone : registers.lookup name = none := by
    rw [List.lookup_eq_none_iff]
    grind
  -- The register has one of four names, and is assigned where the contents are looked up.
  rcases register?_eq_some.mp hregister with ⟨rfl, rfl⟩ | ⟨rfl, rfl⟩ | ⟨rfl, rfl⟩ | ⟨rfl, rfl⟩ <;>
    simp [withContents, Registers.assign, List.lookup_cons, hnone]

/-- The registers are assigned in order, up to the first name that none of them has. -/
theorem assignAll_eq {registers : List (CodePoints × Int)} (h : NamesDiffer registers)
    (r : Registers) :
    match (registers.map Prod.fst).find? fun name => name ∉ registerNames with
    | some name => assignAll r registers = .error (.registerUnknown name)
    | none => assignAll r registers = .ok (withContents r registers) := by
  induction registers generalizing r with
  | nil => rfl
  | cons entry rest ih =>
    obtain ⟨name, value⟩ := entry
    obtain ⟨hname, hrest⟩ := List.nodup_cons.mp h
    unfold assignAll
    rw [List.map_cons, List.find?_cons]
    cases hregister : register? name with
    | none =>
      have hunknown : name ∉ registerNames := by grind [register?, registerNames]
      simp [hunknown]
    | some register =>
      have hknown : name ∈ registerNames := by grind [register?, registerNames]
      -- The name does not come again, so what is assigned now stays.
      rw [← withContents_cons hregister hname]
      simpa [hknown] using ih hrest (r.assign register value)

theorem powerUp_eq {s : InitialState} (h : NamesDiffer s.registers) :
    match s.flaw? with
    | some name => powerUp s = .error (.registerUnknown name)
    | none => powerUp s = .ok s.contents := by
  unfold InitialState.flaw? powerUp InitialState.contents InitialState.registers?
  cases s.useResetVector with
  | true => rfl
  -- Without the reset vector the list is assigned on top of the two words.
  | false => exact assignAll_eq h _

/-! ## Systems -/

/-- The first region in the list that holds an address. -/
def SystemSpec.regionAt? (system : SystemSpec) (a : Int) : Option RegionSpec :=
  system.regions.find? fun region => region.first ≤ a ∧ a ≤ region.last

/-- What is found at an address at first. -/
def SystemSpec.found (system : SystemSpec) (a : Int) : Except Fault Int :=
  match system.regionAt? a, system.openBus with
  | some region, _ => .ok region.fill
  | none, some value => .ok value
  | none, none => .error (.unmapped a)

/-- What is seen of a bus at an address, as an integer. -/
def seen (bus : Bus) (a : Int) : Except Fault Int := (bus.peek a).map fun b => (b.toNat : Int)

/-- The machine that has been built is the one that is described. -/
structure Built.Realises (built : Built) (system : SystemSpec) : Prop where
  peek (a : Int) : seen built.cpu.bus a = system.found a
  /-- A byte that is written stays, unless the first region that holds the address is ROM. -/
  write {a : Int} {region : RegionSpec} {data : Int} (hregion : system.regionAt? a = some region)
    (hdata : isByte data = true) :
    ∃ after, Bus.write a data built.cpu.bus = ⟨.ok (), after, []⟩ ∧
      seen after a = .ok (if region.type = "ROM" then region.fill else data) ∧
      (after.peek a ≠ built.cpu.bus.peek a ↔ region.type ≠ "ROM" ∧ data ≠ region.fill) ∧
      ∀ b, b ≠ a → after.peek b = built.cpu.bus.peek b
  activity : built.cpu.bus.activity = []
  clock : built.cpu.clock = ⟨0, 0⟩
  last : built.cpu.last = none
  hasDecimal : built.variant.hasDecimal = true ↔ system.architecture = "MOS6502"
  state : built.cpu.state = system.initialState.contents

theorem cells_cell? (system : SystemSpec) (a : Int) :
    system.cells.cell? a =
      (system.regionAt? a).map fun region => ⟨memoryKind region.type, byte region.fill⟩ := by
  unfold SystemSpec.cells SystemSpec.regionAt?
  dsimp only
  induction system.regions with
  | nil => rfl
  | cons region rest ih =>
    rw [List.findSome?_cons, List.find?_cons]
    -- The first region that holds the address decides, on both sides.
    by_cases hholds : region.first ≤ a ∧ a ≤ region.last
    · rw [RegionSpec.cell?, if_pos hholds, decide_eq_true hholds]
      rfl
    · rw [RegionSpec.cell?, if_neg hholds, decide_eq_false hholds]
      exact ih

/-- A description without a flaw of the bus has bytes for all contents. -/
theorem isByte_of_busFlaw? {system : SystemSpec} (h : system.busFlaw? = none) :
    (∀ value, system.openBus = some value → isByte value = true) ∧
      ∀ region ∈ system.regions, isByte region.fill = true := by
  simpa [SystemSpec.busFlaw?, Option.or_eq_none_iff, Option.filter_eq_none_iff] using h

section Memory

variable {system : SystemSpec} {bus : Bus} (hmemory : bus.AllMemory)
  (hcells : bus.cells = system.cells) (hflaw : system.busFlaw? = none)
include hmemory hcells hflaw

theorem seen_eq (a : Int) : seen bus a = system.found a := by
  obtain ⟨hopen, hfill⟩ := isByte_of_busFlaw? hflaw
  unfold seen SystemSpec.found
  rw [Bus.cells_peek hmemory, hcells, CellBus.peek, cells_cell?]
  cases hregion : system.regionAt? a with
  | some region =>
    have hbyte := hfill region (List.mem_of_find?_eq_some hregion)
    exact congrArg Except.ok (toNat_byte_of_isByte hbyte)
  | none =>
    cases hvalue : system.openBus with
    | none => simp [SystemSpec.cells, hvalue, Except.map]
    | some value =>
      simp [SystemSpec.cells, hvalue, Except.map, toNat_byte_of_isByte (hopen value hvalue)]

theorem write_eq {a : Int} {region : RegionSpec} {data : Int}
    (hregion : system.regionAt? a = some region) (hdata : isByte data = true) :
    ∃ after, Bus.write a data bus = ⟨.ok (), after, []⟩ ∧
      seen after a = .ok (if region.type = "ROM" then region.fill else data) ∧
      (after.peek a ≠ bus.peek a ↔ region.type ≠ "ROM" ∧ data ≠ region.fill) ∧
      ∀ b, b ≠ a → after.peek b = bus.peek b := by
  have hfill := (isByte_of_busFlaw? hflaw).2 region (List.mem_of_find?_eq_some hregion)
  have hcell : bus.cells.cell? a = some ⟨memoryKind region.type, byte region.fill⟩ := by
    rw [hcells, cells_cell?, hregion]
    rfl
  have hkind : memoryKind region.type = .rom ↔ region.type = "ROM" := by simp [memoryKind]
  have hbefore : bus.peek a = .ok (byte region.fill) := by
    rw [Bus.cells_peek hmemory, CellBus.peek, hcell]
  -- Seen as a map of cells, the bus is written in one cell.
  obtain ⟨view, hview, hat, helse⟩ := CellBus.write_byte bus.coherent_cells hcell hdata
  obtain ⟨hwrite, hafter⟩ := Bus.cells_write hmemory a data
  rw [hview] at hwrite
  generalize Bus.write a data bus = o at hwrite hafter
  obtain ⟨result, after, told⟩ := o
  obtain ⟨rfl, rfl, rfl⟩ := Outcome.mk.inj hwrite
  simp only [← Bus.cells_peek hmemory, ← Bus.cells_peek hafter, hkind] at hat helse
  have hsame {b : Int} (hb : b ≠ a) : bus.cells.same a b = false := by
    rw [hcells]
    exact decide_eq_false hb.symm
  refine ⟨after, rfl, ?_, ?_, fun b hb => helse b (hsame hb)⟩
  · rw [seen, hat]
    split
    · exact congrArg Except.ok (toNat_byte_of_isByte hfill)
    · exact congrArg Except.ok (toNat_byte_of_isByte hdata)
  · rw [hat, hbefore]
    by_cases hrom : region.type = "ROM" <;> simp [hrom, byte_inj_of_isByte hdata hfill]

end Memory

/-- Only the one of the two architectures has the decimal mode. -/
theorem variant?_eq (architecture : CodePoints) :
    if architecture ∈ architectureNames then
      ∃ variant, variant? architecture = some variant ∧
        (variant.hasDecimal = true ↔ architecture = "MOS6502")
    else variant? architecture = none := by
  unfold variant?
  by_cases hmos : architecture = "MOS6502"
  · subst hmos
    exact ⟨.nmos, rfl, by decide⟩
  · by_cases hricoh : architecture = "2A03"
    · subst hricoh
      exact ⟨.ricoh2A03, rfl, by decide⟩
    · simp [architectureNames, hmos, hricoh]

/-- What has been read is built, or it has a flaw. -/
theorem build_eq {system : SystemSpec} (h : system.Proper) :
    match system.flaw? with
    | some e => (build system).1 = .error e
    | none => ∃ built, (build system).1 = .ok built ∧ built.Realises system := by
  have hvariant := variant?_eq system.architecture
  have hbus := buildBus_eq h
  have hpower := powerUp_eq h.namesDiffer
  unfold SystemSpec.flaw? build
  -- The cases are in the order in which the parts are looked at, which is that of the flaws.
  by_cases harchitecture : system.architecture ∈ architectureNames
  case neg =>
    rw [if_neg harchitecture] at hvariant
    rw [if_pos harchitecture, hvariant]
  rw [if_pos harchitecture] at hvariant
  obtain ⟨variant, hvariant, hdecimal⟩ := hvariant
  rw [if_neg (not_not_intro harchitecture), hvariant]
  cases hbusFlaw : system.busFlaw? with
  | some fault =>
    rw [hbusFlaw] at hbus
    generalize buildBus system = o at hbus
    obtain ⟨result, told⟩ := o
    obtain rfl : result = _ := hbus
    rfl
  | none =>
    rw [hbusFlaw] at hbus
    obtain ⟨bus, told, hbuild, hmemory, hcells⟩ := hbus
    rw [hbuild]
    cases hflaw : system.initialState.flaw? with
    | some name =>
      rw [hflaw] at hpower
      simp only [hpower]
      rfl
    | none =>
      rw [hflaw] at hpower
      simp only [hpower]
      refine ⟨_, rfl, ?_⟩
      exact {
        peek := seen_eq hmemory hcells hbusFlaw
        write := write_eq hmemory hcells hbusFlaw
        activity := congrArg (fun view => view.recent.reverse) hcells
        clock := rfl
        last := rfl
        hasDecimal := hdecimal
        state := rfl }

theorem flaw?_refused {system : SystemSpec} {fault : Fault}
    (h : system.flaw? = some (.refused fault)) :
    (∃ n, fault = .openBusTooWide n) ∨ ∃ n, fault = .fillTooWide n := by
  have hbus : system.busFlaw? = some fault := by
    unfold SystemSpec.flaw? at h
    split at h
    · simp at h
    · simpa [Option.or_eq_some_iff] using h
  rcases Option.or_eq_some_iff.mp hbus with hopen | ⟨-, hfill⟩
  · obtain ⟨n, -, hn⟩ := Option.map_eq_some_iff.mp hopen
    exact .inl ⟨n, hn.symm⟩
  · obtain ⟨n, -, hn⟩ := Option.map_eq_some_iff.mp hfill
    exact .inr ⟨n, hn.symm⟩

/-- A description that has been read is refused for four reasons only, none of which is a range or
a size, and otherwise the machine that it describes is built. -/
theorem build_of_parse {document : Value} {system : SystemSpec} (h : parse document = .ok system) :
    (∀ e, (build system).1 = .error e ↔ system.flaw? = some e) ∧
      (∀ fault, (build system).1 = .error (.refused fault) →
        (∃ n, fault = .openBusTooWide n) ∨ ∃ n, fault = .fillTooWide n) ∧
      (system.flaw? = none → ∃ built, (build system).1 = .ok built ∧ built.Realises system) := by
  have hbuild := build_eq (proper_of_parse h)
  have herror (e : Error) : (build system).1 = .error e ↔ system.flaw? = some e := by
    cases hflaw : system.flaw? with
    | some flaw =>
      rw [hflaw] at hbuild
      simp [hbuild]
    | none =>
      rw [hflaw] at hbuild
      obtain ⟨built, hbuilt, -⟩ := hbuild
      simp [hbuilt]
  refine ⟨herror, fun fault hfault => flaw?_refused ((herror _).mp hfault), fun hflaw => ?_⟩
  rw [hflaw] at hbuild
  exact hbuild

/-- A page of ROM in front of a region of a type that means nothing, half of which it covers. -/
theorem build_of_parse_overlap :
    let rom : List (Scalar × Part) :=
      [(.ofString "start", .scalar (.int 0)), (.ofString "end", .scalar (.ofString "$FF")),
        (.ofString "type", .scalar (.ofString "rom")),
        (.ofString "initial_value", .scalar (.int 0xEA))]
    let flash : List (Scalar × Part) :=
      [(.ofString "start", .scalar (.int 0x80)), (.ofString "end", .scalar (.int 0x17F)),
        (.ofString "type", .scalar (.ofString "flash"))]
    let state : List (Scalar × Part) :=
      [(.ofString "use_reset_vector", .scalar (.bool false)), (.ofString "pc", .scalar (.int 0x80)),
        (.ofString "registers", .mapping [(.ofString "A", .scalar (.int (-1)))])]
    let system : SystemSpec :=
      { regions :=
          [{ first := 0, last := 0xFF, type := "ROM", fill := 0xEA },
            { first := 0x80, last := 0x17F, type := "FLASH" }]
        openBus := some 0xFF
        initialState := { useResetVector := false, pc := 0x80, registers := [("a", -1)] } }
    parse (.ofPart (.mapping
        [(.ofString "memory_map", .list [.mapping rom, .mapping flash]),
          (.ofString "open_bus_value", .scalar (.int 0xFF)),
          (.ofString "initial_state", .mapping state)])) = .ok system ∧
      system.flaw? = none ∧ ∃ built, (build system).1 = .ok built ∧ built.Realises system := by
  intro rom flash state system
  have hparse : parse (.ofPart (.mapping
      [(.ofString "memory_map", .list [.mapping rom, .mapping flash]),
        (.ofString "open_bus_value", .scalar (.int 0xFF)),
        (.ofString "initial_state", .mapping state)])) = .ok system := rfl
  have hflaw : system.flaw? = none := by decide
  exact ⟨hparse, hflaw, (build_of_parse hparse).2.2 hflaw⟩

end Micro6502.Config
