import Micro6502.Config.Integer
import Micro6502.Config.System
import Micro6502.Text.Case

/-!
# Reading descriptions from documents

A description is a mapping with the keys `architecture`, `memory_map`, `initial_state` and
`open_bus_value`, all of them optional. The first flaw found ends the reading: after the name of
the architecture the regions are read in order, then the initial state, then the open bus.

## Contents

- `textOf`, a value as text, and `parseInt`, an integer in any of its notations
- `parseRegion`, `parseRegions` and `parseInitialState`
- `parse`, a whole document
-/

namespace Micro6502.Config

open Text (CodePoints)

/-! ## Fields -/

def textOf (value : Value) : Except Error CodePoints :=
  match value.display? with
  | some text => .ok text
  | none => .error .tooManyDigits

def refuseInt (value : Value) : Except Error Int := do
  let text ← textOf value
  throw (.notAnInteger text)

/-- An integer: itself or one of its notations. Truth values are no integers. -/
def parseInt (value : Value) : Except Error Int :=
  match value.view with
  | .scalar (.int n) => .ok n
  | .scalar (.text t) =>
    match integer? t.toString with
    | some n => .ok n
    | none => refuseInt value
  | _ => refuseInt value

/-- The integer under a key, with a default if there is none. -/
def intField (entries : List (Scalar × Value)) (name : String) (default : Int) :
    Except Error Int :=
  match lookup? entries name with
  | some value => parseInt value
  | none => .ok default

/-- A text in capitals under a key; any value has a text. -/
def nameField (entries : List (Scalar × Value)) (name default : String) :
    Except Error CodePoints :=
  match lookup? entries name with
  | some value => (textOf value).map CodePoints.upper
  | none => .ok (CodePoints.upper default)

/-! ## Regions -/

/-- Whether a name is found in a value; there is nothing to look through in most scalars. -/
def mentions (name : String) (value : Value) : Option Bool :=
  match value.view with
  | .scalar (.text t) => some (t.contains (.ofString name))
  | .scalar _ => none
  | .list items => some (items.any (·.isText name))
  | .mapping entries => some (lookup? entries name).isSome

/-- Reads a region from the entries of its mapping. -/
def regionOfEntries (entries : List (Scalar × Value)) (first last : Value) :
    Except Error RegionSpec := do
  let first ← parseInt first
  let last ← parseInt last
  let type ← nameField entries "type" "RAM"
  let fill ← intField entries "initial_value" 0
  -- The ends are checked after all fields have been read.
  if 0 ≤ first ∧ first ≤ last ∧ last ≤ 0xFFFF then
    return { first := first
             last := last
             type := type
             label := (lookup? entries "label").getD (.scalar (.ofString ""))
             fill := fill }
  else
    throw (.rangeInvalid first last)

def refuseRegion (region : Value) : Except Error RegionSpec := do
  let text ← textOf region
  throw (.endsMissing text)

/-- Reads a region. Its two ends must be mentioned, and only a mapping has fields. -/
def parseRegion (region : Value) : Except Error RegionSpec :=
  match mentions "start" region, mentions "end" region with
  | some true, some true =>
    match region.view with
    | .mapping entries =>
      match lookup? entries "start", lookup? entries "end" with
      | some first, some last => regionOfEntries entries first last
      | _, _ => refuseRegion region
    -- A list or a text can mention the ends, but it has no fields.
    | _ => .error .mapMisshapen
  | some _, some _ => refuseRegion region
  | _, _ => .error .mapMisshapen

/-- What a list of regions holds. A text is walked by code points and a mapping by keys. -/
def regionValues (value : Value) : Except Error (List Value) :=
  match value.view with
  | .list items => .ok items
  | .mapping entries => .ok (entries.map fun (key, _) => .scalar key)
  | .scalar (.text t) => .ok (t.codes.map fun code => .scalar (.text ⟨[code]⟩))
  | .scalar _ => .error .mapMisshapen

def parseRegions : List Value → Except Error (List RegionSpec)
  | [] => .ok []
  | value :: rest => do
    let region ← parseRegion value
    let regions ← parseRegions rest
    return region :: regions

/-! ## The initial state -/

/-- The entries under a key; what counts as false counts as empty. -/
def entriesField (entries : List (Scalar × Value)) (name : String) :
    Except Error (List (Scalar × Value)) :=
  match lookup? entries name with
  | none => .ok []
  | some value =>
    -- An empty list stands for no entries, as do zero and the empty text.
    if value.isTruthy then
      match value.view with
      | .mapping fields => .ok fields
      | _ => .error .stateMisshapen
    else .ok []

/-- Puts an integer under a name. The first of equal names keeps its place. -/
def setRegister (registers : List (CodePoints × Int)) (name : CodePoints) (n : Int) :
    List (CodePoints × Int) :=
  match registers with
  | [] => [(name, n)]
  | (other, m) :: rest =>
    if other == name then (name, n) :: rest else (other, m) :: setRegister rest name n

/-- Reads registers in order. Their names are in small letters. -/
def parseRegisters (registers : List (CodePoints × Int)) :
    List (Scalar × Value) → Except Error (List (CodePoints × Int))
  | [] => .ok registers
  | (key, value) :: rest => do
    let name ← textOf (.scalar key)
    let n ← parseInt value
    parseRegisters (setRegister registers name.lower n) rest

def parseInitialState (entries : List (Scalar × Value)) : Except Error InitialState := do
  let pc ← intField entries "pc" 0
  let sp ← intField entries "sp" 0xFD
  let fields ← entriesField entries "registers"
  let registers ← parseRegisters [] fields
  return { useResetVector := ((lookup? entries "use_reset_vector").map Value.isTruthy).getD true
           pc := pc
           sp := sp
           registers := registers }

/-! ## Documents -/

/-- Reads the value of the open bus; nothing means that there is none. -/
def parseOpenBus (value : Value) : Except Error (Option Int) :=
  match value.view with
  | .scalar .null => .ok none
  | _ => (parseInt value).map some

/-- Reads a description from the entries of a document. -/
def parseEntries (entries : List (Scalar × Value)) : Except Error SystemSpec := do
  let architecture ← nameField entries "architecture" "MOS6502"
  let values ←
    match lookup? entries "memory_map" with
    | none => pure []
    | some value => regionValues value
  let regions ← parseRegions values
  let fields ← entriesField entries "initial_state"
  let initialState ← parseInitialState fields
  let openBus ←
    match lookup? entries "open_bus_value" with
    | none => pure none
    | some value => parseOpenBus value
  return { architecture := architecture
           regions := regions
           openBus := openBus
           initialState := initialState }

/-- Reads a description from a parsed document, which must have entries. -/
def parse (document : Value) : Except Error SystemSpec :=
  match document.view with
  | .mapping entries => parseEntries entries
  | _ => .error .stateMisshapen

/-- Reads a description from the document in a file. An empty file describes the default system. -/
def parseRoot (document : Value) : Except Error SystemSpec :=
  match document.view with
  | .mapping entries => parseEntries entries
  | .scalar .null => parseEntries []
  | _ => .error .rootNotMapping

end Micro6502.Config
