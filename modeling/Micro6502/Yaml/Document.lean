import Micro6502.Config.Value
import Micro6502.Yaml.Merge
import Micro6502.Yaml.Number

/-!
# Documents

The value of a graph. Collections are filled one after the other in the order in which they are
met, each with references to the collections that it holds: so a collection can hold itself, and of
two flaws the one in the collection met first is found.

## Contents

- `scalarOf`, the value of a text with a tag
- `Assembly`, the state while a graph gets its value
- `Graph.value`, and `read`, the value of a text
-/

namespace Micro6502.Yaml

open Config (Scalar Part Value)
open Text (CodePoints)

/-! ## Texts -/

/-- The value of a text with a tag. -/
def scalarOf (tag : Tag) (t : CodePoints) : Reading Scalar :=
  match tag with
  | .null => .ok .null
  | .bool => (truth t).map Scalar.bool
  | .int => (integer t).map Scalar.int
  | .float => (decimal t).map Scalar.float
  | .text => .ok (.text t)
  | .sequence | .mapping | .merge | .default | .unknown => refuse

/-- The text of a node that has to be one: for a mapping it is the text under the default key. -/
def textOf (nodes : Nodes) : (limit : Nat) → Nat → Reading CodePoints
  | 0, _ => refuse
  | limit + 1, n =>
    match nodes.getD n .empty with
    | .scalar _ t => .ok t
    | .sequence .. => refuse
    | .mapping _ entries =>
      match entries.find? fun (key, _) => nodes.tagOf key == .default with
      | some (_, value) => textOf nodes limit value
      | none => refuse

/-! ## Collections -/

/-- The state while a graph gets its value. -/
structure Assembly where
  nodes : Nodes
  /-- The collections met so far, in order. -/
  met : Array Nat
  /-- For each node its place among the collections met. -/
  places : Array (Option Nat)
  /-- The number of merge keys at first. -/
  mergeCount : Nat

/-- Steps that give a graph its value. -/
abbrev Assembling := StateT Assembly Reading

namespace Assembling

def reference (n : Nat) : Assembling Part := do
  let a ← get
  match a.places.getD n none with
  | some place => return .shared place
  | none =>
    -- Met for the first time: it will be filled when its turn comes.
    let place := a.met.size
    set { a with met := a.met.push n, places := a.places.setIfInBounds n (some place) }
    return .shared place

/-- The part for a node. A collection is not filled yet. -/
def partOf (n : Nat) : Assembling Part := do
  let nodes := (← get).nodes
  match nodes.tagOf n with
  | .sequence | .mapping => reference n
  | tag => do
    let t ← textOf nodes nodes.size n
    let s ← scalarOf tag t
    return .scalar s

/-- Takes an entry into a mapping. Only values without parts are keys. -/
def addEntry (entries : List (Scalar × Part)) (entry : Entry) :
    Assembling (List (Scalar × Part)) := do
  match ← partOf entry.1 with
  | .scalar key =>
    let value ← partOf entry.2
    return Config.insert entries key value
  | _ => throw .malformed

def fill (n : Nat) : Assembling Part := do
  let a ← get
  match a.nodes.getD n .empty with
  | .sequence .sequence items => return .list (← items.mapM partOf)
  | .mapping .mapping _ => do
    -- Merging can change mappings that are filled later, which then have nothing left to merge.
    let ((), nodes) ← (merge a.mergeCount n).run a.nodes
    set { a with nodes := nodes }
    let entries ← (nodes.entriesOf n).foldlM addEntry []
    return .mapping entries
  | _ => throw .malformed

/-- Fills the collections from a place on among those met. Every collection is filled once, so that
the number of nodes bounds the steps. -/
def fillFrom : (limit : Nat) → (place : Nat) → (pool : Array Part) → Assembling (Array Part)
  | 0, _, pool => return pool
  | limit + 1, place, pool => do
    match (← get).met[place]? with
    | none => return pool
    | some n =>
      let part ← fill n
      fillFrom limit (place + 1) (pool.push part)

end Assembling

def Graph.value (g : Graph) : Reading Value := do
  let start : Assembly :=
    { nodes := g.nodes
      met := #[]
      places := Array.replicate g.nodes.size none
      mergeCount := g.nodes.mergeCount }
  let assembling : Assembling Value := do
    let root ← Assembling.partOf g.root
    let pool ← Assembling.fillFrom g.nodes.size 0 #[]
    return ⟨pool, root⟩
  assembling.run' start

/-- The value of the document in a text. An empty text has the value null. -/
def read (text : String) : Reading Value := do
  match ← Graph.ofTokens (tokensOf text.toList) with
  | none => return .scalar .null
  | some graph => graph.value

/-- The text with every kind of line end written as a line feed, as texts are read from files. -/
def withLineFeeds : List Char → List Char
  | [] => []
  | '\r' :: '\n' :: rest => '\n' :: withLineFeeds rest
  | '\r' :: rest => '\n' :: withLineFeeds rest
  | c :: rest => c :: withLineFeeds rest

end Micro6502.Yaml
