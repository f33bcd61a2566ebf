import Micro6502.Yaml.Node

/-!
# Merging mappings

A mapping can take over the entries of others: they stand under its merge keys, one mapping or a
sequence of mappings, of which the first counts most. Merging takes the merge keys away and puts the
entries taken over in front of the own ones, so that the own ones count more. It changes the graph,
since the mappings taken over are merged first, and one of them can be the mapping itself.

## Contents

- `Nodes.entriesOf`, `Nodes.setEntries` and `Nodes.mergeCount`
- `merge`, which merges into a mapping
-/

namespace Micro6502.Yaml

/-! ## Graphs under change -/

/-- An entry of a mapping: the numbers of a key and of a value. -/
abbrev Entry := Nat × Nat

namespace Nodes

def tagOf (nodes : Nodes) (n : Nat) : Tag := (nodes.getD n .empty).tag

/-- The entries of a mapping; other nodes have none. -/
def entriesOf (nodes : Nodes) (n : Nat) : List Entry :=
  match nodes.getD n .empty with
  | .mapping _ entries => entries
  | _ => []

def setEntries (nodes : Nodes) (n : Nat) (entries : List Entry) : Nodes :=
  nodes.setIfInBounds n (.mapping (nodes.tagOf n) entries)

/-- Makes the key of the default value a text, as it is in a mapping that is not needed as a
text. -/
def settleKey (nodes : Nodes) (key : Nat) : Nodes :=
  match nodes.getD key .empty with
  | .scalar .default text => nodes.setIfInBounds key (.scalar .text text)
  | _ => nodes

def mergeCount (nodes : Nodes) : Nat :=
  (List.range nodes.size).foldl
    (fun count n => count + (nodes.entriesOf n).countP fun (key, _) => nodes.tagOf key == .merge) 0

end Nodes

/-! ## Merging -/

/-- Steps that change a graph. -/
abbrev Merging := StateT Nodes Reading

/-- Puts the entries taken over by a mapping, if there are any, in front of its own. -/
def mergeWith (takenOver : Nat → Merging (List Entry)) (n : Nat) : Merging Unit := do
  let entries ← takenOver n
  if !entries.isEmpty then
    modify fun nodes => nodes.setEntries n (entries ++ nodes.entriesOf n)

/-- The entries to be taken over from what stands under a merge key, of which each mapping is
prepared by `prepare`. -/
def entriesUnder (prepare : Nat → Merging Unit) (n : Nat) : Merging (List Entry) := do
  match (← get).getD n .empty with
  | .mapping .. =>
    prepare n
    return (← get).entriesOf n
  | .sequence _ items =>
    let lists ← items.mapM fun (item : Nat) => do
      match (← get).getD item .empty with
      | .mapping .. =>
        prepare item
        return (← get).entriesOf item
      | _ => throw .malformed
    -- Of equal keys the last one counts, so the first mapping of a sequence goes last.
    return lists.reverse.flatten
  | .scalar .. => throw .malformed

/-- Takes the merge keys from entry number `start` on away from a mapping, and gives the entries
taken over for them. Each merge key is used up, so that their number bounds the steps. -/
def takenOver : (limit : Nat) → (start : Nat) → Nat → Merging (List Entry)
  | limit, start, n => do
    let nodes ← get
    let entries := nodes.entriesOf n
    let plain := (entries.drop start).takeWhile fun (key, _) => nodes.tagOf key != .merge
    modify fun nodes => plain.foldl (fun nodes (key, _) => nodes.settleKey key) nodes
    let place := start + plain.length
    match limit, entries[place]? with
    | _, none => return []
    | 0, some _ => throw .malformed
    | limit + 1, some (_, source) =>
      -- The merge key is taken away first, so that a mapping within itself does not meet it again.
      modify fun nodes => nodes.setEntries n (entries.eraseIdx place)
      let first ← entriesUnder (mergeWith (takenOver limit 0)) source
      let rest ← takenOver limit place n
      return first ++ rest

/-- Merges into a mapping what stands under its merge keys. The limit is the number of merge keys
in the graph, or more. -/
def merge (limit : Nat) (n : Nat) : Merging Unit := mergeWith (takenOver limit 0) n

end Micro6502.Yaml
