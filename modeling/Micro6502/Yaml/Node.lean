import Micro6502.Yaml.Lexer
import Micro6502.Yaml.Tag

/-!
# Nodes

The graph of a document: texts, sequences and mappings, each with its tag. The nodes are numbered,
and collections refer to their parts by number. An alias is the number of the node that its anchor
names, which can be a collection around the alias.

## Contents

- `Node` and `Nodes`
- `Builder`, the state while tokens are put together, and `Building`, its monad
- `node`, `blockSequence`, `blockMapping`, `flowSequence`, `flowMapping`
- `Graph`, and `Graph.ofTokens`, the graph of a text with one document
-/

namespace Micro6502.Yaml

open Text (CodePoints)

/-! ## Nodes -/

/-- A node. -/
inductive Node where
  | scalar (tag : Tag) (text : CodePoints)
  | sequence (tag : Tag) (items : List Nat)
  | mapping (tag : Tag) (entries : List (Nat × Nat))
  deriving Repr

def Node.tag : Node → Tag
  | scalar tag _ | sequence tag _ | mapping tag _ => tag

/-- The node that stands where nothing was written. -/
def Node.empty : Node := .scalar .null ⟨[]⟩

abbrev Nodes := Array Node

/-! ## Building -/

/-- The state while tokens are put together. -/
structure Builder where
  tokens : List Token
  /-- The flaw of the text behind the tokens. -/
  flaw : Option Flaw
  /-- The tag handles of the document. -/
  handles : List (String × String)
  /-- The nodes that the anchors so far name. -/
  anchors : List (String × Nat)
  nodes : Nodes

/-- Steps of putting tokens together. A step is refused if the next token does not fit. -/
abbrev Building := StateT Builder Reading

namespace Building

/-- The next token, if there is one. The flaw of the text is met when all tokens are used up. -/
def peek? : Building (Option Token) := do
  let b ← get
  match b.tokens, b.flaw with
  | t :: _, _ => return some t
  | [], none => return none
  | [], some flaw => throw flaw

def refuse : Building α := throw .malformed

/-- Moves over a token. -/
def skip : Building Unit := modify fun b => { b with tokens := b.tokens.tail }

/-- Whether the next token is one of a list. -/
def sees (ts : List Token) : Building Bool := return (← peek?).any ts.contains

/-- Moves over a token if it is the given one. -/
def accept (t : Token) : Building Bool := do
  if (← peek?) == some t then
    skip
    return true
  else
    return false

def expect (t : Token) : Building Unit := do
  if ← accept t then pure () else refuse

def add (n : Node) : Building Nat := do
  let place := (← get).nodes.size
  modify fun b => { b with nodes := b.nodes.push n }
  return place

/-- Adds a node for what was not written. -/
def addEmpty : Building Nat := add .empty

/-! ### Anchors and tags -/

def anchor? : Building (Option String) := do
  match ← peek? with
  | some (.anchor name) =>
    skip
    return some name
  | _ => return none

def tag? : Building (Option TagName) := do
  match ← peek? with
  | some (.tag name) =>
    skip
    return some name
  | _ => return none

def fullName (name : TagName) : Building String := do
  match name.handle with
  | none => return name.suffix
  | some handle =>
    match (← get).handles.lookup handle with
    | some start => return start ++ name.suffix
    | none => refuse

/-- What is written in front of a node. -/
structure Properties where
  anchor : Option String
  tag : Option String

/-- Whether anything is written in front of a node. -/
def Properties.any (p : Properties) : Bool := p.anchor.isSome || p.tag.isSome

/-- Takes an anchor and a tag in either order. -/
def properties : Building Properties := do
  let (anchor, tag) ←
    match ← anchor? with
    | some name => pure (some name, ← tag?)
    | none =>
      match ← tag? with
      | some tag => pure (← anchor?, some tag)
      | none => pure (none, none)
  match tag with
  | none => return ⟨anchor, none⟩
  | some name => return ⟨anchor, some (← fullName name)⟩

/-- The tag of a text. A lone exclamation mark makes any text say by its form what it is. -/
def Properties.ofText (p : Properties) (text : CodePoints) (isPlain : Bool) : Tag :=
  match p.tag with
  | none => if isPlain then .ofText text else .text
  | some "!" => .ofText text
  | some name => .ofName name

def Properties.ofCollection (p : Properties) (usual : Tag) : Tag :=
  match p.tag with
  | none | some "!" => usual
  | some name => .ofName name

def checkAnchor (p : Properties) : Building Unit := do
  match p.anchor with
  | none => pure ()
  | some name => if ((← get).anchors.lookup name).isSome then refuse else pure ()

/-- Adds the node that an anchor names, if there is one. -/
def addNamed (p : Properties) (n : Node) : Building Nat := do
  let place ← add n
  match p.anchor with
  | none => return place
  | some name =>
    modify fun b => { b with anchors := (name, place) :: b.anchors }
    return place

def addText (p : Properties) (text : CodePoints) (isPlain : Bool) : Building Nat := do
  checkAnchor p
  addNamed p (.scalar (p.ofText text isPlain) text)

/-- Adds a collection, which its own parts can already name. -/
def addCollection (p : Properties) (usual : Tag) (make : Tag → List β → Node)
    (parts : Building (List β)) : Building Nat := do
  checkAnchor p
  let tag := p.ofCollection usual
  -- The anchor has to have its node before the parts are taken.
  let place ← addNamed p (make tag [])
  let parts ← parts
  modify fun b => { b with nodes := b.nodes.setIfInBounds place (make tag parts) }
  return place

def addSequence (p : Properties) (items : Building (List Nat)) : Building Nat :=
  addCollection p .sequence Node.sequence items

def addMapping (p : Properties) (entries : Building (List (Nat × Nat))) : Building Nat :=
  addCollection p .mapping Node.mapping entries

def dereference (name : String) : Building Nat := do
  match (← get).anchors.lookup name with
  | some place => return place
  | none => refuse

end Building

/-! ## Collections -/

open Building

/-- Where a node stands, which says what it may be. -/
inductive Context where
  /-- Within brackets. -/
  | flow
  /-- Within indentation. -/
  | block
  /-- The value or the key of a block mapping, where a sequence needs no indentation of its own. -/
  | blockEntry
  deriving DecidableEq, Repr

mutual

def node : (limit : Nat) → Context → Building Nat
  | 0, _ => refuse
  | limit + 1, context => do
    match ← peek? with
    | some (.alias name) =>
      skip
      dereference name
    | _ => do
      let p ← properties
      match ← peek? with
      | some (.scalar text isPlain) =>
        skip
        addText p text isPlain
      | some .flowSequenceStart => addSequence p (do skip; flowSequence limit true)
      | some .flowMappingStart => addMapping p (do skip; flowMapping limit true)
      | some t =>
        if t == .blockSequenceStart && context != .flow then
          addSequence p (do skip; blockSequence limit)
        else if t == .blockMappingStart && context != .flow then
          addMapping p (do skip; blockMapping limit)
        else if t == .blockEntry && context == .blockEntry then
          addSequence p (looseSequence limit)
        -- A tag or an anchor with nothing behind it makes an empty text.
        else if p.any then addText p ⟨[]⟩ true
        else refuse
      | none => if p.any then addText p ⟨[]⟩ true else refuse

/-- Takes a node, or an empty one if a token follows that no node starts with. -/
def nodeUnless : (limit : Nat) → Context → List Token → Building Nat
  | 0, _, _ => refuse
  | limit + 1, context, stops => do
    if ← sees stops then addEmpty else node limit context

/-- Takes the items of a block sequence and its end. -/
def blockSequence : (limit : Nat) → Building (List Nat)
  | 0 => refuse
  | limit + 1 => do
    if ← accept .blockEntry then
      let item ← nodeUnless limit .block [.blockEntry, .blockEnd]
      let rest ← blockSequence limit
      return item :: rest
    else
      expect .blockEnd
      return []

/-- Takes the items of a block sequence that has no indentation of its own. -/
def looseSequence : (limit : Nat) → Building (List Nat)
  | 0 => refuse
  | limit + 1 => do
    if ← accept .blockEntry then
      let item ← nodeUnless limit .block [.blockEntry, .key, .value, .blockEnd]
      let rest ← looseSequence limit
      return item :: rest
    else
      return []

/-- Takes the entries of a block mapping and its end. -/
def blockMapping : (limit : Nat) → Building (List (Nat × Nat))
  | 0 => refuse
  | limit + 1 => do
    if ← accept .key then
      let stops := [Token.key, .value, .blockEnd]
      let key ← nodeUnless limit .blockEntry stops
      let value ← if ← accept .value then nodeUnless limit .blockEntry stops else addEmpty
      let rest ← blockMapping limit
      return (key, value) :: rest
    else
      expect .blockEnd
      return []

/-- Takes the items of a sequence in brackets and its end. An entry among them is a mapping of its
own. -/
def flowSequence : (limit : Nat) → (isFirst : Bool) → Building (List Nat)
  | 0, _ => refuse
  | limit + 1, isFirst => do
    if ← accept .flowSequenceEnd then
      return []
    else
      if !isFirst then expect .flowEntry
      if ← sees [.key] then
        let item ← addMapping ⟨none, none⟩ (do
          skip
          let key ← nodeUnless limit .flow [.value, .flowEntry, .flowSequenceEnd]
          let value ←
            if ← accept .value then nodeUnless limit .flow [.flowEntry, .flowSequenceEnd]
            else addEmpty
          return [(key, value)])
        let rest ← flowSequence limit false
        return item :: rest
      -- The last item may have a comma behind it.
      else if ← accept .flowSequenceEnd then
        return []
      else
        let item ← node limit .flow
        let rest ← flowSequence limit false
        return item :: rest

/-- Takes the entries of a mapping in brackets and its end. -/
def flowMapping : (limit : Nat) → (isFirst : Bool) → Building (List (Nat × Nat))
  | 0, _ => refuse
  | limit + 1, isFirst => do
    if ← accept .flowMappingEnd then
      return []
    else
      if !isFirst then expect .flowEntry
      if ← accept .key then
        let key ← nodeUnless limit .flow [.value, .flowEntry, .flowMappingEnd]
        let value ←
          if ← accept .value then nodeUnless limit .flow [.flowEntry, .flowMappingEnd]
          else addEmpty
        let rest ← flowMapping limit false
        return (key, value) :: rest
      else if ← accept .flowMappingEnd then
        return []
      else
        let key ← node limit .flow
        let value ← addEmpty
        let rest ← flowMapping limit false
        return (key, value) :: rest

end

/-! ## Documents -/

/-- The tag handles that every document knows. -/
def defaultHandles : List (String × String) := [("!", "!"), ("!!", "tag:yaml.org,2002:")]

/-- Takes the directives of a document. Each can be given once, and the version must be 1. -/
def directives : (limit : Nat) → (hasVersion : Bool) → List (String × String) →
    Building (List (String × String))
  | 0, _, _ => refuse
  | limit + 1, hasVersion, handles => do
    match ← peek? with
    | some (.versionDirective major) =>
      skip
      if hasVersion || major != 1 then refuse else directives limit true handles
    | some (.tagDirective handle start) =>
      skip
      if (handles.lookup handle).isSome then refuse
      else directives limit hasVersion ((handle, start) :: handles)
    | some .reservedDirective =>
      skip
      directives limit hasVersion handles
    | _ => return handles

/-- Takes the head of a document: its directives and the separator. -/
def documentHead (limit : Nat) : Building Unit := do
  let handles ← directives limit false []
  modify fun b => { b with handles := handles ++ defaultHandles }
  expect .documentStart

def skipEnds : (limit : Nat) → Building Unit
  | 0 => refuse
  | limit + 1 => do if ← accept .documentEnd then skipEnds limit else pure ()

/-- Whether a token belongs to the head of a document. -/
def isInHead : Token → Bool
  | .versionDirective _ | .tagDirective _ _ | .reservedDirective | .documentStart => true
  | _ => false

/-- Takes the only document of a text; there can be none. -/
def document (limit : Nat) : Building (Option Nat) := do
  match ← peek? with
  | none => return none
  | some first =>
    let root ←
      if isInHead first then do
        documentHead limit
        -- The head may be all there is.
        if (← peek?).all fun t => isInHead t || t == .documentEnd then addEmpty
        else node limit .block
      else node limit .block
    skipEnds limit
    if (← peek?).isSome then
      -- A second document is refused for its head first.
      documentHead limit
      refuse
    else return some root

/-- The graph of a document. -/
structure Graph where
  nodes : Nodes
  root : Nat

/-- The graph of a text with one document; nothing stands for an empty text. Of three steps one
within the other at least one takes a token, so that the number of tokens bounds the depth. -/
def Graph.ofTokens (tokens : Tokens) : Reading (Option Graph) := do
  let limit := 3 * tokens.settled.length + 3
  let start : Builder := ⟨tokens.settled, tokens.flaw, defaultHandles, [], #[]⟩
  let (root, b) ← (document limit).run start
  return root.map fun root => ⟨b.nodes, root⟩

end Micro6502.Yaml
