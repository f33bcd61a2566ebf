import Micro6502.Decimal.Shortest
import Micro6502.Decimal.Whole
import Micro6502.Text.Quoted

/-!
# Documents

The values that a configuration document is made of, whatever notation it was written in. A
collection can occur in several places of a document, and within itself: such collections are kept
in a pool, and the places where they occur refer to them by number.

## Contents

- `Scalar`, the values without parts, and when two of them are the same key
- `Part` and `Value`, a part of a document together with the pool that it refers to
- `Value.view`, what a value is one level deep
- `insert`, in which a later entry with the same key replaces the value in place, and `lookup?`
- `Scalar.display?` and `Value.display?`, values as text
-/

namespace Micro6502.Config

open Text (CodePoints)

/-! ## Scalars -/

/-- A value without parts. -/
inductive Scalar where
  | null
  | bool (b : Bool)
  | int (n : Int)
  | float (x : Float)
  | text (t : CodePoints)
  deriving Repr

namespace Scalar

def ofString (s : String) : Scalar := text (.ofString s)

/-- The integer that a scalar is equal to as a number; truth counts as one. -/
def integer? : Scalar → Option Int
  | bool b => some b.toInt
  | int n => some n
  | float x => (Decimal.Parts.ofFloat x).integer?
  | _ => none

/-- Whether two scalars are the same key. Numbers are the same key if they are equal; what is not a
number is the same key as itself. -/
def sameKey : Scalar → Scalar → Bool
  | null, null => true
  | text s, text t => s == t
  | float x, float y => x == y || (x.isNaN && y.isNaN)
  | s, t =>
    match s.integer?, t.integer? with
    | some m, some n => m == n
    | _, _ => false

/-- Whether a scalar counts as true: all do but nothing, zero and the empty text. -/
def isTruthy : Scalar → Bool
  | null => false
  | bool b => b
  | int n => n != 0
  | float x => !(x == 0)
  | text t => !t.isEmpty

end Scalar

/-! ## Values -/

/-- A part of a document. The keys of a mapping are values without parts. -/
inductive Part where
  | scalar (s : Scalar)
  | list (items : List Part)
  | mapping (entries : List (Scalar × Part))
  /-- The part with a number in the pool. -/
  | shared (n : Nat)
  deriving Repr

/-- A part of a document with the pool of the document. -/
structure Value where
  pool : Array Part
  part : Part

/-- What a value is, one level deep. -/
inductive View where
  | scalar (s : Scalar)
  | list (items : List Value)
  | mapping (entries : List (Scalar × Value))

namespace Value

/-- A part that refers to no pool as a value. -/
def ofPart (part : Part) : Value := ⟨#[], part⟩

def scalar (s : Scalar) : Value := ofPart (.scalar s)

/-- What the value is. The pool holds collections, and a number that it does not reach stands for
nothing. -/
def view (v : Value) : View :=
  let here :=
    match v.part with
    | .shared n => v.pool.getD n (.scalar .null)
    | part => part
  match here with
  | .scalar s => .scalar s
  | .list items => .list (items.map (Value.mk v.pool))
  | .mapping entries => .mapping (entries.map fun (key, part) => (key, ⟨v.pool, part⟩))
  | .shared _ => .scalar .null

/-- Whether a value counts as true; a list or a mapping does if it is not empty. -/
def isTruthy (v : Value) : Bool :=
  match v.view with
  | .scalar s => s.isTruthy
  | .list items => !items.isEmpty
  | .mapping entries => !entries.isEmpty

def isText (s : String) (v : Value) : Bool :=
  match v.view with
  | .scalar (.text t) => t == .ofString s
  | _ => false

@[simp] theorem view_scalar (s : Scalar) : (scalar s).view = .scalar s := rfl

@[simp] theorem view_ofPart_list (items : List Part) :
    (ofPart (.list items)).view = .list (items.map ofPart) := rfl

@[simp] theorem view_ofPart_mapping (entries : List (Scalar × Part)) :
    (ofPart (.mapping entries)).view =
      .mapping (entries.map fun (key, part) => (key, ofPart part)) := rfl

end Value

/-! ## Entries of mappings -/

/-- Puts a value under a key. The first of equal keys keeps its place and its spelling. -/
def insert (entries : List (Scalar × α)) (key : Scalar) (value : α) : List (Scalar × α) :=
  match entries with
  | [] => [(key, value)]
  | (k, v) :: rest => if k.sameKey key then (k, value) :: rest else (k, v) :: insert rest key value

/-- The value under a key that is a text. -/
def lookup? (entries : List (Scalar × α)) (name : String) : Option α :=
  (entries.find? fun (key, _) => key.sameKey (.ofString name)).map Prod.snd

/-! ## Values as text -/

namespace Scalar

/-- A scalar within a collection: a text is in quotes, with its surrogates escaped. An integer with
too many digits has no text. -/
def quoted? : Scalar → Option String
  | null => some "None"
  | bool b => some (if b then "True" else "False")
  | int n => Decimal.whole? n
  | float x => some (Decimal.text x)
  | text t => some (Text.quoted t)

/-- A scalar as text; a text is itself. -/
def display? : Scalar → Option CodePoints
  | text t => some t
  | s => s.quoted?.map .ofString

end Scalar

namespace Part

/-- What stands for a collection within itself. -/
def ellipsis : Part → String
  | mapping _ => "\x7b...\x7d"
  | _ => "[...]"

mutual

/-- A part within another: texts are in quotes. The text of a shared part is given by `shared`. -/
def quoted? (shared : Nat → Option String) : Part → Option String
  | .scalar s => s.quoted?
  | .list items => do
    let texts ← quotedItems? shared items
    return "[" ++ String.intercalate ", " texts ++ "]"
  | .mapping entries => do
    let texts ← quotedEntries? shared entries
    return "\x7b" ++ String.intercalate ", " texts ++ "\x7d"
  | .shared n => shared n

def quotedItems? (shared : Nat → Option String) : List Part → Option (List String)
  | [] => some []
  | item :: rest => do
    let text ← quoted? shared item
    let texts ← quotedItems? shared rest
    return text :: texts

def quotedEntries? (shared : Nat → Option String) : List (Scalar × Part) → Option (List String)
  | [] => some []
  | (key, value) :: rest => do
    let keyText ← key.quoted?
    let text ← quoted? shared value
    let texts ← quotedEntries? shared rest
    return (keyText ++ ": " ++ text) :: texts

end

/-- The text of the part with a number in the pool, within the parts with the numbers `around`. One
of these is cut short, so that the numbers around differ, and the size of the pool bounds how many
there are. -/
def quotedShared? (pool : Array Part) : (limit : Nat) → (around : List Nat) → Nat → Option String
  | 0, _, _ => none
  | limit + 1, around, n =>
    let part := pool.getD n (.scalar .null)
    if around.contains n then some part.ellipsis
    else part.quoted? (quotedShared? pool limit (n :: around))

end Part

/-- A value as text; a text is itself. Collections may be nested to any depth: an interpreter's
recursion limit, on which the conversion of a deep one can fail, is not modelled. -/
def Value.display? (v : Value) : Option CodePoints :=
  match v.view with
  | .scalar s => s.display?
  | _ => (v.part.quoted? (Part.quotedShared? v.pool (v.pool.size + 1) [])).map .ofString

end Micro6502.Config
