/-!
# Texts of code points

A text as the code points that it is made of. The escapes of a document can name surrogates, code
points that stand for no character; a `String` cannot hold them, and a text of code points can.

## Contents

- `CodePoints`, with `ofString` and `toString`, which give each other back on all strings
- `CodePoints.isEmpty` and `CodePoints.contains`
- `CodePoints.mapChars`, for maps of characters, which leave surrogates as they are
-/

namespace Micro6502.Text

/-- A text of code points. -/
structure CodePoints where
  codes : List Nat
  deriving DecidableEq, Repr

namespace CodePoints

/-! ## Strings -/

def ofString (s : String) : CodePoints := ⟨s.toList.map Char.toNat⟩

/-- The character of a code point. A surrogate is shown as the replacement character. -/
def charOf (code : Nat) : Char := if code.isValidChar then Char.ofNat code else '\uFFFD'

def toString (t : CodePoints) : String := String.ofList (t.codes.map charOf)

@[simp] theorem charOf_toNat (c : Char) : charOf c.toNat = c := by
  have valid : c.toNat.isValidChar := c.valid
  simp [charOf, valid]

@[simp] theorem toString_ofString (s : String) : (ofString s).toString = s := by
  have same : charOf ∘ Char.toNat = id := funext charOf_toNat
  simp [ofString, toString, same]

@[simp, grind =] theorem ofString_inj {s t : String} : ofString s = ofString t ↔ s = t := by
  refine ⟨fun same => ?_, congrArg ofString⟩
  rw [← toString_ofString s, same, toString_ofString]

@[simp] theorem ofString_beq (s t : String) : (ofString s == ofString t) = (s == t) := by
  rw [Bool.eq_iff_iff, beq_iff_eq, ofString_inj, beq_iff_eq]

/-- A string stands for the text of its characters. -/
instance : Coe String CodePoints := ⟨ofString⟩

instance : Append CodePoints := ⟨fun s t => ⟨s.codes ++ t.codes⟩⟩

/-! ## Looking at texts -/

def isEmpty (t : CodePoints) : Bool := t.codes.isEmpty

/-- Whether a list starts somewhere within another one. -/
def startsWithin (part : List Nat) : List Nat → Bool
  | [] => part.isEmpty
  | code :: rest => part.isPrefixOf (code :: rest) || startsWithin part rest

def contains (t part : CodePoints) : Bool := startsWithin part.codes t.codes

/-! ## Maps of characters -/

/-- What a map of characters makes of a code point. A surrogate stays as it is. -/
def mapCode (f : Char → List Char) (code : Nat) : List Nat :=
  if code.isValidChar then (f (Char.ofNat code)).map Char.toNat else [code]

def mapChars (f : Char → List Char) (t : CodePoints) : CodePoints := ⟨t.codes.flatMap (mapCode f)⟩

@[simp] theorem mapCode_toNat (f : Char → List Char) (c : Char) :
    mapCode f c.toNat = (f c).map Char.toNat := by
  have valid : c.toNat.isValidChar := c.valid
  simp [mapCode, valid]

@[simp] theorem mapChars_ofString (f : Char → List Char) (s : String) :
    mapChars f (ofString s) = ofString (String.ofList (s.toList.flatMap f)) := by
  simp [mapChars, ofString, List.flatMap_map, List.map_flatMap]

end CodePoints

end Micro6502.Text
