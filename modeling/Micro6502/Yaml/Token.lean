import Micro6502.Text.CodePoints

/-!
# Tokens

What the characters of a document stand for, before they are put together. Three tokens have no
characters of their own: the start of a block collection, and the end of a block, are told by the
indentation, and a key of a single line is told by the colon behind it.
-/

namespace Micro6502.Yaml

/-- A tag as it is written: a handle, if there is one, and the rest. -/
structure TagName where
  handle : Option String
  suffix : String
  deriving DecidableEq, Repr

/-- The tokens of a document. -/
inductive Token where
  | versionDirective (major : Nat)
  | tagDirective (handle tagPrefix : String)
  | reservedDirective
  | documentStart
  | documentEnd
  | blockSequenceStart
  | blockMappingStart
  | blockEnd
  | flowSequenceStart
  | flowSequenceEnd
  | flowMappingStart
  | flowMappingEnd
  | blockEntry
  | flowEntry
  | key
  | value
  | alias (name : String)
  | anchor (name : String)
  | tag (name : TagName)
  | scalar (text : Text.CodePoints) (isPlain : Bool)
  deriving DecidableEq, Repr

end Micro6502.Yaml
