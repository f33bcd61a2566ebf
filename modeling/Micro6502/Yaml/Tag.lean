import Micro6502.Text.CodePoints
import Micro6502.Text.Hex

/-!
# Tags

A tag says what kind of value a node has. It can be written down; a node without one is a text, a
sequence or a mapping, and a plain text says by its form whether it is a text or something else.

## Contents

- `Tag`, with `Tag.ofName`
- the forms of integers and of numbers with a point
- `Tag.ofText`, the tag of a plain text
-/

namespace Micro6502.Yaml

open Text (CodePoints)

/-- The kinds of values. -/
inductive Tag where
  | null
  | bool
  | int
  | float
  | text
  | sequence
  | mapping
  /-- A key under which mappings stand that are merged into the one around. -/
  | merge
  /-- A key under which a mapping has the text that it stands for where a text is needed. -/
  | default
  /-- A kind that is not known, of which nothing has a value. -/
  | unknown
  deriving DecidableEq, Repr

namespace Tag

def names : List (String × Tag) :=
  [("null", null), ("bool", bool), ("int", int), ("float", float), ("str", text),
    ("seq", sequence), ("map", mapping), ("merge", merge), ("value", default)]

def ofName (name : String) : Tag :=
  ((names.map fun (short, tag) => ("tag:yaml.org,2002:" ++ short, tag)).lookup name).getD unknown

end Tag

/-! ## Forms of numbers -/

/-- Whether a character is a digit or an underscore. -/
def isDigitMark (c : Char) : Bool := c.isDigit || c == '_'

def dropSign : List Char → List Char
  | '-' :: rest => rest
  | '+' :: rest => rest
  | cs => cs

/-- A number below sixty in one or two digits. -/
def isSixtieth : List Char → Bool
  | [a] => a.isDigit
  | [a, b] => '0' ≤ a && a ≤ '5' && b.isDigit
  | _ => false

/-- The parts of a list between the marks in it. -/
def cut [BEq α] (mark : α) : List α → List (List α)
  | [] => [[]]
  | c :: rest =>
    match cut mark rest with
    | [] => [[c]]
    | part :: parts => if c == mark then [] :: part :: parts else (c :: part) :: parts

/-- Whether a text without sign looks like an integer. -/
def isIntForm (cs : List Char) : Bool :=
  match cs with
  | ['0'] => true
  | '0' :: 'b' :: rest => !rest.isEmpty && rest.all fun c => c == '0' || c == '1' || c == '_'
  | '0' :: 'x' :: rest =>
    !rest.isEmpty && rest.all fun c => (Hex.digitValue? c).isSome || c == '_'
  | '0' :: rest => rest.all fun c => ('0' ≤ c && c ≤ '7') || c == '_'
  | c :: _ =>
    if c.isDigit then
      match cut ':' cs with
      | lead :: parts => lead.all isDigitMark && parts.all isSixtieth
      | [] => false
    else false
  | [] => false

/-- Whether a text is an exponent, with its sign, or nothing. -/
def isExponent : List Char → Bool
  | [] => true
  | e :: sign :: digits =>
    (e == 'e' || e == 'E') && (sign == '-' || sign == '+') && !digits.isEmpty &&
      digits.all Char.isDigit
  | _ => false

/-- Whether a text without sign looks like a number with a point. -/
def isPointForm (cs : List Char) : Bool :=
  let lead := cs.takeWhile fun c => isDigitMark c || c == ':'
  match cs.drop lead.length with
  | '.' :: rest =>
    let fraction := rest.takeWhile isDigitMark
    let tail := rest.drop fraction.length
    match cut ':' lead with
    | [whole] => (whole.headD ' ').isDigit && isExponent tail
    | whole :: parts => (whole.headD ' ').isDigit && parts.all isSixtieth && tail.isEmpty &&
        whole.all isDigitMark
    | [] => false
  | _ => false

/-- Whether a text looks like a number with a point. One that starts with the point has no sign. -/
def isFloatForm (cs : List Char) : Bool :=
  isPointForm (dropSign cs)
    || (match cs with
      | '.' :: rest =>
        let fraction := rest.takeWhile isDigitMark
        (rest.headD ' ').isDigit && isExponent (rest.drop fraction.length)
      | _ => false)
    || [".inf", ".Inf", ".INF"].contains (String.ofList (dropSign cs))
    || [".nan", ".NaN", ".NAN"].contains (String.ofList cs)

/-! ## Forms of texts -/

/-- The truth values, in small letters. -/
def truthValues : List (String × Bool) :=
  [("yes", true), ("no", false), ("true", true), ("false", false), ("on", true), ("off", false)]

/-- The spellings of a word: in small letters, with a capital in front, and in capitals. -/
def spellings (word : String) : List String := [word, word.capitalize, word.toUpper]

/-- A text without the line feed at its end, if there is something in front of it. -/
def dropLineFeed (cs : List Char) : List Char :=
  match cs.reverse with
  | '\n' :: c :: rest => (c :: rest).reverse
  | _ => cs

/-- What a plain text is. -/
def Tag.ofText (t : CodePoints) : Tag :=
  let cs := dropLineFeed t.toString.toList
  let text := String.ofList cs
  if (truthValues.flatMap fun (word, _) => spellings word).contains text then .bool
  else if isFloatForm cs then .float
  else if isIntForm (dropSign cs) then .int
  else if text == "<<" then .merge
  else if (["", "~"] ++ spellings "null").contains text then .null
  else if text == "=" then .default
  else .text

end Micro6502.Yaml
