import Micro6502.Text.Hex
import Micro6502.Yaml.Cursor
import Micro6502.Yaml.Flaw

/-!
# Texts of scalars

The three ways to write a text: plain, between quotes, and as an indented block. Line breaks within
a plain or a quoted text are folded: one becomes a space, and of several all but the first stay.

## Contents

- `plain`, `quoted` and `block`, each of which takes a text from a cursor
-/

namespace Micro6502.Yaml

/-- A break followed by the breaks behind it, when lines are folded. -/
def folded (lineBreak breaks : List Char) : List Char :=
  (if lineBreak != ['\n'] then lineBreak else if breaks.isEmpty then [' '] else []) ++ breaks

/-! ## Plain texts -/

/-- Whether a character is a comma or a bracket that encloses a collection. -/
def isFlowMark (c : Char) : Bool := [',', '[', ']', '\x7b', '\x7d'].contains c

/-- Whether a plain text ends before a character, in view of the one behind it. -/
def endsPlain (inFlow : Bool) (c follower : Char) : Bool :=
  isGap c
    || (c == ':' && (isGap follower || (inFlow && isFlowMark follower)))
    || (inFlow && (c == '?' || isFlowMark c))

/-- The length of the run of characters that a plain text can take at once. -/
def plainRun (inFlow : Bool) : List Char → Nat
  | [] => 0
  | c :: rest => if endsPlain inFlow c (rest.headD eof) then 0 else 1 + plainRun inFlow rest

/-- Takes the breaks behind the first break within a plain text. A separator of documents takes
them away. -/
def plainBreaks : (steps : List Char) → List Char → Cursor → Option (List Char) × Cursor
  | [], breaks, c => (some breaks, c)
  | _ :: steps, breaks, c =>
    if c.peek == ' ' then plainBreaks steps breaks c.next
    else if isBreak c.peek then
      let (br, c) := c.takeBreak
      if c.atSeparator then (none, c) else plainBreaks steps (breaks ++ br) c
    else (some breaks, c)

/-- What stands between two runs of a plain text. -/
structure PlainGap where
  text : List Char
  /-- Whether the gap goes over a line break. -/
  overBreak : Bool

def plainGap (c : Cursor) : PlainGap × Cursor :=
  let (spaces, c) := c.takeWhile (· == ' ')
  if isBreak c.peek then
    let (br, c) := c.takeBreak
    -- An empty gap ends the text, and so does a separator of documents.
    if c.atSeparator then (⟨[], true⟩, c)
    else
      match plainBreaks c.steps [] c with
      | (some breaks, c) => (⟨folded br breaks, true⟩, c)
      | (none, c) => (⟨[], true⟩, c)
  else (⟨spaces, false⟩, c)

/-- A plain text that was taken. -/
structure Plain where
  text : List Char
  /-- Whether the cursor stands at the start of a line behind it. -/
  overBreak : Bool

/-- Takes runs and gaps of a plain text. -/
def plainFrom (indent : Int) (inFlow : Bool) :
    (steps : List Char) → (text gap : List Char) → (overBreak : Bool) → Cursor → Plain × Cursor
  | [], text, _, overBreak, c => (⟨text, overBreak⟩, c)
  | _ :: steps, text, gap, overBreak, c =>
    -- Behind a gap a number sign starts a comment.
    let n := if c.peek == '#' then 0 else plainRun inFlow c.rest
    if n == 0 then (⟨text, overBreak⟩, c)
    else
      let (run, c) := c.take n
      let text := text ++ gap ++ run
      let (next, c) := plainGap c
      if next.text.isEmpty || c.peek == '#' || (!inFlow && (c.column : Int) < indent) then
        (⟨text, next.overBreak⟩, c)
      else plainFrom indent inFlow steps text next.text next.overBreak c

/-- Takes a plain text. Outside of brackets its lines are indented by `indent` at least. -/
def plain (indent : Int) (inFlow : Bool) (c : Cursor) : Plain × Cursor :=
  plainFrom indent inFlow c.steps [] [] false c

/-! ## Quoted texts -/

def escapes : List (Char × Nat) :=
  [('0', 0x00), ('a', 0x07), ('b', 0x08), ('t', 0x09), ('\t', 0x09), ('n', 0x0A), ('v', 0x0B),
    ('f', 0x0C), ('r', 0x0D), ('e', 0x1B), (' ', 0x20), ('"', 0x22), ('\\', 0x5C), ('/', 0x2F),
    ('N', 0x85), ('_', 0xA0), ('L', 0x2028), ('P', 0x2029)]

/-- The escapes by code, with the number of their digits. -/
def codeEscapes : List (Char × Nat) := [('x', 2), ('u', 4), ('U', 8)]

def hexValue? (digits : List Char) : Option Nat :=
  digits.foldlM (fun n c => (Hex.digitValue? c).map (16 * n + ·)) 0

/-- The largest number that is looked at as a code point. -/
def maxCode : Nat := 0x7FFFFFFF

def codePoint (code : Nat) : Reading Nat :=
  if code < 0x110000 then .ok code
  else .error (if code ≤ maxCode then .notACodePoint else .numberTooLarge)

def codesOf (chars : List Char) : List Nat := chars.map Char.toNat

/-- Takes the breaks behind the first break within a quoted text. -/
def quotedBreaks : (steps : List Char) → List Char → Cursor → Option (List Char × Cursor)
  | [], _, _ => none
  | _ :: steps, breaks, c =>
    if c.atSeparator then none
    else
      let c := c.skipWhile fun ch => ch == ' ' || ch == '\t'
      if isBreak c.peek then
        let (br, c) := c.takeBreak
        quotedBreaks steps (breaks ++ br) c
      else some (breaks, c)

/-- Takes the breaks behind the first break, as many as there are. -/
def takeQuotedBreaks (c : Cursor) : Option (List Char × Cursor) :=
  quotedBreaks c.steps [] c

/-- Takes an escape, with the cursor behind the backslash. -/
def escape (c : Cursor) : Reading (List Nat × Cursor) :=
  let ch := c.peek
  match escapes.lookup ch, codeEscapes.lookup ch with
  | some code, _ => .ok ([code], c.next)
  | none, some width => do
    let (digits, c) := c.next.take width
    if digits.length == width then
      let code ← codePoint (← orRefuse (hexValue? digits))
      return ([code], c)
    else refuse
  | none, none =>
    -- A break behind a backslash is dropped; the empty lines behind it are not.
    if isBreak ch then do
      let (breaks, c) ← orRefuse (takeQuotedBreaks c.takeBreak.2)
      return (codesOf breaks, c)
    else refuse

/-- Whether a character of a quoted text stands for itself. -/
def isQuotedRun (ch : Char) : Bool :=
  !(ch == '\'' || ch == '"' || ch == '\\' || isGap ch)

/-- Takes the characters of a quoted text up to its closing quote. -/
def quotedFrom (mark : Char) :
    (steps : List Char) → List Nat → Cursor → Reading (List Nat × Cursor)
  | [], _, _ => refuse
  | _ :: steps, text, c =>
    let ch := c.peek
    if isQuotedRun ch then
      let (run, c) := c.takeWhile isQuotedRun
      quotedFrom mark steps (text ++ codesOf run) c
    -- Within single quotes, two of them stand for one.
    else if mark == '\'' && ch == '\'' && c.peekAt 1 == '\'' then
      quotedFrom mark steps (text ++ codesOf ['\'']) (c.skip 2)
    else if ch == mark then .ok (text, c.next)
    -- The other quote stands for itself, and within single quotes so does a backslash.
    else if ch == '\'' || ch == '"' || (mark == '\'' && ch == '\\') then
      quotedFrom mark steps (text ++ codesOf [ch]) c.next
    else if ch == '\\' then do
      let (escaped, c) ← escape c.next
      quotedFrom mark steps (text ++ escaped) c
    else
      -- Blanks are part of the text unless a break follows.
      let (spaces, c) := c.takeWhile fun ch => ch == ' ' || ch == '\t'
      if c.peek == eof then refuse
      else if isBreak c.peek then do
        let (br, c) := c.takeBreak
        let (breaks, c) ← orRefuse (takeQuotedBreaks c)
        quotedFrom mark steps (text ++ codesOf (folded br breaks)) c
      else quotedFrom mark steps (text ++ codesOf spaces) c

/-- Takes a text between quotes, with the cursor at the opening one. -/
def quoted (c : Cursor) : Reading (List Nat × Cursor) :=
  quotedFrom c.peek c.steps [] c.next

/-! ## Blocks -/

/-- What becomes of the breaks at the end of a block. -/
inductive Chomping where
  | strip
  | clip
  | keep
  deriving DecidableEq, Repr

/-- What the head of a block says. -/
structure BlockHead where
  chomping : Chomping
  /-- The indentation relative to what surrounds the block. -/
  increment : Option Nat

def chomping? (c : Cursor) : Option (Chomping × Cursor) :=
  if c.peek == '+' then some (.keep, c.next)
  else if c.peek == '-' then some (.strip, c.next)
  else none

/-- Takes an indentation indicator. Zero is none, and is refused. -/
def increment? (c : Cursor) : Option (Option Nat × Cursor) :=
  if c.peek == '0' then none
  else if c.peek.isDigit then some (some (c.peek.toNat - 48), c.next)
  else some (none, c)

/-- Takes the head of a block, with the cursor behind its first character: the two indicators in
either order, and nothing else but a comment. -/
def blockHead (c : Cursor) : Option (BlockHead × Cursor) := do
  let (head, c) ← match chomping? c with
    | some (chomping, c) => do
      let (increment, c) ← increment? c
      some (BlockHead.mk chomping increment, c)
    | none => do
      let (increment, c) ← increment? c
      match increment, chomping? c with
      | some _, some (chomping, c) => some (BlockHead.mk chomping increment, c)
      | _, _ => some (BlockHead.mk .clip increment, c)
  if c.peek == ' ' || isBreakOrEnd c.peek then
    let c := c.skipSpaces.skipComment
    if isBreakOrEnd c.peek then some (head, c.takeBreak.2) else none
  else none

/-- Takes the empty lines before a block, and the widest column among them. -/
def blockIndentation :
    (steps : List Char) → (breaks : List Char) → (widest : Nat) → Cursor → List Char × Nat × Cursor
  | [], breaks, widest, c => (breaks, widest, c)
  | _ :: steps, breaks, widest, c =>
    if c.peek == ' ' then
      let c := c.next
      blockIndentation steps breaks (max widest c.column) c
    else if isBreak c.peek then
      let (br, c) := c.takeBreak
      blockIndentation steps (breaks ++ br) widest c
    else (breaks, widest, c)

/-- Takes empty lines within a block, and the indentation of the line behind them. -/
def blockBreaks (indent : Nat) : (steps : List Char) → List Char → Cursor → List Char × Cursor
  | [], breaks, c => (breaks, c)
  | _ :: steps, breaks, c =>
    let c := c.skipIndent indent
    if isBreak c.peek then
      let (br, c) := c.takeBreak
      blockBreaks indent steps (breaks ++ br) c
    else (breaks, c)

/-- The text of a block with what stands behind its last line. -/
def chomped (chomping : Chomping) (text lineBreak breaks : List Char) : List Char :=
  match chomping with
  | .strip => text
  | .clip => text ++ lineBreak
  | .keep => text ++ lineBreak ++ breaks

/-- Takes the lines of a block. In a folded block the break between two lines that start with no
blank becomes a space. -/
def blockLines (isFolded : Bool) (chomping : Chomping) (indent : Nat) :
    (steps : List Char) → (text lineBreak breaks : List Char) → Cursor → List Char × Cursor
  | [], text, lineBreak, breaks, c => (chomped chomping text lineBreak breaks, c)
  | _ :: steps, text, lineBreak, breaks, c =>
    if c.column == indent && c.peek != eof then
      let startsBlank := c.peek == ' ' || c.peek == '\t'
      let (line, c) := c.takeWhile (!isBreakOrEnd ·)
      let text := text ++ breaks ++ line
      let (lineBreak, c) := c.takeBreak
      let (breaks, c) := blockBreaks indent c.steps [] c
      if c.column == indent && c.peek != eof then
        let joint :=
          if isFolded && lineBreak == ['\n'] && !startsBlank && !(c.peek == ' ' || c.peek == '\t')
          then if breaks.isEmpty then [' '] else []
          else lineBreak
        blockLines isFolded chomping indent steps (text ++ joint) lineBreak breaks c
      else (chomped chomping text lineBreak breaks, c)
    else (chomped chomping text lineBreak breaks, c)

/-- Takes a block, with the cursor at its first character. The block stands within lines that are
indented by `outer`. -/
def block (outer : Int) (c : Cursor) : Option (List Char × Cursor) := do
  let isFolded := c.peek == '>'
  let (head, c) ← blockHead c.next
  let least := (max (outer + 1) 1).toNat
  let (breaks, indent, c) :=
    match head.increment with
    | none =>
      let (breaks, widest, c) := blockIndentation c.steps [] 0 c
      (breaks, max least widest, c)
    | some increment =>
      let indent := least + increment - 1
      let (breaks, c) := blockBreaks indent c.steps [] c
      (breaks, indent, c)
  return blockLines isFolded head.chomping indent c.steps [] [] breaks c

end Micro6502.Yaml
