/-!
# Positions in a text

A cursor is what is left of a text, with the line and the column reached. Behind the end of the
text stands the character NUL, which no text holds.

## Contents

- classes of characters: breaks between lines, and what may follow an indicator
- `Cursor`, with `steps`, `peek`, `skip` and `takeWhile`
- `Cursor.takeBreak`, `Cursor.skipSpaces` and `Cursor.skipComment`
-/

namespace Micro6502.Yaml

/-! ## Characters -/

/-- The character behind the end. -/
def eof : Char := '\x00'

def isBreak (c : Char) : Bool :=
  c == '\r' || c == '\n' || c == '\x85' || c == '\u2028' || c == '\u2029'

/-- Whether a character ends a line or is behind the end. -/
def isBreakOrEnd (c : Char) : Bool := c == eof || isBreak c

/-- Whether a character may follow an indicator: space, tab, break or end. -/
def isGap (c : Char) : Bool := c == ' ' || c == '\t' || isBreakOrEnd c

/-- Whether a character may be part of the name of an anchor. -/
def isNameChar (c : Char) : Bool := c.isAlphanum || c == '-' || c == '_'

def isAllowed (c : Char) : Bool :=
  let n := c.toNat
  n == 0x09 || n == 0x0A || n == 0x0D || (0x20 ≤ n && n ≤ 0x7E) || n == 0x85 ||
    (0xA0 ≤ n && n ≤ 0xD7FF) || (0xE000 ≤ n && n ≤ 0xFFFD) || 0x10000 ≤ n

/-! ## Cursors -/

/-- A position in a text. -/
structure Cursor where
  rest : List Char
  index : Nat
  line : Nat
  column : Nat

namespace Cursor

def start (text : List Char) : Cursor := ⟨text, 0, 0, 0⟩

/-- One step for every character that is left, and one more, which bounds what takes a character in
each step but the last. -/
def steps (c : Cursor) : List Char := eof :: c.rest

def peek (c : Cursor) : Char := c.rest.headD eof

/-- The character `k` places ahead. -/
def peekAt (c : Cursor) (k : Nat) : Char := c.rest.getD k eof

/-- Moves over one character. A carriage return before a line feed ends no line by itself, and a
byte order mark takes no column. -/
def next (c : Cursor) : Cursor :=
  match c.rest with
  | [] => c
  | ch :: rest =>
    if isBreak ch && !(ch == '\r' && rest.head? == some '\n') then
      ⟨rest, c.index + 1, c.line + 1, 0⟩
    else if ch == '\uFEFF' then ⟨rest, c.index + 1, c.line, c.column⟩
    else ⟨rest, c.index + 1, c.line, c.column + 1⟩

def skip (c : Cursor) : Nat → Cursor
  | 0 => c
  | n + 1 => c.next.skip n

def take (c : Cursor) (n : Nat) : List Char × Cursor := (c.rest.take n, c.skip n)

/-- Takes characters of a class as long as there are some. -/
def takeWhile (c : Cursor) (p : Char → Bool) : List Char × Cursor :=
  c.take (c.rest.takeWhile p).length

def skipWhile (c : Cursor) (p : Char → Bool) : Cursor := (c.takeWhile p).2

def skipSpaces (c : Cursor) : Cursor := c.skipWhile (· == ' ')

/-- Moves over a comment, if there is one here. -/
def skipComment (c : Cursor) : Cursor :=
  if c.peek == '#' then c.skipWhile (!isBreakOrEnd ·) else c

/-- Takes one line break, if there is one. All breaks but the two of Unicode become line feeds. -/
def takeBreak (c : Cursor) : List Char × Cursor :=
  let ch := c.peek
  if ch == '\r' && c.peekAt 1 == '\n' then (['\n'], c.skip 2)
  else if ch == '\r' || ch == '\n' || ch == '\x85' then (['\n'], c.next)
  else if ch == '\u2028' || ch == '\u2029' then ([ch], c.next)
  else ([], c)

def skipIndent (c : Cursor) (indent : Nat) : Cursor :=
  c.skip (min (indent - c.column) (c.rest.takeWhile (· == ' ')).length)

/-- Whether three marks that separate documents stand here. -/
def atMarks (c : Cursor) (mark : Char) : Bool :=
  c.rest.take 3 == [mark, mark, mark] && isGap (c.peekAt 3)

/-- Whether a separator of documents stands here. -/
def atSeparator (c : Cursor) : Bool := c.atMarks '-' || c.atMarks '.'

end Cursor

end Micro6502.Yaml
