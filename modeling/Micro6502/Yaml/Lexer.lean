import Micro6502.Yaml.Scalar
import Micro6502.Yaml.Token

/-!
# Cutting a text into tokens

The lexer keeps the indentation of the open block collections, the number of open brackets, and
for each depth of brackets the place of the last token that could turn out to be a key. When a
colon follows on the same line, a key token is put in front of that place. A token in front of which
a key token may still come is not settled yet, and where the text has a flaw, it is lost.

## Contents

- `Lexer`, the state, with `saveKey`, `dropKey` and `dropStaleKeys`
- one function for each kind of token
- `Tokens`, the settled tokens and the flaw behind them, and `tokensOf`
-/

namespace Micro6502.Yaml

/-! ## State -/

/-- A token that may turn out to be a key. -/
structure PossibleKey where
  /-- The number of tokens before it. -/
  place : Nat
  /-- Nothing but a key can stand here. -/
  isRequired : Bool
  index : Nat
  line : Nat
  column : Nat

/-- The state of the lexer. -/
structure Lexer where
  cursor : Cursor
  /-- The tokens so far, the last one first. -/
  tokens : List Token
  count : Nat
  /-- The number of open brackets. It falls below zero if too many are closed. -/
  depth : Int
  /-- The column of the innermost block collection. -/
  indent : Int
  /-- The columns of the collections around it. -/
  outer : List Int
  /-- Whether a key may start here. -/
  allowsKey : Bool
  /-- The possible keys by depth. -/
  possible : List (Int × PossibleKey)

namespace Lexer

/-- The lexer at the start of a text. -/
def start (text : List Char) : Lexer where
  cursor := Cursor.start text
  tokens := []
  count := 0
  depth := 0
  indent := -1
  outer := []
  allowsKey := true
  possible := []

def inFlow (l : Lexer) : Bool := l.depth != 0

def push (l : Lexer) (t : Token) : Lexer := { l with tokens := t :: l.tokens, count := l.count + 1 }

/-- Adds a token of some characters. -/
def pushOver (l : Lexer) (t : Token) (n : Nat) : Lexer :=
  { l.push t with cursor := l.cursor.skip n }

/-- Adds a token behind the first `place` tokens. -/
def insert (l : Lexer) (place : Nat) (t : Token) : Lexer :=
  { l with tokens := l.tokens.insertIdx (l.count - place) t, count := l.count + 1 }

/-! ## Possible keys -/

/-- Whether the colon of a key can no longer come: it has to come on the same line and within 1024
characters. -/
def isStale (l : Lexer) (key : PossibleKey) : Bool :=
  key.line != l.cursor.line || 1024 < l.cursor.index - key.index

/-- Forgets keys whose colon can no longer come. A required key is missed. -/
def dropStaleKeys (l : Lexer) : Reading Lexer :=
  if l.possible.any fun (_, key) => l.isStale key && key.isRequired then refuse
  else .ok { l with possible := l.possible.filter fun (_, key) => !l.isStale key }

/-- Forgets the possible key of this depth. A required key is missed. -/
def dropKey (l : Lexer) : Reading Lexer :=
  match l.possible.lookup l.depth with
  | none => .ok l
  | some key =>
    if key.isRequired then refuse
    else .ok { l with possible := l.possible.filter fun (depth, _) => depth != l.depth }

/-- Keeps in mind that the next token may be a key. -/
def saveKey (l : Lexer) : Reading Lexer :=
  if l.allowsKey then do
    let l ← l.dropKey
    let key : PossibleKey :=
      { place := l.count
        isRequired := !l.inFlow && l.indent == (l.cursor.column : Int)
        index := l.cursor.index
        line := l.cursor.line
        column := l.cursor.column }
    return { l with possible := (l.depth, key) :: l.possible }
  else .ok l

/-- The tokens in front of which no key token can come any more. -/
def settled (l : Lexer) : List Token :=
  let pending := l.possible.filter fun (_, key) => !l.isStale key
  l.tokens.reverse.take (pending.foldl (fun least (_, key) => min least key.place) l.count)

/-! ## Indentation -/

/-- Ends the innermost block collections from `indent` outwards that are indented by more than a
column. -/
def close (column : Int) (l : Lexer) (indent : Int) : List Int → Lexer
  | [] => { l with indent := indent, outer := [] }
  | next :: outer =>
    if column < indent then close column (l.push .blockEnd) next outer
    else { l with indent := indent, outer := next :: outer }

/-- Ends block collections that are indented by more than a column. -/
def unwind (column : Int) (l : Lexer) : Lexer :=
  if l.inFlow then l else close column l l.indent l.outer

/-- Starts a block collection at a column, if the column is further in. The token goes to the given
place. -/
def indentTo (l : Lexer) (column : Nat) (place : Nat) (t : Token) : Lexer :=
  if l.indent < (column : Int) then
    { l.insert place t with outer := l.indent :: l.outer, indent := column }
  else l

/-! ## Between tokens -/

/-- Moves over spaces, comments and line breaks. -/
def skipToToken : (steps : List Char) → Lexer → Lexer
  | [], l => l
  | _ :: steps, l =>
    let c := l.cursor.skipSpaces.skipComment
    if isBreak c.peek then
      skipToToken steps
        { l with cursor := c.takeBreak.2, allowsKey := l.allowsKey || !l.inFlow }
    else { l with cursor := c }

/-- Moves over a byte order mark at the start. -/
def skipByteOrderMark (l : Lexer) : Lexer :=
  if l.cursor.index == 0 && l.cursor.peek == '\uFEFF' then { l with cursor := l.cursor.next } else l

/-! ## Directives and tags -/

/-- Takes decimal digits. There is one at least, and not too many. -/
def number (c : Cursor) : Reading (Nat × Cursor) :=
  let (digits, c) := c.takeWhile Char.isDigit
  if digits.isEmpty then refuse
  else if Decimal.maxDigits < digits.length then .error (.tooManyDigits digits.length)
  else .ok (digits.foldl (fun n d => 10 * n + (d.toNat - 48)) 0, c)

/-- Whether a character may be part of a tag. -/
def isTagChar (c : Char) : Bool := c.isAlphanum || "-;/?:@&=+$,_.!~*'()[]%".toList.contains c

/-- Takes the bytes that follow as percent signs with two digits each. -/
def percentBytes : (steps : List Char) → Array UInt8 → Cursor → Option (Array UInt8 × Cursor)
  | [], bytes, c => some (bytes, c)
  | _ :: steps, bytes, c =>
    if c.peek == '%' then do
      let code ← hexValue? [c.peekAt 1, c.peekAt 2]
      percentBytes steps (bytes.push (UInt8.ofNat code)) (c.skip 3)
    else some (bytes, c)

def tagText : (steps : List Char) → List Char → Cursor → Option (List Char × Cursor)
  | [], text, c => some (text, c)
  | _ :: steps, text, c =>
    if c.peek == '%' then do
      let (bytes, c) ← percentBytes c.steps #[] c
      let decoded ← String.fromUTF8? ⟨bytes⟩
      tagText steps (text ++ decoded.toList) c
    else if isTagChar c.peek then tagText steps (text ++ [c.peek]) c.next
    else some (text, c)

/-- Takes the characters of a tag. There is one at least. -/
def tagText? (c : Cursor) : Option (String × Cursor) := do
  let (text, after) ← tagText c.steps [] c
  if after.index == c.index then none else some (String.ofList text, after)

/-- Takes a tag handle: one exclamation mark, or a name between two. -/
def tagHandle? (c : Cursor) : Option (String × Cursor) :=
  if c.peek != '!' then none
  else if c.peekAt 1 == ' ' then some ("!", c.next)
  else
    let (name, c) := c.next.takeWhile isNameChar
    if c.peek == '!' then some (String.ofList ('!' :: name ++ ['!']), c.next) else none

/-- Whether a directive may end before a character. -/
def endsDirective (ch : Char) : Bool := ch == ' ' || isBreakOrEnd ch

/-- Takes a directive, with the cursor behind the percent sign. -/
def directive (c : Cursor) : Reading (Token × Cursor) := do
  let (name, c) := c.takeWhile isNameChar
  if name.isEmpty || !endsDirective c.peek then
    refuse
  else
    let (t, c) ←
      if name == "YAML".toList then do
        let (major, c) ← number c.skipSpaces
        if c.peek != '.' then refuse
        else
          -- The minor version is read, but it does not matter.
          let (_, c) ← number c.next
          if endsDirective c.peek then pure (Token.versionDirective major, c) else refuse
      else if name == "TAG".toList then do
        let (handle, c) ← orRefuse (tagHandle? c.skipSpaces)
        if c.peek != ' ' then refuse
        else
          let (start, c) ← orRefuse (tagText? c.skipSpaces)
          if endsDirective c.peek then pure (Token.tagDirective handle start, c) else refuse
      else pure (Token.reservedDirective, c.skipWhile (!isBreakOrEnd ·))
    let c := c.skipSpaces.skipComment
    if isBreakOrEnd c.peek then return (t, c.takeBreak.2) else refuse

/-- Whether an exclamation mark comes before the end of the word. -/
def hasHandle : List Char → Bool
  | [] => false
  | ch :: rest => if ch == ' ' || isBreakOrEnd ch then false else ch == '!' || hasHandle rest

/-- Takes a tag, with the cursor at its exclamation mark. -/
def tag? (c : Cursor) : Option (TagName × Cursor) := do
  let (name, c) ←
    -- In angle brackets a name is complete; all others are put behind what their handle means.
    if c.peekAt 1 == '<' then do
      let (suffix, c) ← tagText? (c.skip 2)
      if c.peek == '>' then some (TagName.mk none suffix, c.next) else none
    else if isGap (c.peekAt 1) then some (TagName.mk none "!", c.next)
    else if hasHandle (c.rest.drop 1) then do
      let (handle, c) ← tagHandle? c
      let (suffix, c) ← tagText? c
      some (TagName.mk (some handle) suffix, c)
    else do
      let (suffix, c) ← tagText? c.next
      some (TagName.mk (some "!") suffix, c)
  if c.peek == ' ' || isBreakOrEnd c.peek then some (name, c) else none

/-- Takes the name of an anchor or an alias, with the cursor at its indicator. -/
def anchorName? (c : Cursor) : Option (String × Cursor) :=
  let (name, c) := c.next.takeWhile isNameChar
  if name.isEmpty then none
  else if isGap c.peek || "?:,]\x7d%@`".toList.contains c.peek then some (String.ofList name, c)
  else none

/-! ## The kinds of tokens -/

/-- A directive or a separator of documents ends all block collections. -/
def endBlocks (l : Lexer) : Reading Lexer := do
  let l ← (l.unwind (-1)).dropKey
  return { l with allowsKey := false }

def takeDirective (l : Lexer) : Reading Lexer := do
  let l ← l.endBlocks
  let (t, c) ← directive l.cursor.next
  return { l.push t with cursor := c }

def takeSeparator (l : Lexer) (t : Token) : Reading Lexer := do
  let l ← l.endBlocks
  return l.pushOver t 3

def takeOpening (l : Lexer) (t : Token) : Reading Lexer := do
  let l ← l.saveKey
  return { l.pushOver t 1 with depth := l.depth + 1, allowsKey := true }

def takeClosing (l : Lexer) (t : Token) : Reading Lexer := do
  let l ← l.dropKey
  return { l.pushOver t 1 with depth := l.depth - 1, allowsKey := false }

/-- Takes a comma. -/
def takeFlowEntry (l : Lexer) : Reading Lexer := do
  let l ← l.dropKey
  return { l.pushOver .flowEntry 1 with allowsKey := true }

/-- Starts a block collection here, where one may start. -/
def openBlock (l : Lexer) (t : Token) : Reading Lexer :=
  if l.inFlow then .ok l
  else if l.allowsKey then .ok (l.indentTo l.cursor.column l.count t)
  else refuse

/-- Takes the dash of a sequence. -/
def takeBlockEntry (l : Lexer) : Reading Lexer := do
  let l ← l.openBlock .blockSequenceStart
  let l ← l.dropKey
  return { l.pushOver .blockEntry 1 with allowsKey := true }

/-- Takes the question mark of a key. -/
def takeKey (l : Lexer) : Reading Lexer := do
  let l ← l.openBlock .blockMappingStart
  let l ← l.dropKey
  return { l.pushOver .key 1 with allowsKey := !l.inFlow }

/-- Takes a colon. If there is a possible key, it is one. -/
def takeValue (l : Lexer) : Reading Lexer :=
  match l.possible.lookup l.depth with
  | some key =>
    -- The key token goes in front of the key, and the start of a mapping in front of that.
    let l := { l.insert key.place .key with
      possible := l.possible.filter fun (depth, _) => depth != l.depth }
    let l := if l.inFlow then l else l.indentTo key.column key.place .blockMappingStart
    .ok { l.pushOver .value 1 with allowsKey := false }
  | none => do
    let l ← l.openBlock .blockMappingStart
    let l ← l.dropKey
    return { l.pushOver .value 1 with allowsKey := !l.inFlow }

/-- Takes a token that may be a key and that is made from some characters. -/
def takeNode (l : Lexer) (make : Cursor → Reading (Token × Cursor)) : Reading Lexer := do
  let l ← l.saveKey
  let (t, c) ← make l.cursor
  return { l.push t with cursor := c, allowsKey := false }

def takeBlock (l : Lexer) : Reading Lexer := do
  let l ← l.dropKey
  let (text, c) ← orRefuse (block l.indent l.cursor)
  return { l.push (.scalar ⟨codesOf text⟩ false) with cursor := c, allowsKey := true }

def takePlain (l : Lexer) : Reading Lexer := do
  let l ← l.saveKey
  let (taken, c) := plain (l.indent + 1) l.inFlow l.cursor
  return { l.push (.scalar ⟨codesOf taken.text⟩ true) with
    cursor := c
    allowsKey := taken.overBreak }

/-- Whether a plain text may start with a character, in view of the one behind it. -/
def startsPlain (inFlow : Bool) (c follower : Char) : Bool :=
  !(isGap c || "-?:,[]\x7b\x7d#&*!|>'\"%@`".toList.contains c)
    || (!isGap follower && (c == '-' || (!inFlow && (c == '?' || c == ':'))))

/-! ## All tokens -/

/-- Takes the next token, with the cursor at its first character. -/
def takeToken (l : Lexer) : Reading Lexer :=
  let c := l.cursor.peek
  let follower := l.cursor.peekAt 1
  if c == '%' && l.cursor.column == 0 then l.takeDirective
  else if l.cursor.column == 0 && l.cursor.atMarks '-' then l.takeSeparator .documentStart
  else if l.cursor.column == 0 && l.cursor.atMarks '.' then l.takeSeparator .documentEnd
  else if c == '[' then l.takeOpening .flowSequenceStart
  else if c == '\x7b' then l.takeOpening .flowMappingStart
  else if c == ']' then l.takeClosing .flowSequenceEnd
  else if c == '\x7d' then l.takeClosing .flowMappingEnd
  else if c == ',' then l.takeFlowEntry
  -- These three are indicators only where a gap follows, the last two also within brackets.
  else if c == '-' && isGap follower then l.takeBlockEntry
  else if c == '?' && (l.inFlow || isGap follower) then l.takeKey
  else if c == ':' && (l.inFlow || isGap follower) then l.takeValue
  else if c == '*' then
    l.takeNode fun c => (orRefuse (anchorName? c)).map fun (name, c) => (.alias name, c)
  else if c == '&' then
    l.takeNode fun c => (orRefuse (anchorName? c)).map fun (name, c) => (.anchor name, c)
  else if c == '!' then
    l.takeNode fun c => (orRefuse (tag? c)).map fun (name, c) => (.tag name, c)
  else if (c == '|' || c == '>') && !l.inFlow then l.takeBlock
  else if c == '\'' || c == '"' then
    l.takeNode fun c => (quoted c).map fun (text, c) => (.scalar ⟨text⟩ false, c)
  else if startsPlain l.inFlow c follower then l.takePlain
  else refuse

/-- Takes the tokens up to the next one that has characters. At the end of the text there is none,
and the second part of the result is set. -/
def advance (l : Lexer) : Reading (Lexer × Bool) := do
  let l ← (l.skipToToken l.cursor.steps).dropStaleKeys
  let l := l.unwind l.cursor.column
  if l.cursor.rest.isEmpty then
    let l ← (l.unwind (-1)).dropKey
    return (l, true)
  else
    let l ← l.takeToken
    return (l, false)

end Lexer

/-- The tokens that can be told from a text, and the flaw that lies behind them, if there is one. -/
structure Tokens where
  settled : List Token
  flaw : Option Flaw

/-- Takes tokens up to the end of the text. -/
def tokensFrom : (limit : Nat) → Lexer → Tokens
  | 0, l => ⟨l.settled, some .malformed⟩
  | limit + 1, l =>
    match l.advance with
    | .error flaw => ⟨l.settled, some flaw⟩
    | .ok (l, true) => ⟨l.tokens.reverse, none⟩
    | .ok (l, false) => tokensFrom limit l

/-- The tokens of a text. Every token but those of the indentation takes a character, so that the
text bounds their number. -/
def tokensOf (text : List Char) : Tokens :=
  if text.all isAllowed then
    tokensFrom (text.length + 1) (Lexer.start text).skipByteOrderMark
  else ⟨[], some .malformed⟩

end Micro6502.Yaml
