import Micro6502.Text.CodePoints
import Micro6502.Text.Hex
import Micro6502.Text.Printable

/-!
# Quoted text

Text between single quotes, or between double quotes when it holds a single quote and no double
one. Inside, the backslash and the surrounding quote are escaped, and a code point that is not
printable stands as its short escape or as its number in hexadecimal digits.
-/

namespace Micro6502.Text

/-- The quote that surrounds a text. -/
def quoteFor (text : CodePoints) : Char :=
  if text.codes.contains '\''.toNat && !text.codes.contains '"'.toNat then '"' else '\''

/-- A code point as an escape of the shortest of the three widths that holds it. -/
def codeEscape (code : Nat) : List Char :=
  if code < 0x100 then '\\' :: 'x' :: Hex.digits Hex.smallDigit 2 code
  else if code < 0x10000 then '\\' :: 'u' :: Hex.digits Hex.smallDigit 4 code
  else '\\' :: 'U' :: Hex.digits Hex.smallDigit 8 code

/-- One code point inside quotes. -/
def quoteCode (mark : Char) (code : Nat) : List Char :=
  let c := CodePoints.charOf code
  if c == mark || c == '\\' then ['\\', c]
  else if c == '\t' then ['\\', 't']
  else if c == '\n' then ['\\', 'n']
  else if c == '\r' then ['\\', 'r']
  else if isPrintable code then [c]
  else codeEscape code

def quoted (text : CodePoints) : String :=
  let mark := quoteFor text
  String.ofList (mark :: text.codes.flatMap (quoteCode mark) ++ [mark])

end Micro6502.Text
