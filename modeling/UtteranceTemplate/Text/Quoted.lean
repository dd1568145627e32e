import UtteranceTemplate.Text.Blank
import UtteranceTemplate.Text.Printable

/-!
Quoted texts, the form in which messages and traces show a text or a row of bytes:
between single quotes, or between double quotes if the text holds single quotes and
no double ones. A backslash marks the quote, the backslash itself, the tab, the line
feed, the carriage return, and every character without a shape, which is shown by its
code in two, four or eight hexadecimal digits.
-/

namespace UtteranceTemplate

namespace Text

/-- The last `width` hexadecimal digits of a number, in lower case. -/
def hexadecimal : (width : Nat) → Nat → Text
  | 0, _ => []
  | width + 1, n => hexadecimal width (n / 16) ++ [.char (n % 16).digitChar]

def quoteMark (text : Text) : CodePoint :=
  if text.contains '\'' && !text.contains '"' then '"' else '\''

/-- A character without a shape, by its code. -/
def escapedByCode (n : Nat) : Text :=
  if n < 0x100 then '\\' :: 'x' :: hexadecimal 2 n
  else if n < 0x10000 then '\\' :: 'u' :: hexadecimal 4 n
  else '\\' :: 'U' :: hexadecimal 8 n

/-- A character inside the given quotation marks. -/
def quotedChar (mark : CodePoint) (c : CodePoint) : Text :=
  if c = mark || c = '\\' then ['\\', c]
  else if c = '\t' then ['\\', 't']
  else if c = '\n' then ['\\', 'n']
  else if c = '\r' then ['\\', 'r']
  else if isPrintable c then [c]
  else escapedByCode c.toNat

def quoted (text : Text) : Text :=
  let mark := quoteMark text
  mark :: text.flatMap (quotedChar mark) ++ [mark]

/-- A byte inside the given quotation marks; only the bytes of printable
ASCII have a shape. -/
def quotedByte (mark : CodePoint) (byte : UInt8) : Text :=
  if byte < 0x80 then quotedChar mark (CodePoint.ofNat byte.toNat)
  else escapedByCode byte.toNat

/-- The quoted form of a row of bytes, which a letter b marks as such. -/
def quotedBytes (bytes : List UInt8) : Text :=
  let mark := quoteMark (bytes.map fun byte => CodePoint.ofNat byte.toNat)
  .char 'b' :: mark :: bytes.flatMap (quotedByte mark) ++ [mark]

end Text

end UtteranceTemplate
