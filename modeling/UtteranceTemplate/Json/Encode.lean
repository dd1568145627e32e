import UtteranceTemplate.Decimal.Notation
import UtteranceTemplate.Json.Decode
import UtteranceTemplate.Text.Quoted

/-!
Writing JSON in ASCII. A quote and a backslash get a backslash in front, five
controls have a letter of their own, and every other character outside printable
ASCII is written by its UTF-16 units.

A whole number with more digits than are read is not written either, nor is an array
or an object that would lie too deep to be read.
-/

namespace UtteranceTemplate

namespace Json

/-- One UTF-16 unit as an escape. -/
def escapedUnit (n : Nat) : Text := '\\' :: 'u' :: Text.hexadecimal 4 n

/-- A character inside quotes. -/
def encodeChar (c : CodePoint) : Text :=
  let n := c.toNat
  if c = '"' || c = '\\' then ['\\', c]
  else if c = '\n' then ['\\', 'n']
  else if c = '\r' then ['\\', 'r']
  else if c = '\t' then ['\\', 't']
  else if n = 0x0c then ['\\', 'f']
  else if n = 0x08 then ['\\', 'b']
  else if 0x20 ≤ n && n ≤ 0x7e then [c]
  else if n < 0x10000 then escapedUnit n
  else
    escapedUnit (0xd800 + (n - 0x10000) / 0x400) ++
      escapedUnit (0xdc00 + (n - 0x10000) % 0x400)

def encodeText (text : Text) : Text :=
  .char '"' :: text.flatMap encodeChar ++ [.char '"']

/-- A floating-point number; the three that JSON lacks are written by their names. -/
def encodeFloat (x : Float) : Text :=
  Decimal.textOfFloat "Infinity".text "NaN".text x

/-- The break before a line that is indented by a number of levels of two spaces. -/
def lineBreak (level : Nat) : Text := '\n' :: List.replicate (2 * level) ' '

/-- Written items or members between brackets, each on a line of its own one level
deeper than the brackets; nothing stands between the brackets if there are none. -/
def block (level : Nat) (first last : CodePoint) (parts : List Text) : Text :=
  if parts.isEmpty then [first, last]
  else
    first :: lineBreak (level + 1) ++
      joinWith (.char ',' :: lineBreak (level + 1)) parts ++
      lineBreak level ++ [last]

mutual

/-- A value over several lines, from a place at a level of indentation. -/
def indented (level : Nat) : Json → Text
  | .null => "null".text
  | .bool b => if b then "true".text else "false".text
  | .int n => Text.ofInt n
  | .float x => encodeFloat x
  | .text t => encodeText t
  | .array items => block level '[' ']' (indentedItems (level + 1) items)
  | .object members => block level '{' '}' (indentedMembers (level + 1) members)

def indentedItems (level : Nat) : List Json → List Text
  | [] => []
  | item :: rest => indented level item :: indentedItems level rest

def indentedMembers (level : Nat) : List (Text × Json) → List Text
  | [] => []
  | (key, value) :: rest =>
      (encodeText key ++ .char ':' :: .char ' ' :: indented level value) ::
        indentedMembers level rest

end

/-- A value over several lines. -/
def encode (json : Json) : Text := indented 0 json

/-- Why a value cannot be written. -/
inductive EncodeFault
  /-- A whole number has too many digits. -/
  | longInteger
  /-- An array or an object lies too deep. -/
  | tooDeep
  deriving DecidableEq, Repr

mutual

/-- What is wrong with a value that lies inside a number of arrays and objects, if it
cannot be written: its first fault in the order of writing. -/
def encodeFault? (depth : Nat) : Json → Option EncodeFault
  | .int n =>
      if Token.digitLimit < (Text.ofNat n.natAbs).length then some .longInteger
      else none
  | .array items =>
      if Decoder.depthLimit ≤ depth then some .tooDeep
      else itemsFault? (depth + 1) items
  | .object members =>
      if Decoder.depthLimit ≤ depth then some .tooDeep
      else membersFault? (depth + 1) members
  | .null | .bool _ | .float _ | .text _ => none

def itemsFault? (depth : Nat) : List Json → Option EncodeFault
  | [] => none
  | item :: rest => (encodeFault? depth item).or (itemsFault? depth rest)

def membersFault? (depth : Nat) : List (Text × Json) → Option EncodeFault
  | [] => none
  | (_, value) :: rest => (encodeFault? depth value).or (membersFault? depth rest)

end

def EncodeFault.message : EncodeFault → Text
  | .longInteger =>
      "Exceeds the limit (4300 digits) for integer string conversion; ".text ++
        "use sys.set_int_max_str_digits() to increase the limit".text
  | .tooDeep => "maximum recursion depth exceeded while calling a Python object".text

end Json

end UtteranceTemplate
