import UtteranceTemplate.Json.Token

/-!
Reading JSON. The tokens of a text are taken one by one; the arrays and objects that
are open wait in a stack. The leftmost thing that does not fit decides the fault.
-/

namespace UtteranceTemplate

namespace Json

/-- An array or object that is open. -/
inductive Frame
  /-- An array, with the items so far, last one first. -/
  | array (items : List Json)
  /-- An object, with the members so far and the key of the next one. -/
  | object (members : List (Text × Json)) (key : Text)

/-- What may come next. -/
inductive Expectation
  /-- A value. -/
  | value
  /-- A value, or the end of an array that has no items yet. -/
  | valueOrEnd
  /-- A key of an object with these members. -/
  | key (members : List (Text × Json))
  /-- A key, or the end of an object that has no members yet. -/
  | keyOrEnd
  /-- The colon behind a key. -/
  | colon (members : List (Text × Json)) (key : Text)
  /-- A comma behind an item or a member, or the end of what holds it. -/
  | separator
  /-- The end of the text, behind a finished value. -/
  | finish (value : Json)

/-- What is known of a JSON text between two tokens: the arrays and objects that are
open, innermost first, and what may come next. -/
structure Decoder where
  frames : List Frame
  expectation : Expectation

namespace Decoder

/-- Nothing read yet. -/
def start : Decoder := ⟨[], .value⟩

/-- Puts a finished value where it belongs. -/
def complete (frames : List Frame) (value : Json) : Decoder :=
  match frames with
  | [] => ⟨[], .finish value⟩
  | .array items :: outer => ⟨.array (value :: items) :: outer, .separator⟩
  | .object members key :: outer =>
      ⟨.object (Entries.put members key value) key :: outer, .separator⟩

/-- The most arrays and objects that may be open. -/
def depthLimit : Nat := 980

/-- Opens an array or an object inside others. -/
def goInto (frames : List Frame) (isArray : Bool) : Except Fault Decoder :=
  if depthLimit ≤ frames.length then .error (.tooDeep isArray)
  else if isArray then .ok ⟨.array [] :: frames, .valueOrEnd⟩
  else .ok ⟨frames, .keyOrEnd⟩

def takeValue (frames : List Frame) (position : Nat) : Token → Except Fault Decoder
  | .atom value => .ok (complete frames value)
  | .quoted t => .ok (complete frames (.text t))
  | .openBracket => goInto frames true
  | .openBrace => goInto frames false
  | .unreadable fault _ => .error fault
  | _ => .error (.malformed .expectingValue position)

/-- Takes in a token where a key must come. -/
def takeKey (frames : List Frame) (members : List (Text × Json)) (position : Nat) :
    Token → Except Fault Decoder
  | .quoted key => .ok ⟨frames, .colon members key⟩
  | .unreadable fault true => .error fault
  | _ => .error (.malformed .expectingKey position)

def takeSeparator (frames : List Frame) (position : Nat) (token : Token) :
    Except Fault Decoder :=
  match frames, token with
  | .array _ :: _, .comma => .ok ⟨frames, .value⟩
  | .array items :: outer, .closeBracket =>
      .ok (complete outer (.array items.reverse))
  | .object members _ :: outer, .comma => .ok ⟨outer, .key members⟩
  | .object members _ :: outer, .closeBrace => .ok (complete outer (.object members))
  | _, _ => .error (.malformed .expectingComma position)

def step (decoder : Decoder) (position : Nat) (token : Token) :
    Except Fault Decoder :=
  match decoder.expectation, token with
  | .value, _ => takeValue decoder.frames position token
  | .valueOrEnd, .closeBracket => .ok (complete decoder.frames.tail (.array []))
  | .valueOrEnd, _ => takeValue decoder.frames position token
  | .key members, _ => takeKey decoder.frames members position token
  | .keyOrEnd, .closeBrace => .ok (complete decoder.frames (.object []))
  | .keyOrEnd, _ => takeKey decoder.frames [] position token
  | .colon members key, .colon => .ok ⟨.object members key :: decoder.frames, .value⟩
  | .colon _ _, _ => .error (.malformed .expectingColon position)
  | .separator, _ => takeSeparator decoder.frames position token
  | .finish value, .finish => .ok ⟨[], .finish value⟩
  | .finish _, _ => .error (.malformed .extraData position)

def run (decoder : Decoder) : List (Nat × Token) → Except Fault Decoder
  | [] => .ok decoder
  | (position, token) :: rest =>
      match decoder.step position token with
      | .ok decoder => decoder.run rest
      | .error fault => .error fault

end Decoder

/-- The value that a JSON text writes, or its leftmost fault. A byte order
mark is refused. -/
def decode (text : Text) : Except Fault Json :=
  if text.head? = some (.char '\ufeff') then .error (.malformed .byteOrderMark 0)
  else
    match Decoder.start.run (Token.lex text) with
    | .error fault => .error fault
    | .ok decoder =>
        match decoder.expectation with
        | .finish value => .ok value
        | _ => .error (.malformed .expectingValue text.length)

def Reason.message : Reason → String
  | .byteOrderMark => "Unexpected UTF-8 BOM (decode using utf-8-sig)"
  | .expectingValue => "Expecting value"
  | .expectingKey => "Expecting property name enclosed in double quotes"
  | .expectingColon => "Expecting ':' delimiter"
  | .expectingComma => "Expecting ',' delimiter"
  | .extraData => "Extra data"
  | .controlCharacter => "Invalid control character at"
  | .unterminatedText => "Unterminated string starting at"
  | .badEscape => "Invalid \\escape"
  | .badUnicodeEscape => "Invalid \\uXXXX escape"

/-- The words for a whole number with too many digits. -/
def longIntegerMessage (digits : Nat) : Text :=
  ("Exceeds the limit (4300 digits) for integer string conversion: value has ".text ++
    Text.ofNat digits ++
    " digits; use sys.set_int_max_str_digits() to increase the limit".text)

/-- Whether the text is to blame for not being JSON, and not how much of it
is read. -/
def Fault.isMalformed : Fault → Bool
  | .malformed _ _ => true
  | _ => false

/-- The fault in words, with the line, the column and the position in the text. -/
def Fault.message (fault : Fault) (text : Text) : Text :=
  match fault with
  | .longInteger digits => longIntegerMessage digits
  | .tooDeep isArray =>
      "maximum recursion depth exceeded while decoding a JSON ".text ++
        (if isArray then "array".text else "object".text) ++
          " from a unicode string".text
  | .malformed reason position =>
      let lines := Text.cutAt '\n' (text.take position)
      let column := (lines.getLast?.getD []).length + 1
      reason.message.text ++ ": line ".text ++ Text.ofNat lines.length ++
        " column ".text ++ Text.ofNat column ++ " (char ".text ++
          Text.ofNat position ++ ")".text

end Json

end UtteranceTemplate
