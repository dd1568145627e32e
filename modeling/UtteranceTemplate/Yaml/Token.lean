import UtteranceTemplate.Decimal.Notation
import UtteranceTemplate.Text.Utf8
import UtteranceTemplate.Yaml.BlockText

/-!
The units of a YAML text, and how those are read that the indentation has no
influence on: names of anchors, tags and directives.
-/

namespace UtteranceTemplate

namespace Yaml

/-- The units of a YAML text. -/
inductive Token
  /-- The version of YAML that a document asks for, by its major number. -/
  | version (major : Nat)
  /-- A shorthand for the beginnings of tags. -/
  | shorthand (handle expansion : Text)
  /-- A directive that means nothing. -/
  | directive
  | documentStart
  | documentEnd
  | openBlockSequence
  | openBlockMapping
  | closeBlock
  | openSequence
  | closeSequence
  | openMapping
  | closeMapping
  /-- The dash before an item. -/
  | item
  /-- The comma between items. -/
  | comma
  /-- The place where a key starts. -/
  | key
  /-- The colon before a value. -/
  | value
  | alias (name : Text)
  | anchor (name : Text)
  /-- A tag by the handle of a shorthand and an ending, or by the ending alone. -/
  | tag (handle : Option Text) (ending : Text)
  | scalar (text : Text) (isPlain : Bool)
  /-- The end of the text. -/
  | finish
  deriving DecidableEq, Repr

/-- The name of an anchor at the start of a text, and the rest. -/
def anchorName (text : Text) : Option (Text × Text) :=
  let name := text.takeWhile isNameChar
  let rest := text.dropWhile isNameChar
  let ends := endsAt (fun c =>
    isGap c || (['?', ':', ',', ']', '}', '%', '@', '\x60'] : Text).contains c) rest
  if !name.isEmpty && ends then some (name, rest) else none

section Tags

def isTagChar (c : CodePoint) : Bool :=
  c.isAlphanum ||
    (['-', ';', '/', '?', ':', '@', '&', '=', '+', '$', ',', '_', '.', '!', '~',
      '*', '\'', '(', ')', '[', ']'] : Text).contains c

/-- The text of bytes that were written by their numbers. -/
def textOfBytes (bytes : List UInt8) : Option Text := (Utf8.decode bytes).toOption

/-- The characters of a tag at the start of a text, and the rest; `bytes` were
written by their numbers just before. -/
def tagChars (bytes : List UInt8) : Text → Option (Text × Text)
  | '%' :: a :: b :: rest => do
      let n ← hexNumber? [a, b]
      tagChars (bytes ++ [n.toUInt8]) rest
  | '%' :: _ => none
  | c :: rest => do
      let before ← textOfBytes bytes
      if isTagChar c then
        let (chars, rest) ← tagChars [] rest
        some (before ++ c :: chars, rest)
      else some (before, c :: rest)
  | [] => do
      let before ← textOfBytes bytes
      some (before, [])

/-- The ending of a tag at the start of a text, and the rest. -/
def tagEnding (text : Text) : Option (Text × Text) :=
  (tagChars [] text).filter fun (ending, _) => !ending.isEmpty

/-- The handle at the start of a text, and the rest: an exclamation mark, two of
them, or two around a name. One alone is a handle only before a space. -/
def tagHandle (text : Text) : Option (Text × Text) :=
  match text with
  | '!' :: rest =>
      if rest.head? = some (.char ' ') then some (['!'], rest)
      else
        match rest.dropWhile isNameChar with
        | '!' :: after =>
            some (.char '!' :: rest.takeWhile isNameChar ++ [.char '!'], after)
        | _ => none
  | _ => none

def tagParts (text : Text) : Option (Token × Text) :=
  match text with
  | '<' :: rest => do
      let (ending, rest) ← tagEnding rest
      match rest with
      | '>' :: rest => some (.tag none ending, rest)
      | _ => none
  | _ =>
      if endsAt isGap text then some (.tag none ['!'], text)
      else if (text.takeWhile (!isSpaceOrBreak ·)).contains '!' then do
        let (handle, rest) ← tagHandle ('!' :: text)
        let (ending, rest) ← tagEnding rest
        some (.tag (some handle) ending, rest)
      else do
        let (ending, rest) ← tagEnding text
        some (.tag (some ['!']) ending, rest)

/-- The tag at the start of a text, behind its exclamation mark, and the rest. -/
def tagToken (text : Text) : Option (Token × Text) :=
  (tagParts text).filter fun (_, rest) => endsAt isSpaceOrBreak rest

end Tags

section Directives

def skipSpaces (text : Text) : Text := text.dropWhile (· == ' ')

/-- The number at the start of a text, and the rest. -/
def versionNumber (text : Text) : Except Fault (Nat × Text) :=
  let digits := text.takeWhile CodePoint.isDigit
  if digits.isEmpty then .error .malformed
  else if 4300 < digits.length then .error (.longInteger digits.length)
  else .ok (Decimal.ofDigits digits, text.dropWhile CodePoint.isDigit)

/-- The version in a directive, and the rest. -/
def versionToken (text : Text) : Except Fault (Token × Text) := do
  let (major, rest) ← versionNumber (skipSpaces text)
  match rest with
  | '.' :: rest => do
      let (_, rest) ← versionNumber rest
      if endsAt isSpaceOrBreak rest then .ok (.version major, rest)
      else .error .malformed
  | _ => .error .malformed

/-- The shorthand in a directive, and the rest. -/
def shorthandToken (text : Text) : Option (Token × Text) := do
  let (handle, rest) ← tagHandle (skipSpaces text)
  if rest.head? = some (.char ' ') then
    let (expansion, rest) ← tagEnding (skipSpaces rest)
    if endsAt isSpaceOrBreak rest then some (.shorthand handle expansion, rest)
    else none
  else none

/-- The directive at the start of a text, behind its percent sign, and the
lines after it. -/
def directiveToken (text : Text) : Except Fault (Token × Text) :=
  let name := text.takeWhile isNameChar
  let rest := text.dropWhile isNameChar
  if name.isEmpty || !endsAt isSpaceOrBreak rest then .error .malformed
  else
    let read : Except Fault (Token × Text) :=
      if name = "YAML".text then versionToken rest
      else if name = "TAG".text then
        match shorthandToken rest with
        | some result => .ok result
        | none => .error .malformed
      else .ok (.directive, rest.dropWhile (!isBreak ·))
    match read with
    | .error fault => .error fault
    | .ok (token, rest) =>
        match skipLineEnd rest with
        | some rest => .ok (token, rest)
        | none => .error .malformed

end Directives

end Yaml

end UtteranceTemplate
