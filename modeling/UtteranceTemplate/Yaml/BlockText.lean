import UtteranceTemplate.Yaml.FlowText

/-!
Block scalars: the lines after a header, without their common indentation. The lines
of a literal scalar are kept as they are, and those of a folded one are joined; the
header says what becomes of the line breaks at the end.
-/

namespace UtteranceTemplate

namespace Yaml

/-- What becomes of the line breaks at the end of a block scalar. -/
inductive Chomping
  /-- None is kept. -/
  | strip
  /-- The first one is kept. -/
  | clip
  /-- All are kept. -/
  | keep
  deriving DecidableEq, Repr

/-- The header of a block scalar: what becomes of the line breaks at its end, and the
indentation of its lines if it is given. -/
structure BlockHeader where
  chomping : Chomping
  increment : Option Nat
  deriving DecidableEq, Repr

namespace BlockHeader

/-- The sign of a chomping at the start of a text, and the rest. -/
def readChomping (text : Text) : Option Chomping × Text :=
  match text with
  | '+' :: rest => (some .keep, rest)
  | '-' :: rest => (some .strip, rest)
  | _ => (none, text)

/-- The digit of an indentation at the start of a text, and the rest; zero is
none. -/
def readIncrement (text : Text) : Option (Option Nat × Text) :=
  match text with
  | c :: rest =>
      if c = '0' then none
      else if c.isDigit then some (some (c.toNat - '0'.toNat), rest)
      else some (none, text)
  | [] => some (none, text)

/-- The header at the start of a text and the lines after it; the two signs may come
in either order, and a comment may follow. -/
def read (text : Text) : Option (BlockHeader × Text) := do
  let (before, rest) := readChomping text
  let (increment, rest) ← readIncrement rest
  let (behind, rest) := if before.isNone && increment.isSome then readChomping rest
    else (none, rest)
  if endsAt isSpaceOrBreak rest then
    let rest ← skipLineEnd rest
    some (⟨(before.or behind).getD .clip, increment⟩, rest)
  else none

end BlockHeader

/-- Where the lines of a block scalar begin: the line breaks of the empty lines
before, the column that was reached, and the greatest one. -/
structure BlockStart where
  breaks : Text
  column : Nat
  widest : Nat
  rest : Text

/-- Skips empty lines and spaces as far as they go. -/
def skipIndentation (column widest : Nat) : Text → BlockStart
  | [] => ⟨[], column, widest, []⟩
  | c :: rest =>
      if c = ' ' then skipIndentation (column + 1) (max widest (column + 1)) rest
      else
        match lineBreak? c with
        | none => ⟨[], column, widest, c :: rest⟩
        | some b =>
            let start := skipIndentation 0 widest rest
            { start with breaks := b :: start.breaks }

/-- Skips empty lines, and spaces up to an indentation. -/
def skipEmptyLines (indent column : Nat) : Text → BlockStart
  | [] => ⟨[], column, column, []⟩
  | c :: rest =>
      if c = ' ' && column < indent then skipEmptyLines indent (column + 1) rest
      else
        match lineBreak? c with
        | none => ⟨[], column, column, c :: rest⟩
        | some b =>
            let start := skipEmptyLines indent 0 rest
            { start with breaks := b :: start.breaks }

/-- The lines of a block scalar: the text up to the end of the last line, the line
break there, and those of the empty lines after it. -/
structure BlockLines where
  text : Text
  lastBreak : Text
  breaks : Text
  rest : Text

def startsBlank (text : Text) : Bool :=
  match text with
  | c :: _ => c == ' ' || c == '\t'
  | [] => false

def readBreak (text : Text) : Text × Text :=
  match text with
  | c :: rest =>
      match lineBreak? c with
      | some b => ([b], rest)
      | none => ([], text)
  | [] => ([], text)

/-- Reads the lines from one that starts at the indentation. Every line takes a
character, so the length of the text is fuel enough. -/
def blockLines (folded : Bool) (indent : Nat) :
    (fuel : Nat) → BlockStart → BlockLines
  | 0, start => ⟨start.breaks, [], [], start.rest⟩
  | fuel + 1, start =>
      let line := start.rest.takeWhile (!isBreak ·)
      let (lastBreak, rest) := readBreak (start.rest.dropWhile (!isBreak ·))
      let next := skipEmptyLines indent 0 rest
      if next.column = indent && !next.rest.isEmpty then
        let folds :=
          folded && lastBreak ==
            [.char '\n'] && !startsBlank start.rest && !startsBlank next.rest
        let joint := if !folds then lastBreak
          else if next.breaks.isEmpty then [' '] else []
        let lines := blockLines folded indent fuel next
        { lines with text := start.breaks ++ line ++ joint ++ lines.text }
      else ⟨start.breaks ++ line, lastBreak, next.breaks, next.rest⟩

/-- The block scalar at the start of a text, behind its indicator, and the rest;
`least` is the least indentation of its lines. -/
def blockText (folded : Bool) (least : Nat) (text : Text) : Option (Text × Text) :=
  (BlockHeader.read text).map fun (header, rest) =>
    let (indent, start) :=
      match header.increment with
      | none =>
          let start := skipIndentation 0 0 rest
          (max least start.widest, start)
      | some increment =>
          let indent := least + increment - 1
          (indent, skipEmptyLines indent 0 rest)
    let lines :=
      if start.column = indent && !start.rest.isEmpty then
        blockLines folded indent start.rest.length start
      else ⟨[], [], start.breaks, start.rest⟩
    let ending :=
      match header.chomping with
      | .strip => []
      | .clip => lines.lastBreak
      | .keep => lines.lastBreak ++ lines.breaks
    (lines.text ++ ending, lines.rest)

end Yaml

end UtteranceTemplate
