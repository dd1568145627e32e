import UtteranceTemplate.Yaml.Characters
import UtteranceTemplate.Yaml.Fault

/-!
Plain and quoted scalars. Both may run over several lines: a single line break
becomes a space, and of several the first is dropped.
-/

namespace UtteranceTemplate

namespace Yaml

/-- What a line break and the empty lines after it become. -/
def foldBreaks (first : CodePoint) (others : Text) : Text :=
  if first ≠ '\n' then first :: others
  else if others.isEmpty then [' ']
  else others

section Plain

/-- Whether a plain scalar ends before a text, be it at its end or in the
middle of a line. -/
def endsWord (inFlow : Bool) : Text → Bool
  | [] => true
  | c :: rest =>
      isGap c || (inFlow && (isFlowIndicator c || c == '?')) ||
        (c == ':' && endsAt (fun d => isGap d || (inFlow && isFlowIndicator d)) rest)

/-- The word at the start of a plain scalar, and the rest. -/
def plainWord (inFlow : Bool) : Text → Text × Text
  | [] => ([], [])
  | c :: rest =>
      if endsWord inFlow (c :: rest) then ([], c :: rest)
      else
        let (word, rest) := plainWord inFlow rest
        (c :: word, rest)

/-- The empty lines at the start of a text, with the spaces around them, and the
rest; there are none to count if a marker ends them. -/
def plainBreaks : Text → Option Text × Text
  | [] => (some [], [])
  | c :: rest =>
      if c = ' ' then plainBreaks rest
      else
        match lineBreak? c with
        | none => (some [], c :: rest)
        | some b =>
            if atMarker rest then (none, rest)
            else
              let (breaks, rest) := plainBreaks rest
              (breaks.map (b :: ·), rest)

/-- What stands between two words of a plain scalar, by what it stands for: nothing
if no word can follow. -/
structure PlainGap where
  text : Text
  breaksLine : Bool

/-- The gap at the start of a text, and the rest. -/
def plainGap (text : Text) : PlainGap × Text :=
  let spaces := text.takeWhile (· == .char ' ')
  let rest := text.dropWhile (· == .char ' ')
  match rest with
  | [] => (⟨spaces, false⟩, rest)
  | c :: after =>
      match lineBreak? c with
      | none => (⟨spaces, false⟩, rest)
      | some b =>
          if atMarker after then (⟨[], true⟩, after)
          else
            match plainBreaks after with
            | (none, rest) => (⟨[], true⟩, rest)
            | (some breaks, rest) => (⟨foldBreaks b breaks, true⟩, rest)

/-- The column after a part of a text that starts at a column; a byte order
mark has no width. -/
def columnAfter (column : Nat) (part : Text) : Nat :=
  part.foldl (fun column c => if isBreak c then 0 else if c = '\ufeff' then column
    else column + 1) column

/-- The plain scalar at the start of a text, whether its last gap breaks the line,
and the rest. Outside of flow collections its lines must be indented to a column.
Every word takes a character, so the length of the text is fuel enough. -/
def plainWords (inFlow : Bool) (indent : Nat) :
    (fuel column : Nat) → (breaksLine : Bool) →
    (gap text : Text) → Text × Bool × Text
  | 0, _, breaksLine, _, text => ([], breaksLine, text)
  | fuel + 1, column, breaksLine, gap, text =>
      if text.head? = some (.char '#') then ([], breaksLine, text)
      else
        match plainWord inFlow text with
        | ([], _) => ([], breaksLine, text)
        | (word, rest) =>
            let (next, after) := plainGap rest
            let column := columnAfter column (text.upTo after)
            if next.text.isEmpty || (!inFlow && column < indent) then
              (gap ++ word, next.breaksLine, after)
            else
              let (words, breaksLine, rest) :=
                plainWords inFlow indent fuel column next.breaksLine next.text after
              (gap ++ word ++ words, breaksLine, rest)

/-- The plain scalar at the start of a text, whether its last gap breaks the
line, and the rest. -/
def plain (inFlow : Bool) (indent column : Nat) (text : Text) : Text × Bool × Text :=
  plainWords inFlow indent text.length column false [] text

end Plain

section Quoted

/-- The character that a backslash makes of a letter. -/
def escape? (c : CodePoint) : Option CodePoint :=
  match c with
  | '0' => some '\x00'
  | 'a' => some '\x07'
  | 'b' => some '\x08'
  | 't' => some '\t'
  | '\t' => some '\t'
  | 'n' => some '\n'
  | 'v' => some '\x0b'
  | 'f' => some '\x0c'
  | 'r' => some '\r'
  | 'e' => some '\x1b'
  | ' ' => some ' '
  | '"' => some '"'
  | '\\' => some '\\'
  | '/' => some '/'
  | 'N' => some '\u0085'
  | '_' => some '\u00a0'
  | 'L' => some '\u2028'
  | 'P' => some '\u2029'
  | _ => none

/-- The number of hexadecimal digits after a backslash and a letter. -/
def codeLength? (c : CodePoint) : Option Nat :=
  match c with
  | 'x' => some 2
  | 'u' => some 4
  | 'U' => some 8
  | _ => none

/-- The number that the first digits of a text write, and the rest. -/
def code? (length : Nat) (text : Text) : Option (Nat × Text) :=
  if text.length < length then none
  else (hexNumber? (text.take length)).map fun code => (code, text.drop length)

/-- The code point of a code; two halves never join. -/
def charOfCode (code : Nat) : Except Fault CodePoint :=
  if 0x80000000 ≤ code then .error .hugeCode
  else if 0x110000 ≤ code then .error .noCharacter
  else .ok (.ofNat code)

/-- The empty lines at the start of a text, with the blanks around them, and the
rest; nothing if a marker comes at the start of a line. -/
def quotedBreaks (atStart : Bool) : Text → Option (Text × Text)
  | [] => some ([], [])
  | c :: rest =>
      if atStart && atMarker (c :: rest) then none
      else if c = ' ' || c = '\t' then quotedBreaks false rest
      else
        match lineBreak? c with
        | none => some ([], c :: rest)
        | some b =>
            (quotedBreaks true rest).map fun (breaks, rest) => (b :: breaks, rest)

/-- What the gap at the start of a text stands for, and the rest. -/
def quotedGap (text : Text) : Option (Text × Text) :=
  let blanks := text.takeWhile fun c => c == .char ' ' || c == .char '\t'
  match text.dropWhile fun c => c == .char ' ' || c == .char '\t' with
  | [] => none
  | c :: rest =>
      match lineBreak? c with
      | none => some (blanks, c :: rest)
      | some b => (quotedBreaks true rest).map fun (breaks, rest) =>
          (foldBreaks b breaks, rest)

/-- What the escape after a backslash stands for, and the rest. -/
def escaped (text : Text) : Except Fault (Text × Text) :=
  match text with
  | [] => .error .malformed
  | c :: rest =>
      match escape? c, codeLength? c with
      | some plain, _ => .ok ([plain], rest)
      | none, some length =>
          match code? length rest with
          | none => .error .malformed
          | some (code, rest) => (charOfCode code).map fun c => ([c], rest)
      | none, none =>
          if isBreak c then
            match quotedBreaks true rest with
            | none => .error .malformed
            | some (breaks, rest) => .ok (breaks, rest)
          else .error .malformed

/-- The quoted scalar at the start of a text, up to and without its closing
quote, and the rest. Every round takes a character, so the length of the text
is fuel enough. -/
def quotedParts (mark : CodePoint) : (fuel : Nat) → Text → Except Fault (Text × Text)
  | 0, _ => .error .malformed
  | _, [] => .error .malformed
  | fuel + 1, c :: rest =>
      let goOn (part rest : Text) : Except Fault (Text × Text) :=
        (quotedParts mark fuel rest).map fun (text, rest) => (part ++ text, rest)
      if c = mark then
        match mark, rest with
        | '\'', '\'' :: after => goOn ['\''] after
        | _, _ => .ok ([], rest)
      else if c = '\\' && mark = '"' then
        match escaped rest with
        | .error fault => .error fault
        | .ok (part, rest) => goOn part rest
      else if isGap c then
        match quotedGap (c :: rest) with
        | none => .error .malformed
        | some (part, rest) => goOn part rest
      else goOn [c] rest

/-- The quoted scalar at the start of a text, behind its opening quote, and
the rest. -/
def quoted (mark : CodePoint) (text : Text) : Except Fault (Text × Text) :=
  quotedParts mark (text.length + 1) text

end Quoted

end Yaml

end UtteranceTemplate
