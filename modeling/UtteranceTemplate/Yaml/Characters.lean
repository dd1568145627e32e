import UtteranceTemplate.Text.Basic

/-!
The characters of YAML: which may occur, which end a line, and which part one
thing from the next.
-/

namespace UtteranceTemplate

namespace Yaml

/-- Whether a character may occur in a YAML text. -/
def isAllowed (c : CodePoint) : Bool :=
  let n := c.toNat
  n == 0x09 || n == 0x0a || n == 0x0d || (0x20 ≤ n && n ≤ 0x7e) || n == 0x85 ||
    (0xa0 ≤ n && n ≤ 0xfffd) || 0x10000 ≤ n

def lineBreak? (c : CodePoint) : Option CodePoint :=
  if c = '\n' || c = '\u0085' then some '\n'
  else if c = '\u2028' || c = '\u2029' then some c
  else none

def isBreak (c : CodePoint) : Bool := (lineBreak? c).isSome

def isSpaceOrBreak (c : CodePoint) : Bool := c == ' ' || isBreak c

/-- Whether a character is a space or a tab, or ends a line. -/
def isGap (c : CodePoint) : Bool := c == '\t' || isSpaceOrBreak c

/-- Whether a character may be part of an anchor's name. -/
def isNameChar (c : CodePoint) : Bool := c.isAlphanum || c == '-' || c == '_'

/-- Whether a character has a meaning of its own inside flow collections. -/
def isFlowIndicator (c : CodePoint) : Bool :=
  ([',', '[', ']', '{', '}'] : Text).contains c

def endsAt (kind : CodePoint → Bool) : Text → Bool
  | [] => true
  | c :: _ => kind c

/-- Whether a line is a marker between documents, three dashes or three dots. -/
def atMarker (text : Text) : Bool :=
  (text.take 3 == "---".text || text.take 3 == "...".text) &&
    endsAt isGap (text.drop 3)

def hexDigit? (c : CodePoint) : Option Nat :=
  if '0' ≤ c && c ≤ '9' then some (c.toNat - '0'.toNat)
  else if 'a' ≤ c && c ≤ 'f' then some (c.toNat - 'a'.toNat + 10)
  else if 'A' ≤ c && c ≤ 'F' then some (c.toNat - 'A'.toNat + 10)
  else none

def hexNumber? (digits : Text) : Option Nat :=
  digits.foldl (fun n c => n.bind fun n => (hexDigit? c).map (16 * n + ·)) (some 0)

/-- The rest of a line that must hold nothing but spaces and a comment, and
of what follows. -/
def skipLineEnd (text : Text) : Option Text :=
  let rest := text.dropWhile (· == .char ' ')
  let rest :=
    if rest.head? = some (.char '#') then rest.dropWhile (!isBreak ·) else rest
  match rest with
  | [] => some []
  | c :: after => if isBreak c then some after else none

end Yaml

end UtteranceTemplate
