import UtteranceTemplate.Text.Basic

/-!
The written form of patterns, token by token: `Token.text` writes a token and
`Token.lex` cuts a pattern text into tokens with their positions.

A pattern text holds literal characters, captures `(…)`, groups `(?:…)`, branches
separated by a bar, a question mark after what is optional, and `.+?` for free text.
A backslash makes the next character literal. A brace is a literal character unless
it counts repetitions; counted repetitions and all other operators are refused.
-/

namespace UtteranceTemplate

namespace Pattern

/-- What makes a pattern text unreadable, with the position where it shows. -/
inductive Fault
  /-- A group is not closed; the position is that of its opening. -/
  | unclosedGroup (position : Nat)
  /-- A closing parenthesis closes nothing. -/
  | unopenedGroup (position : Nat)
  /-- A question mark follows nothing that could be optional. -/
  | nothingToRepeat (position : Nat)
  /-- A question mark follows another one, or free text. -/
  | repeatedTwice (position : Nat)
  /-- The text ends with a backslash. -/
  | loneBackslash (position : Nat)
  /-- The text ends where an operator begins. -/
  | endsEarly (position : Nat)
  /-- A mark behind the opening of a group means nothing. -/
  | unknownExtension (position : Nat) (mark : Text)
  /-- An operator that patterns do not have. -/
  | unknownOperator (position : Nat)
  deriving DecidableEq, Repr

def Fault.position : Fault → Nat
  | .unclosedGroup n | .unopenedGroup n | .nothingToRepeat n | .repeatedTwice n
  | .loneBackslash n | .endsEarly n | .unknownExtension n _ | .unknownOperator n => n

/-- The fault in words, without its position. -/
def Fault.summary : Fault → Text
  | .unclosedGroup _ => "missing ), unterminated subpattern".text
  | .unopenedGroup _ => "unbalanced parenthesis".text
  | .nothingToRepeat _ => "nothing to repeat".text
  | .repeatedTwice _ => "multiple repeat".text
  | .loneBackslash _ => "bad escape (end of pattern)".text
  | .endsEarly _ => "unexpected end of pattern".text
  | .unknownExtension _ mark => "unknown extension ?".text ++ mark
  | .unknownOperator _ => "unknown operator".text

/-- The fault in words, with its position in the pattern; a pattern of several lines
gets the line and the column as well. -/
def Fault.message (fault : Fault) (pattern : Text) : Text :=
  let before := pattern.take fault.position
  let lines := Text.cutAt '\n' before
  let column := (lines.getLast?.getD []).length + 1
  fault.summary ++ " at position ".text ++ Text.ofNat fault.position ++
    if pattern.contains '\n' then
      " (line ".text ++ Text.ofNat lines.length ++ ", column ".text ++
        Text.ofNat column ++ [.char ')']
    else []

/-- The units of a pattern text. -/
inductive Token
  /-- A character that stands for itself. -/
  | char (c : CodePoint)
  /-- A bare opening brace, a literal one. -/
  | leftBrace
  /-- A bare closing brace, a literal one. -/
  | rightBrace
  /-- The opening of a capture. -/
  | openCapture
  /-- The opening of a group that keeps nothing. -/
  | openGroup
  /-- The end of a capture or group. -/
  | close
  /-- The bar between two branches. -/
  | bar
  /-- The mark that makes the item before it optional. -/
  | optional
  /-- Free text: one or more characters, as few as possible. -/
  | anyText
  deriving DecidableEq, Repr

namespace Token

/-- The characters that get a backslash in front when they stand for themselves. -/
def isSpecial (c : CodePoint) : Bool :=
  (['(', ')', '[', ']', '{', '}', '?', '*', '+', '-', '|', '^', '$', '\\', '.',
    '&', '~', '#', '\t', '\n', '\r', '\x0b', '\x0c'] : Text).contains c

def text : Token → Text
  | .char c => if isSpecial c then ['\\', c] else [c]
  | .leftBrace => ['{']
  | .rightBrace => ['}']
  | .openCapture => ['(']
  | .openGroup => ['(', '?', ':']
  | .close => [')']
  | .bar => ['|']
  | .optional => ['?']
  | .anyText => ['.', '+', '?']

def textOf (tokens : List Token) : Text := tokens.flatMap text

/-- Whether the text after an opening brace makes the brace a counted
repetition: a count, or two counts around a comma of which either may be
missing, and a closing brace. -/
def countsRepetitions (rest : Text) : Bool :=
  match rest with
  | '}' :: _ => false
  | _ =>
      match rest.dropWhile CodePoint.isDigit with
      | '}' :: _ => true
      | ',' :: more => (more.dropWhile CodePoint.isDigit).head? == some (.char '}')
      | _ => false

/-- Puts a token in front of what the rest of a text was cut into. -/
def consToken (position : Nat) (token : Token)
    (cut : List (Nat × Token) × Option Fault) : List (Nat × Token) × Option Fault :=
  ((position, token) :: cut.1, cut.2)

/-- Whether a character behind the opening of a group and a question mark means
something, to patterns or to operators that they do not have. -/
def isExtension (c : CodePoint) : Bool :=
  ([':', '#', '=', '!', '<', '>', '(', 'P', '-', 'a', 'i', 'L', 'm', 's', 'u',
    'x'] : Text).contains c

/-- The fault of a mark that means nothing, behind a group that opens at a position.
The text is read one unit ahead, so a lone backslash behind the mark comes first. -/
def extensionFault (position : Nat) (mark rest : Text) : Fault :=
  if rest = [.char '\\'] then .loneBackslash (position + 2 + mark.length)
  else .unknownExtension (position + 1) mark

/-- The tokens of a pattern text that starts at a position, each with its own
position, and the fault that ends the reading early, if there is one. -/
def lexFrom (position : Nat) : Text → List (Nat × Token) × Option Fault
  | [] => ([], none)
  | '(' :: '?' :: ':' :: rest =>
      consToken position .openGroup (lexFrom (position + 3) rest)
  | ['(', '?', '\\'] => ([], some (.loneBackslash (position + 2)))
  | ['(', '?'] => ([], some (.endsEarly (position + 2)))
  | '(' :: '?' :: '\\' :: c :: rest =>
      ([], some (extensionFault position ['\\', c] rest))
  | '(' :: '?' :: c :: rest =>
      ([], some (if isExtension c then .unknownOperator position
        else extensionFault position [c] rest))
  | '(' :: rest => consToken position .openCapture (lexFrom (position + 1) rest)
  | ')' :: rest => consToken position .close (lexFrom (position + 1) rest)
  | '|' :: rest => consToken position .bar (lexFrom (position + 1) rest)
  | '?' :: rest => consToken position .optional (lexFrom (position + 1) rest)
  | '.' :: '+' :: '?' :: rest =>
      consToken position .anyText (lexFrom (position + 3) rest)
  | ['\\'] => ([], some (.loneBackslash position))
  | '\\' :: c :: rest =>
      if c.isAlphanum then ([], some (.unknownOperator position))
      else consToken position (.char c) (lexFrom (position + 2) rest)
  | '{' :: rest =>
      if countsRepetitions rest then ([], some (.unknownOperator position))
      else consToken position .leftBrace (lexFrom (position + 1) rest)
  | '}' :: rest => consToken position .rightBrace (lexFrom (position + 1) rest)
  | c :: rest =>
      if (['.', '*', '+', '^', '$', '['] : Text).contains c then
        ([], some (.unknownOperator position))
      else consToken position (.char c) (lexFrom (position + 1) rest)

/-- The tokens of a pattern text with their positions, and the fault that ends the
reading early, if there is one. -/
def lex (pattern : Text) : List (Nat × Token) × Option Fault := lexFrom 0 pattern

end Token

end Pattern

end UtteranceTemplate
