import UtteranceTemplate.Decimal.Notation
import UtteranceTemplate.Json.Basic

/-!
Cutting a JSON text into tokens. Each token carries its position; what cannot be read
is a token too, the last one, so that a reader can decide whether it matters.
-/

namespace UtteranceTemplate

namespace Json

/-- What is wrong at some place of a JSON text. -/
inductive Reason
  | byteOrderMark
  | expectingValue
  | expectingKey
  | expectingColon
  | expectingComma
  | extraData
  | controlCharacter
  | unterminatedText
  | badEscape
  | badUnicodeEscape
  deriving DecidableEq, Repr

/-- Why a JSON text cannot be read. -/
inductive Fault
  /-- Something is wrong at a position. -/
  | malformed (reason : Reason) (position : Nat)
  /-- A whole number has more digits than are read. -/
  | longInteger (digits : Nat)
  /-- An array or an object lies too deep to be read. -/
  | tooDeep (isArray : Bool)
  deriving DecidableEq, Repr

/-- The units of a JSON text. -/
inductive Token
  | openBracket
  | closeBracket
  | openBrace
  | closeBrace
  | comma
  | colon
  /-- A literal or a number. -/
  | atom (value : Json)
  /-- A text between quotes, which may be a value or a key. -/
  | quoted (t : Text)
  /-- Nothing that could be read; `quote` if it begins like a text. -/
  | unreadable (fault : Fault) (quote : Bool)
  /-- The end of the text. -/
  | finish

namespace Token

/-- The most digits a whole number may have. -/
def digitLimit : Nat := 4300

/-- The characters that may stand between tokens. -/
def isSpace (c : CodePoint) : Bool := c == ' ' || c == '\t' || c == '\n' || c == '\r'

def hexDigit? (c : CodePoint) : Option Nat :=
  if '0' ≤ c && c ≤ '9' then some (c.toNat - '0'.toNat)
  else if 'a' ≤ c && c ≤ 'f' then some (c.toNat - 'a'.toNat + 10)
  else if 'A' ≤ c && c ≤ 'F' then some (c.toNat - 'A'.toNat + 10)
  else none

def hexNumber? (digits : Text) : Option Nat :=
  digits.foldl (fun n c => n.bind fun n => (hexDigit? c).map (16 * n + ·)) (some 0)

/-- The character that a backslash makes of a letter. -/
def escape? (c : CodePoint) : Option CodePoint :=
  match c with
  | '"' => some '"'
  | '\\' => some '\\'
  | '/' => some '/'
  | 'b' => some '\x08'
  | 'f' => some '\x0c'
  | 'n' => some '\n'
  | 'r' => some '\r'
  | 't' => some '\t'
  | _ => none

/-- Whether a number is the first half of a pair of UTF-16 units. -/
def isHighUnit (n : Nat) : Bool := 0xd800 ≤ n && n < 0xdc00

/-- Whether a number is the second half of a pair of UTF-16 units. -/
def isLowUnit (n : Nat) : Bool := 0xdc00 ≤ n && n < 0xe000

/-- The character of a pair of UTF-16 units. -/
def ofPair (high low : Nat) : CodePoint :=
  .char (Char.ofNat (0x10000 + (high - 0xd800) * 0x400 + (low - 0xdc00)))

/-- Puts a character in front of a text that was read. -/
def consRead (c : CodePoint) (outcome : Except Fault (Text × Text)) :
    Except Fault (Text × Text) :=
  outcome.map fun (t, rest) => (c :: t, rest)

/-- The second half of a pair whose first half is `unit`, if the input, which starts
at a position, begins with one. -/
def lowHalf? (unit position : Nat) (input : Text) : Except Fault (Option Nat) :=
  match input with
  | '\\' :: 'u' :: a :: b :: c :: d :: _ :: _ =>
      if isHighUnit unit then
        match hexNumber? [a, b, c, d] with
        | none => .error (.malformed .badUnicodeEscape (position + 1))
        | some low => .ok (if isLowUnit low then some low else none)
      else .ok none
  | _ => .ok none

/-- Reads a text up to its closing quote; `start` is the position of its opening
quote and `position` that of the first character here. -/
def readText (start position : Nat) : Text → Except Fault (Text × Text)
  | [] => .error (.malformed .unterminatedText start)
  | '"' :: rest => .ok ([], rest)
  | ['\\'] => .error (.malformed .unterminatedText start)
  | '\\' :: 'u' :: a :: b :: c :: d :: next :: rest =>
      match hexNumber? [a, b, c, d] with
      | none => .error (.malformed .badUnicodeEscape (position + 1))
      | some unit =>
          match lowHalf? unit (position + 6) (next :: rest) with
          | .error fault => .error fault
          | .ok (some low) =>
              consRead (ofPair unit low)
                (readText start (position + 12) (rest.drop 5))
          | .ok none =>
              consRead (.ofNat unit) (readText start (position + 6) (next :: rest))
  | '\\' :: 'u' :: _ => .error (.malformed .badUnicodeEscape (position + 1))
  | '\\' :: c :: rest =>
      match escape? c with
      | none => .error (.malformed .badEscape position)
      | some plain => consRead plain (readText start (position + 2) rest)
  | c :: rest =>
      if c.toNat < 0x20 then .error (.malformed .controlCharacter position)
      else consRead c (readText start (position + 1) rest)
termination_by input => input.length

/-- A number in its parts: its sign, the digits before and after the point, and the
exponent, with whether it is negative. -/
structure NumberText where
  negative : Bool
  whole : Text
  fraction : Text
  exponent : Option (Bool × Text)

def readFraction (input : Text) : Text × Text :=
  match input with
  | '.' :: rest =>
      match rest.takeWhile CodePoint.isDigit with
      | [] => ([], input)
      | digits => (digits, rest.dropWhile CodePoint.isDigit)
  | _ => ([], input)

def readSign (input : Text) : Bool × Text :=
  match input with
  | '-' :: rest => (true, rest)
  | '+' :: rest => (false, rest)
  | _ => (false, input)

def readExponent (input : Text) : Option (Bool × Text) × Text :=
  match input with
  | c :: rest =>
      if c = 'e' || c = 'E' then
        let (negative, rest) := readSign rest
        match rest.takeWhile CodePoint.isDigit with
        | [] => (none, input)
        | digits => (some (negative, digits), rest.dropWhile CodePoint.isDigit)
      else (none, input)
  | [] => (none, input)

/-- Reads a number: a sign, digits that do not begin with a needless zero, a fraction
and an exponent. -/
def readNumber? (input : Text) : Option (NumberText × Text) :=
  let (negative, input) :=
    match input with
    | '-' :: rest => (true, rest)
    | _ => (false, input)
  let whole : Text :=
    match input with
    | '0' :: _ => ['0']
    | _ => input.takeWhile CodePoint.isDigit
  if whole.isEmpty then none
  else
    let (fraction, rest) := readFraction (input.drop whole.length)
    let (exponent, rest) := readExponent rest
    some (⟨negative, whole, fraction, exponent⟩, rest)

/-- The value of a number: a whole number unless it has a fraction or an exponent. -/
def NumberText.value (number : NumberText) : Except Fault Json :=
  if number.fraction.isEmpty && number.exponent.isNone then
    if digitLimit < number.whole.length then
      .error (.longInteger number.whole.length)
    else
      let n : Int := Decimal.ofDigits number.whole
      .ok (.int (if number.negative then -n else n))
  else
    let exponent : Int :=
      match number.exponent with
      | none => 0
      | some (negative, digits) =>
          if negative then -(Decimal.ofDigits digits : Int)
          else Decimal.ofDigits digits
    .ok (.float (Decimal.toFloat number.negative
      (Decimal.ofDigits (number.whole ++ number.fraction))
        (exponent - number.fraction.length)))

def literals : List (Text × Json) :=
  [("null".text, .null), ("true".text, .bool true), ("false".text, .bool false),
    ("NaN".text, .float (0.0 / 0.0)), ("Infinity".text, .float (1.0 / 0.0)),
    ("-Infinity".text, .float (-1.0 / 0.0))]

/-- The first token of a text that does not start with a space, and the rest. -/
def readFirst (position : Nat) : Text → Token × Text
  | [] => (.finish, [])
  | '[' :: rest => (.openBracket, rest)
  | ']' :: rest => (.closeBracket, rest)
  | '{' :: rest => (.openBrace, rest)
  | '}' :: rest => (.closeBrace, rest)
  | ',' :: rest => (.comma, rest)
  | ':' :: rest => (.colon, rest)
  | '"' :: rest =>
      match readText position (position + 1) rest with
      | .ok (t, rest) => (.quoted t, rest)
      | .error fault => (.unreadable fault true, rest)
  | input =>
      match literals.find? fun literal => literal.1.isPrefixOf input with
      | some (name, value) => (.atom value, input.drop name.length)
      | none =>
          match readNumber? input with
          | none => (.unreadable (.malformed .expectingValue position) false, [])
          | some (number, rest) =>
              match number.value with
              | .ok value => (.atom value, rest)
              | .error fault => (.unreadable fault false, [])

/-- The tokens of a text that starts at a position, up to its end or to the first one
that cannot be read. -/
def lexFrom (position : Nat) (input : Text) : List (Nat × Token) :=
  let start := input.dropWhile isSpace
  let position := position + (input.length - start.length)
  let (token, rest) := readFirst position start
  match token with
  | .finish | .unreadable _ _ => [(position, token)]
  | _ =>
      if _h : rest.length < input.length then
        (position, token) :: lexFrom (position + (start.length - rest.length)) rest
      else [(position, token)]
termination_by input.length

def lex (input : Text) : List (Nat × Token) := lexFrom 0 input

theorem lt_of_isHighUnit {n : Nat} (h : isHighUnit n = true) : n < 0x10000 := by
  simp only [isHighUnit, Bool.and_eq_true, decide_eq_true_eq] at h
  omega

theorem isLowUnit_eq_false_of_isHighUnit {n : Nat} (h : isHighUnit n = true) :
    isLowUnit n = false := by
  simp only [isHighUnit, isLowUnit, Bool.and_eq_true, Bool.and_eq_false_iff,
    decide_eq_true_eq, decide_eq_false_iff_not] at h ⊢
  omega

theorem isHalf_of_isHighUnit {c : CodePoint} (h : isHighUnit c.toNat = true) :
    c.isHalf = true := by
  rw [← CodePoint.isHalfCode_toNat]
  simp only [isHighUnit, CodePoint.isHalfCode, Bool.and_eq_true,
    decide_eq_true_eq] at h ⊢
  omega

theorem isHalf_of_isLowUnit {c : CodePoint} (h : isLowUnit c.toNat = true) :
    c.isHalf = true := by
  rw [← CodePoint.isHalfCode_toNat]
  simp only [isLowUnit, CodePoint.isHalfCode, Bool.and_eq_true,
    decide_eq_true_eq] at h ⊢
  omega

theorem isHighUnit_eq_false {c : CodePoint} (h : c.isHalf = false) :
    isHighUnit c.toNat = false := by
  rw [Bool.eq_false_iff]
  intro hhigh
  rw [isHalf_of_isHighUnit hhigh] at h
  cases h

theorem isLowUnit_eq_false {c : CodePoint} (h : c.isHalf = false) :
    isLowUnit c.toNat = false := by
  rw [Bool.eq_false_iff]
  intro hlow
  rw [isHalf_of_isLowUnit hlow] at h
  cases h

theorem lowHalf?_of_not_isHighUnit {input : Text} (h : isHighUnit unit = false) :
    lowHalf? unit position input = .ok none := by
  unfold lowHalf?
  split
  · rw [h]
    rfl
  · rfl

theorem readText_quote : readText start position ('"' :: rest) = .ok ([], rest) := by
  rw [readText]

theorem readText_escape {c plain : CodePoint} (hc : c ≠ 'u')
    (h : escape? c = some plain) :
    readText start position ('\\' :: c :: tail) =
      consRead plain (readText start (position + 2) tail) := by
  have hnot : c = 'u' → False := hc
  rw [readText]
  · rw [h]
  · intros
    contradiction
  · exact hc

theorem readText_plain {c : CodePoint} (hquote : c ≠ '"') (hslash : c ≠ '\\')
    (hc : 0x20 ≤ c.toNat) :
    readText start position (c :: tail) =
      consRead c (readText start (position + 1) tail) := by
  rw [readText, if_neg (Nat.not_lt.mpr hc)]
  all_goals
    intros
    simp_all

end Token

end Json

end UtteranceTemplate
