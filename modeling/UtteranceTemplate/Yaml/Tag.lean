import UtteranceTemplate.Yaml.Characters

/-!
Tags: the types of nodes. A plain scalar without a tag has the type that its
text looks like.
-/

namespace UtteranceTemplate

namespace Yaml

/-- The type of a node. -/
inductive Tag
  | null
  | bool
  | int
  | float
  | bytes
  | date
  | text
  | list
  | pairs
  | mapping
  | set
  /-- The mark of a mapping that is merged into another one. -/
  | merge
  /-- The mark of the value that stands for a whole mapping. -/
  | value
  /-- A type that has no values here. -/
  | unknown
  deriving DecidableEq, Repr

namespace Tag

/-- The beginning of the names of the types that every document knows. -/
def namespaceName : Text := "tag:yaml.org,2002:".text

/-- The types that every document knows, by their names behind that beginning. -/
def known : List (Text × Tag) :=
  [("null".text, .null), ("bool".text, .bool), ("int".text, .int),
    ("float".text, .float), ("binary".text, .bytes), ("timestamp".text, .date),
    ("str".text, .text),
    ("seq".text, .list), ("omap".text, .pairs), ("pairs".text, .pairs),
    ("map".text, .mapping), ("set".text, .set), ("merge".text, .merge),
    ("value".text, .value)]

def ofName (name : Text) : Tag :=
  if namespaceName.isPrefixOf name then
    (known.lookup (name.drop namespaceName.length)).getD .unknown
  else .unknown

section Looks

/-- Drops the sign of a number. -/
def unsigned (text : Text) : Text :=
  match text with
  | '+' :: rest | '-' :: rest => rest
  | _ => text

/-- Whether a text is a row of characters of a kind, at least one. -/
def isRow (kind : CodePoint → Bool) (text : Text) : Bool :=
  !text.isEmpty && text.all kind

def isDigitOrLine (c : CodePoint) : Bool := c.isDigit || c == '_'

/-- Whether a text is a number below sixty in one or two digits. -/
def isSixtieth (text : Text) : Bool :=
  match text with
  | [a] => a.isDigit
  | [a, b] => '0' ≤ a && a ≤ '5' && b.isDigit
  | _ => false

/-- The truth values that plain scalars can write. -/
def boolTexts : List Text :=
  (["yes", "Yes", "YES", "no", "No", "NO", "true", "True", "TRUE", "false",
    "False", "FALSE", "on", "On", "ON", "off", "Off",
      "OFF"] : List String).map String.text

/-- Whether a text looks like a whole number: binary, octal, decimal, hexadecimal
or to base sixty. -/
def looksInt (text : Text) : Bool :=
  match unsigned text with
  | ['0'] => true
  | '0' :: 'b' :: rest => isRow (fun c => c == '0' || c == '1' || c == '_') rest
  | '0' :: 'x' :: rest => isRow (fun c => (hexDigit? c).isSome || c == '_') rest
  | '0' :: rest => isRow (fun c => ('0' ≤ c && c ≤ '7') || c == '_') rest
  | c :: rest =>
      c.isDigit &&
        match Text.cutAt ':' rest with
        | [] => false
        | first :: parts => first.all isDigitOrLine && parts.all isSixtieth
  | [] => false

/-- Whether a text is the exponent of a floating-point number, or nothing. -/
def isExponent (text : Text) : Bool :=
  match text with
  | [] => true
  | e :: sign :: rest =>
      (e == 'e' || e == 'E') && (sign == '+' || sign == '-') &&
        isRow CodePoint.isDigit rest
  | _ => false

def isFraction (text : Text) : Bool := isExponent (text.dropWhile isDigitOrLine)

/-- Whether a text looks like a floating-point number before its point: digits, or
digits to base sixty. -/
def isWhole (text : Text) (isSexagesimal : Bool) : Bool :=
  match text with
  | c :: rest =>
      c.isDigit &&
        match Text.cutAt ':' rest with
        | [] => false
        | first :: parts =>
            first.all isDigitOrLine && parts.all isSixtieth && parts.isEmpty ==
              !isSexagesimal
  | [] => false

def looksFloat (text : Text) : Bool :=
  let body := unsigned text
  let whole := body.takeWhile (· != .char '.')
  match body.dropWhile (· != .char '.') with
  | [] => false
  | _ :: fraction =>
      if whole.isEmpty then
        ["inf".text, "Inf".text, "INF".text].contains fraction ||
          (body == text &&
            (["nan".text, "NaN".text, "NAN".text].contains fraction ||
              (endsAt CodePoint.isDigit fraction && !fraction.isEmpty &&
                isFraction fraction)))
      else
        (isWhole whole false && isFraction fraction) ||
          (isWhole whole true && fraction.all isDigitOrLine)

/-- The digits at the start of a text, if there are between two numbers of
them, and the rest. -/
def takeDigits? (least most : Nat) (text : Text) : Option (Text × Text) :=
  let digits := (text.take most).takeWhile CodePoint.isDigit
  if least ≤ digits.length then some (digits, text.drop digits.length) else none

def behind? (c : CodePoint) (text : Text) : Option Text :=
  match text with
  | d :: rest => if c = d then some rest else none
  | [] => none

end Looks

end Tag

/-- A date or moment in its parts, as it is written. The clock is the hour, the
minute and the second; the offset is its sign, hours and minutes, or is given as zero
by a letter. -/
structure DateText where
  year : Text
  month : Text
  day : Text
  clock : Option (Text × Text × Text)
  fraction : Text
  universal : Bool
  offset : Option (Bool × Text × Text)

namespace DateText

open Tag

/-- The offset at the start of a text, and the rest. -/
def readOffset (text : Text) : Option (Bool × Option (Bool × Text × Text) × Text) :=
  let rest := text.dropWhile fun c => c == .char ' ' || c == .char '\t'
  match rest with
  | 'Z' :: rest => some (true, none, rest)
  | sign :: more =>
      if sign = .char '+' || sign = .char '-' then do
        let (hours, rest) ← takeDigits? 1 2 more
        match rest with
        | ':' :: more => do
            let (minutes, rest) ← takeDigits? 2 2 more
            some (false, some (sign == '-', hours, minutes), rest)
        | _ => some (false, some (sign == '-', hours, []), rest)
      else if text.isEmpty then some (false, none, text)
      else none
  | [] => if text.isEmpty then some (false, none, text) else none

def readTime (parts : DateText) (text : Text) : Option DateText := do
  let text ←
    match text with
    | 'T' :: rest | 't' :: rest => some rest
    | c :: _ =>
        if c = ' ' || c = '\t' then some (text.dropWhile fun c => c == ' ' || c == '\t')
        else none
    | [] => none
  let (hour, rest) ← takeDigits? 1 2 text
  let (minute, rest) ← takeDigits? 2 2 (← behind? ':' rest)
  let (second, rest) ← takeDigits? 2 2 (← behind? ':' rest)
  let (fraction, rest) :=
    match rest with
    | '.' :: more =>
        (more.takeWhile CodePoint.isDigit, more.dropWhile CodePoint.isDigit)
    | _ => ([], rest)
  let (universal, offset, rest) ← readOffset rest
  if rest.isEmpty then
    some { parts with
      clock := some (hour, minute, second)
      fraction
      universal
      offset }
  else none

/-- Reads a date, or a date and a time. -/
def read (text : Text) : Option DateText := do
  let (year, rest) ← takeDigits? 4 4 text
  let (month, rest) ← takeDigits? 1 2 (← behind? '-' rest)
  let (day, rest) ← takeDigits? 1 2 (← behind? '-' rest)
  let parts : DateText := ⟨year, month, day, none, [], false, none⟩
  if rest.isEmpty then some parts else parts.readTime rest

/-- Whether a text looks like a date or moment: a date alone has two digits
for month and day. -/
def looksDate (text : Text) : Bool :=
  match read text with
  | none => false
  | some parts =>
      parts.clock.isSome || (parts.month.length == 2 && parts.day.length == 2)

end DateText

namespace Tag

def look (text : Text) : Tag :=
  if text.isEmpty ||
    ["~".text, "null".text, "Null".text, "NULL".text].contains text then .null
  else if boolTexts.contains text then .bool
  else if looksFloat text then .float
  else if looksInt text then .int
  else if text = "<<".text then .merge
  else if DateText.looksDate text then .date
  else if text = [.char '='] then .value
  else if text = [.char '!'] || text = [.char '&'] || text =
    [.char '*'] then .unknown
  else .text

/-- The type of a scalar without a tag. A line feed at its end does not count. -/
def ofPlain (text : Text) : Tag :=
  match look text with
  | .text =>
      if text.length ≠ 1 && text.getLast? = some (.char '\n') then look text.dropLast
      else .text
  | tag => tag

end Tag

end Yaml

end UtteranceTemplate
