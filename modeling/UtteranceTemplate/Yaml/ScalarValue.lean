import UtteranceTemplate.Decimal.Reading
import UtteranceTemplate.Scalar
import UtteranceTemplate.Text.Base64
import UtteranceTemplate.Text.LowerCase
import UtteranceTemplate.Yaml.Fault
import UtteranceTemplate.Yaml.Tag

/-!
The values of scalars, by type. A scalar whose type is given by a tag may not look
like a value of the type, and a date may look right and not exist.
-/

namespace UtteranceTemplate

namespace Yaml

/-- The most digits a decimal number may have. -/
def digitLimit : Nat := 4300

def integer (base : Nat) (text : Text) : Except Fault Int :=
  let digits := (Decimal.integerParts base text).2.1
  if base = 10 && digitLimit < digits.length then .error (.longInteger digits.length)
  else
    match Decimal.readInteger? base text with
    | some n => .ok n
    | none => .error (.notInteger base text)

def floating (text : Text) : Except Fault Float :=
  match Decimal.readFloat? text with
  | some x => .ok x
  | none => .error (.notFloat text)

/-- Applies a reader to texts from left to right, up to the first fault. -/
def readAll {α : Type} (read : Text → Except Fault α) :
    List Text → Except Fault (List α)
  | [] => .ok []
  | text :: rest =>
      match read text with
      | .error fault => .error fault
      | .ok value => (readAll read rest).map (value :: ·)

def withoutLines (text : Text) : Text := text.filter (· != '_')

/-- Whether a number is negative, and its text without the sign. -/
def bareNumber (text : Text) : Except Fault (Bool × Text) :=
  match text with
  | [] => .error .noDigits
  | _ => .ok (Decimal.splitSign text)

/-- The whole number that a text without sign writes. -/
def unsignedInt (text : Text) : Except Fault Int :=
  match text with
  | [] => .error .noDigits
  | ['0'] => .ok 0
  | '0' :: 'b' :: rest => integer 2 rest
  | '0' :: 'x' :: rest => integer 16 rest
  | '0' :: _ => integer 8 text
  | _ =>
      if text.contains ':' then
        (readAll (integer 10) (Text.cutAt ':' text)).map fun parts =>
          parts.foldl (fun n part => 60 * n + part) 0
      else integer 10 text

def intValue (text : Text) : Except Fault Int := do
  let (negative, body) ← bareNumber (withoutLines text)
  let n ← unsignedInt body
  return if negative then -n else n

/-- The most parts that a floating-point number to base sixty may have; the place of
the next one would be 60 to the power of 174, more than any floating-point number. -/
def placeLimit : Nat := 174

def sexagesimal (parts : List Float) : Float :=
  let step (state : Float × Nat) (part : Float) : Float × Nat :=
    (state.1 + part * Float.ofNat state.2, state.2 * 60)
  (parts.reverse.foldl step (0.0, 1)).1

/-- The floating-point number that a text without sign writes. -/
def unsignedFloat (text : Text) : Except Fault Float :=
  if text = ".inf".text then .ok (1.0 / 0.0)
  else if text = ".nan".text then .ok (0.0 / 0.0)
  else if text.contains ':' then do
    let parts ← readAll floating (Text.cutAt ':' text)
    if placeLimit < parts.length then .error .hugePlace else .ok (sexagesimal parts)
  else floating text

def isDottedNaN (text : Text) : Bool :=
  (Decimal.splitSign (withoutLines text).lower).2 == ".nan".text

def floatValue (text : Text) : Except Fault Float := do
  let (negative, body) ← bareNumber (withoutLines text).lower
  let x ← unsignedFloat body
  return if negative then -x else x

/-- The truth value that a text writes, in letters of either case. -/
def boolValue (text : Text) : Except Fault Bool :=
  let lower := text.lower
  if ["yes".text, "true".text, "on".text].contains lower then .ok true
  else if ["no".text, "false".text, "off".text].contains lower then .ok false
  else .error (.notBool lower)

/-- The microseconds that the digits after a second write. -/
def microseconds (fraction : Text) : Nat :=
  let digits := fraction.take 6
  Decimal.ofDigits (digits ++ List.replicate (6 - digits.length) (.char '0'))

def DateText.minutes? (date : DateText) : Option Int :=
  match date.offset with
  | some (negative, hours, minutes) =>
      let size : Int := 60 * Decimal.ofDigits hours + Decimal.ofDigits minutes
      some (if negative then -size else size)
  | none => if date.universal then some 0 else none

/-- A value of the calendar, or the fault that keeps it from existing. -/
def calendar (value : Except CalendarFault Scalar) : Except Fault Scalar :=
  value.mapError .calendar

/-- The date or moment that a text writes. A line feed at its end does not count. -/
def dateValue (text : Text) : Except Fault Scalar :=
  let text := if text.getLast? = some (.char '\n') then text.dropLast else text
  match DateText.read text with
  | none => .error .notDate
  | some date =>
      let year := Decimal.ofDigits date.year
      let month := Decimal.ofDigits date.month
      let day := Decimal.ofDigits date.day
      match date.clock with
      | none => calendar ((Date.ofFields year month day).map .date)
      | some (hour, minute, second) =>
          calendar ((Moment.ofFields year month day (Decimal.ofDigits hour)
            (Decimal.ofDigits minute) (Decimal.ofDigits second)
              (microseconds date.fraction)
            date.minutes?).map .moment)

def bytesValue (text : Text) : Except Fault (List UInt8) :=
  if text.all fun c => c.toNat < 0x80 then
    match Base64.decode text with
    | some bytes => .ok bytes
    | none => .error .malformed
  else .error .malformed

/-- The value of a text of a type; collections have none. -/
def scalarValue (tag : Tag) (text : Text) : Except Fault Scalar :=
  match tag with
  | .null => .ok .null
  | .bool => (boolValue text).map .bool
  | .int => (intValue text).map .int
  | .float => (floatValue text).map .float
  | .bytes => (bytesValue text).map .bytes
  | .date => dateValue text
  | .text => .ok (.text text)
  | _ => .error .malformed

end Yaml

end UtteranceTemplate
