import UtteranceTemplate.Calendar
import UtteranceTemplate.Text.Quoted

/-!
Why a YAML text has no value. Most faults are of the text itself and are not told
apart; the others are of a scalar that looks like a value of some type and is none.
-/

namespace UtteranceTemplate

namespace Yaml

/-- Why a YAML text has no value. -/
inductive Fault
  /-- The text is not YAML, or not of the part of YAML that is read. -/
  | malformed
  /-- An escape denotes no character. -/
  | noCharacter
  /-- An escape denotes a number beyond every character code. -/
  | hugeCode
  /-- A whole number has more digits than are read. -/
  | longInteger (digits : Nat)
  /-- A place of a number to base sixty counts more than any floating-point
  number. -/
  | hugePlace
  /-- A text is no whole number to a base. -/
  | notInteger (base : Nat) (text : Text)
  /-- A text is no floating-point number. -/
  | notFloat (text : Text)
  /-- Nothing is left of a number. -/
  | noDigits
  /-- A text is no truth value. -/
  | notBool (text : Text)
  /-- A text is no date. -/
  | notDate
  /-- A date is given by no text. -/
  | notText
  /-- A mapping stands for itself. -/
  | endless
  /-- A date or time does not exist. -/
  | calendar (fault : CalendarFault)
  deriving DecidableEq, Repr

/-- The fault in words; nothing is said about a malformed text, and of what is no
whole number at most 200 characters are shown. -/
def Fault.message : Fault → Text
  | .malformed => []
  | .noCharacter => "chr() arg not in range(0x110000)".text
  | .hugeCode => "Python int too large to convert to C int".text
  | .longInteger digits =>
      "Exceeds the limit (4300 digits) for integer string conversion: value has ".text ++
        Text.ofNat digits ++
        " digits; use sys.set_int_max_str_digits() to increase the limit".text
  | .hugePlace => "int too large to convert to float".text
  | .notInteger base text =>
      "invalid literal for int() with base ".text ++ Text.ofNat base ++ ": ".text ++
        text.quoted.take 200
  | .notFloat text => "could not convert string to float: ".text ++ text.quoted
  | .noDigits => "string index out of range".text
  | .notBool text => text.quoted
  | .notDate => "'NoneType' object has no attribute 'groupdict'".text
  | .notText => "expected string or bytes-like object, got 'list'".text
  | .endless => "maximum recursion depth exceeded".text
  | .calendar fault => fault.message

end Yaml

end UtteranceTemplate
