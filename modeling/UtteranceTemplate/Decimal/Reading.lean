import UtteranceTemplate.Decimal.Notation
import UtteranceTemplate.Text.Blank
import UtteranceTemplate.Text.DecimalDigit

/-!
Reading numbers: whole numbers to a base, and floating-point numbers in decimal.
Blanks around a number do not count, save the information separators of ASCII, and
its digits may be those of any script.
-/

namespace UtteranceTemplate

namespace Decimal

def digitOf? (base : Nat) (c : CodePoint) : Option Nat :=
  let value :=
    if '0' ≤ c && c ≤ '9' then some (c.toNat - '0'.toNat)
    else if 'a' ≤ c && c ≤ 'f' then some (c.toNat - 'a'.toNat + 10)
    else if 'A' ≤ c && c ≤ 'F' then some (c.toNat - 'A'.toNat + 10)
    else none
  value.filter (· < base)

/-- Whether a character may stand around a number: a blank other than the
information separators. -/
def isMargin (c : CodePoint) : Bool := isBlank c && !(28 ≤ c.toNat && c.toNat ≤ 31)

/-- A number with its digits in ASCII and without what may stand around it. -/
def numeral (text : Text) : Text :=
  ((text.withAsciiDigits.dropWhile isMargin).reverse.dropWhile isMargin).reverse

/-- Whether a number is negative, and the number without its sign. -/
def splitSign (text : Text) : Bool × Text :=
  match text with
  | '-' :: rest => (true, rest)
  | '+' :: rest => (false, rest)
  | _ => (false, text)

def baseMark? (base : Nat) : Option CodePoint :=
  if base = 2 then some 'b'
  else if base = 8 then some 'o'
  else if base = 16 then some 'x'
  else none

def dropBaseMark (base : Nat) (text : Text) : Text :=
  match baseMark? base, text with
  | some mark, '0' :: c :: rest => if c.toLower = mark then rest else text
  | _, _ => text

/-- The sign of a whole number to a base, its digits, and what follows them. -/
def integerParts (base : Nat) (text : Text) : Bool × Text × Text :=
  let (negative, body) := splitSign (numeral text)
  let body := dropBaseMark base body
  let isDigit (c : CodePoint) : Bool := (digitOf? base c).isSome
  (negative, body.takeWhile isDigit, body.dropWhile isDigit)

def valueOf (base : Nat) (digits : Text) : Nat :=
  digits.foldl (fun n c => base * n + (digitOf? base c).getD 0) 0

def readInteger? (base : Nat) (text : Text) : Option Int :=
  let (negative, digits, rest) := integerParts base text
  if digits.isEmpty || !rest.isEmpty then none
  else
    let n : Int := valueOf base digits
    some (if negative then -n else n)

/-- An exponent, which may be missing. -/
def readExponent? (text : Text) : Option Int :=
  match text with
  | [] => some 0
  | c :: rest =>
      if c = 'e' || c = 'E' then
        let (negative, digits) := splitSign rest
        if digits.isEmpty || !digits.all CodePoint.isDigit then none
        else
          let n : Int := ofDigits digits
          some (if negative then -n else n)
      else none

/-- The floating-point number that a text writes in decimal or by a name. -/
def readFloat? (text : Text) : Option Float :=
  let (negative, body) := splitSign (numeral text)
  let name := body.map CodePoint.toLower
  if name = "inf".text || name = "infinity".text then
    some (if negative then -1.0 / 0.0 else 1.0 / 0.0)
  else if name = "nan".text then some (0.0 / 0.0)
  else
    let whole := body.takeWhile CodePoint.isDigit
    let rest := body.dropWhile CodePoint.isDigit
    let (fraction, rest) :=
      match rest with
      | '.' :: more =>
          (more.takeWhile CodePoint.isDigit, more.dropWhile CodePoint.isDigit)
      | _ => ([], rest)
    if whole.isEmpty && fraction.isEmpty then none
    else
      (readExponent? rest).map fun exponent =>
        toFloat negative (ofDigits (whole ++ fraction)) (exponent - fraction.length)

end Decimal

end UtteranceTemplate
