import UtteranceTemplate.Calendar
import UtteranceTemplate.Decimal.Notation
import UtteranceTemplate.Text.Quoted

/-!
Scalars: the values without parts that a document can hold, and the only ones
that can be keys.

Numbers and truth values are one scale: two keys are the same if they are
equal as numbers.
-/

namespace UtteranceTemplate

/-- A value without parts. -/
inductive Scalar
  | null
  | bool (b : Bool)
  | int (n : Int)
  | float (x : Float)
  | text (t : Text)
  | bytes (row : List UInt8)
  | date (d : Date)
  | moment (m : Moment)

namespace Scalar

/-- A finite number, `mantissa * 2 ^ exponent`. -/
structure Dyadic where
  mantissa : Int
  exponent : Int

/-- Whether two finite numbers are equal. -/
def Dyadic.sameAs (left right : Dyadic) : Bool :=
  let least := min left.exponent right.exponent
  left.mantissa * (Decimal.twoTo (left.exponent - least).toNat : Int) ==
    right.mantissa * (Decimal.twoTo (right.exponent - least).toNat : Int)

/-- A floating-point number as a finite number. -/
def Dyadic.ofFloat? (x : Float) : Option Dyadic :=
  let bits := x.toBits.toNat
  (Decimal.Binary.ofBits? bits).map fun binary =>
    let size : Int := binary.mantissa
    ⟨if bits / Decimal.twoTo 63 % 2 = 1 then -size
      else size, (binary.exponent : Int) - 1075⟩

def number? : Scalar → Option Dyadic
  | .bool b => some ⟨if b then 1 else 0, 0⟩
  | .int n => some ⟨n, 0⟩
  | .float x => Dyadic.ofFloat? x
  | _ => none

def sameAs (left right : Scalar) : Bool :=
  match left, right with
  | .null, .null => true
  | .text a, .text b => a == b
  | .bytes a, .bytes b => a == b
  | .date a, .date b => a == b
  | .moment a, .moment b => a.sameAs b
  | .float a, .float b =>
      a == b || (a.isNaN && b.isNaN)
  | a, b =>
      match a.number?, b.number? with
      | some x, some y => x.sameAs y
      | _, _ => false

instance : BEq Scalar := ⟨sameAs⟩

/-- The text of a scalar, if it is a text. -/
def asText? : Scalar → Option Text
  | .text t => some t
  | _ => none

def quoted : Scalar → Text
  | .null => "None".text
  | .bool b => if b then "True".text else "False".text
  | .int n => Text.ofInt n
  | .float x => Decimal.textOfFloat "inf".text "nan".text x
  | .text t => t.quoted
  | .bytes row => Text.quotedBytes row
  | .date d => d.text
  | .moment m => m.text

end Scalar

end UtteranceTemplate
