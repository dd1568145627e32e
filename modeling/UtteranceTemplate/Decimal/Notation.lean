import UtteranceTemplate.Decimal.Shortest
import UtteranceTemplate.Text.Basic

/-!
The texts of floating-point numbers, both ways: the shortest digits that read back,
in positional notation from `0.0001` up to but not including `1e+16` and with an
exponent of at least two digits outside, and the number that a decimal denotes.
-/

namespace UtteranceTemplate

namespace Decimal

/-- Digits with the point after the first `point` of them, positional; zeros fill the
gaps, and a whole number ends in `.0`. -/
def positional (digits : Text) (point : Int) : Text :=
  match point with
  | .negSucc n =>
      .char '0' :: .char '.' :: List.replicate (n + 1) (.char '0') ++ digits
  | .ofNat n =>
      if n = 0 then '0' :: '.' :: digits
      else if digits.length ≤ n then
        digits ++ List.replicate (n - digits.length) (.char '0') ++
          [.char '.', .char '0']
      else digits.take n ++ .char '.' :: digits.drop n

/-- Digits with the point after the first one and the given exponent. -/
def scientific (digits : Text) (exponent : Int) : Text :=
  let mantissa :=
    match digits with
    | [] => []
    | [d] => [d]
    | d :: rest => d :: '.' :: rest
  let size := Text.ofNat exponent.natAbs
  mantissa ++ .char 'e' :: (if exponent < 0 then .char '-' else .char '+') ::
    (if size.length < 2 then .char '0' :: size else size)

def Scaled.text (d : Scaled) : Text :=
  let digits := Text.ofNat d.digits
  let point : Int := digits.length + d.exponent
  if d.digits = 0 then "0.0".text
  else if -4 < point && point ≤ 16 then positional digits point
  else scientific digits (point - 1)

/-- The text of a floating-point number, given the texts of infinity and of
what is no number. -/
def textOfFloat (infinity notANumber : Text) (x : Float) : Text :=
  if x.isNaN then notANumber
  else
    let (negative, decimal) := ofFloat x
    let body := (decimal.map Scaled.text).getD infinity
    if negative then '-' :: body else body

/-- The floating-point number nearest to `digits * 10 ^ exponent`. -/
def toFloat (negative : Bool) (digits : Nat) (exponent : Int) : Float :=
  let size : Int := digitCount digits + exponent
  let value :=
    if digits = 0 || size < -400 then 0.0
    else if 400 < size then 1.0 / 0.0
    else Float.ofScientific digits (exponent < 0) exponent.natAbs
  if negative then -value else value

/-- The number that a row of decimal digits writes. -/
def ofDigits (digits : Text) : Nat :=
  digits.foldl (fun n c => 10 * n + (c.toNat - '0'.toNat)) 0

theorem ofDigits_ofNat (n : Nat) : ofDigits (Text.ofNat n) = n := by
  have hfold : ofDigits (Text.ofNat n) =
      Nat.ofDigitChars 10 (Nat.toDigits 10 n) 0 := by
    rw [Nat.ofDigitChars_eq_foldl, ofDigits, Text.ofNat, List.foldl_map]
    rfl
  rw [hfold, Nat.ofDigitChars_ten_toDigits]

/-- A number is written up to the character behind it that is no digit. -/
theorem ofNat_append_inj {m n : Nat} {c : CodePoint} (hc : c.isDigit = false)
    {s t : Text} (h : Text.ofNat m ++ c :: s = Text.ofNat n ++ c :: t) :
    m = n ∧ s = t := by
  have hcut : ∀ (k : Nat) (rest : Text),
      (Text.ofNat k ++ c :: rest).takeWhile CodePoint.isDigit = Text.ofNat k ∧
        (Text.ofNat k ++ c :: rest).dropWhile CodePoint.isDigit = c :: rest := by
    intro k rest
    apply Text.takeWhile_append_of_head? fun d hd => Text.isDigit_of_mem_ofNat hd
    intro d hd
    rwa [← Option.some.inj hd]
  have hdigits : Text.ofNat m = Text.ofNat n := by
    rw [← (hcut m s).1, h, (hcut n t).1]
  have hrest : c :: s = c :: t := by rw [← (hcut m s).2, h, (hcut n t).2]
  constructor
  · rw [← ofDigits_ofNat m, hdigits, ofDigits_ofNat]
  · exact (List.cons.inj hrest).2

end Decimal

end UtteranceTemplate
