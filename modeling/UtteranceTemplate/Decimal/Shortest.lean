/-!
The shortest decimal that reads back as a given floating-point number.

A finite positive number is `mantissa * 2 ^ exponent`; the reals that round to it
form an interval whose ends belong to it if and only if the mantissa is even. Of
the decimals in that interval the one with the fewest digits is wanted, and of
several the nearest. On each grid of decimals only the two neighbours of the
number have to be tried.
-/

namespace UtteranceTemplate

namespace Decimal

def twoTo (n : Nat) : Nat := Nat.pow 2 n

def tenTo (n : Nat) : Nat := Nat.pow 10 n

/-- A finite number, up to sign: `mantissa * 2 ^ (exponent - 1075)`. The exponent is
at least one. -/
structure Binary where
  mantissa : Nat
  exponent : Nat
  deriving DecidableEq, Repr

/-- A decimal `digits * 10 ^ exponent`. -/
structure Scaled where
  digits : Nat
  exponent : Int
  deriving DecidableEq, Repr

/-- The number as a fraction in quarters of its last place, so that the
middle between it and its neighbours is a whole number of quarters:
numerator, and denominator. -/
def Binary.fraction (x : Binary) : Nat × Nat :=
  if 1075 ≤ x.exponent then (4 * x.mantissa * twoTo (x.exponent - 1075), 4)
  else (4 * x.mantissa, 4 * twoTo (1075 - x.exponent))

/-- The length of one quarter of the last place, over the denominator of
`fraction`. -/
def Binary.quarter (x : Binary) : Nat :=
  if 1075 ≤ x.exponent then twoTo (x.exponent - 1075) else 1

/-- Whether `num / den` rounds to the number. Below a power of two the numbers lie
twice as close, so there the interval is shorter. -/
def Binary.rounds (x : Binary) (num den : Nat) : Bool :=
  let (value, scale) := x.fraction
  let below := if x.mantissa = twoTo 52 && 1 < x.exponent then x.quarter
    else 2 * x.quarter
  let low := (value - below) * den
  let high := (value + 2 * x.quarter) * den
  let point := num * scale
  if x.mantissa % 2 = 0 then low ≤ point && point ≤ high
  else low < point && point < high

def Scaled.fraction (d : Scaled) : Nat × Nat :=
  match d.exponent with
  | .ofNat e => (d.digits * tenTo e, 1)
  | .negSucc e => (d.digits, tenTo (e + 1))

/-- The distance between two fractions, as a numerator over the product of
the denominators. -/
def distance (left right : Nat × Nat) : Nat :=
  let a := left.1 * right.2
  let b := right.1 * left.2
  if a ≤ b then b - a else a - b

def digitCount (n : Nat) : Nat := (Nat.toDigits 10 n).length

/-- The power of ten of the leading digit of a positive fraction, or one more. -/
def leadingExponent (num den : Nat) : Int :=
  (digitCount num : Int) - (digitCount den : Int)

/-- The multiple of `10 ^ exponent` at or below the fraction. -/
def floorOn (exponent : Int) (num den : Nat) : Scaled :=
  match exponent with
  | .ofNat e => ⟨num / (den * tenTo e), exponent⟩
  | .negSucc e => ⟨num * tenTo (e + 1) / den, exponent⟩

/-- The decimal on the grid of `10 ^ exponent` that reads back as the number and lies
nearest to it; the even one of two that lie equally near. -/
def nearestOn? (x : Binary) (exponent : Int) : Option Scaled :=
  let value := x.fraction
  let low := floorOn exponent value.1 value.2
  let high : Scaled := ⟨low.digits + 1, exponent⟩
  let lowReads := low.digits != 0 && x.rounds low.fraction.1 low.fraction.2
  let highReads := x.rounds high.fraction.1 high.fraction.2
  if lowReads && highReads then
    let toLow := distance value low.fraction
    let toHigh := distance value high.fraction
    if toLow < toHigh || (toLow = toHigh && low.digits % 2 = 0) then some low
    else some high
  else if lowReads then some low
  else if highReads then some high
  else none

def Scaled.stripZeros : (fuel : Nat) → Scaled → Scaled
  | 0, d => d
  | fuel + 1, d =>
      if d.digits != 0 && d.digits % 10 = 0 then
        stripZeros fuel ⟨d.digits / 10, d.exponent + 1⟩
      else d

/-- The shortest decimal that reads back as a positive number. -/
def shortest (x : Binary) : Scaled :=
  let value := x.fraction
  let start := leadingExponent value.1 value.2
  let grids := (List.range 20).map fun (k : Nat) => start - (k : Int)
  let found := grids.findSome? (nearestOn? x)
  Scaled.stripZeros 400 (found.getD ⟨value.1, 0⟩)

/-- The finite number of the bits of a floating-point number without its sign bit, or
nothing for an infinity and for what is not a number. -/
def Binary.ofBits? (bits : Nat) : Option Binary :=
  let exponent := bits / twoTo 52 % twoTo 11
  let fraction := bits % twoTo 52
  if exponent = 2047 then none
  else if exponent = 0 then some ⟨fraction, 1⟩
  else some ⟨fraction + twoTo 52, exponent⟩

/-- The decimal digits of a floating-point number's text: the sign, and the shortest
decimal unless the number is not finite. -/
def ofFloat (x : Float) : Bool × Option Scaled :=
  let bits := x.toBits.toNat
  let negative := bits / twoTo 63 % 2 = 1
  match Binary.ofBits? bits with
  | none => (negative, none)
  | some binary =>
      (negative, some (if binary.mantissa = 0 then ⟨0, 0⟩ else shortest binary))

end Decimal

end UtteranceTemplate
