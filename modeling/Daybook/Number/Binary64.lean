import Daybook.Number.Power

/-!
# Binary floating point

The values of the 64-bit binary format that are not NaN, with exact arithmetic: every operation
works on natural numbers and rounds once, to the nearest value, a tie going to the even one.
A magnitude is the 63 bits below the sign; magnitudes are ordered as the values are.
-/

namespace Daybook.Number

/-- A sign and the bits below it. -/
structure Binary64 where
  negative : Bool
  magnitude : Nat
deriving DecidableEq, Repr

namespace Binary64

/-- The magnitude of infinity; all smaller ones are finite. -/
def infinity : Nat :=
  0x7FF * twoPow 52

/-- Zero without a sign. -/
def zero : Binary64 :=
  ⟨false, 0⟩

/-- One. -/
def one : Binary64 :=
  ⟨false, 1023 * twoPow 52⟩

/-- Whether a value is finite. -/
def isFinite (x : Binary64) : Bool :=
  x.magnitude < infinity

/-- Whether a value is zero, of either sign. -/
def isZero (x : Binary64) : Bool :=
  x.magnitude == 0

/-- The 64 bits of a value as a number. -/
def bits (x : Binary64) : Nat :=
  (if x.negative then twoPow 63 else 0) + x.magnitude

/-- Whether two values are equal as numbers: the two zeros are. -/
def same (x y : Binary64) : Bool :=
  x.magnitude == y.magnitude && (x.negative == y.negative || x.magnitude == 0)

/-- The value with the other sign. -/
def neg (x : Binary64) : Binary64 :=
  ⟨!x.negative, x.magnitude⟩

/-- The integer factor of a finite magnitude, which is `significand * 2 ^ exponent`. -/
def significand (magnitude : Nat) : Nat :=
  if magnitude < twoPow 52 then magnitude else twoPow 52 + magnitude % twoPow 52

/-- The power of two in a finite magnitude, which is `significand * 2 ^ exponent`. -/
def exponent (magnitude : Nat) : Int :=
  if magnitude < twoPow 52 then -1074 else (magnitude / twoPow 52 : Nat) - 1075

/-- A finite magnitude as a fraction of natural numbers. -/
def ratio (magnitude : Nat) : Nat × Nat :=
  let e := exponent magnitude
  (significand magnitude * twoPow e.toNat, twoPow (-e).toNat)

/-- The natural number nearest to a fraction, the even one in a tie. -/
def roundRatio (num den : Nat) : Nat :=
  let q := num / den
  let r := num % den
  if 2 * r < den then q else if den < 2 * r then q + 1 else q + q % 2

/-- The exponent for which a fraction has 53 significant bits, or the least exponent there is. -/
def fitExponent (num den : Nat) : Int :=
  let guess := max ((num.log2 : Int) - den.log2 - 52) (-1074)
  if num * twoPow (-guess).toNat < twoPow 52 * (den * twoPow guess.toNat) && -1074 < guess then
    guess - 1
  else
    guess

/-- The magnitude nearest to a fraction, infinity if that is too large. -/
def roundMagnitude (num den : Nat) : Nat :=
  if num = 0 then 0
  else
    let e := fitExponent num den
    let q := roundRatio (num * twoPow (-e).toNat) (den * twoPow e.toNat)
    min ((e + 1074).toNat * twoPow 52 + q) infinity

/-- The value nearest to an integer. -/
def ofInt (n : Int) : Binary64 :=
  ⟨n < 0, roundMagnitude n.natAbs 1⟩

/-- The product of two finite values. -/
def mul (x y : Binary64) : Binary64 :=
  let (n, d) := ratio x.magnitude
  let (m, e) := ratio y.magnitude
  ⟨x.negative != y.negative, roundMagnitude (n * m) (d * e)⟩

/-- The quotient of two finite values, of which the second is not zero. -/
def div (x y : Binary64) : Binary64 :=
  let (n, d) := ratio x.magnitude
  let (m, e) := ratio y.magnitude
  ⟨x.negative != y.negative, roundMagnitude (n * e) (d * m)⟩

/-- The value cut to the interval from 0 to 1. -/
def clampUnit (x : Binary64) : Binary64 :=
  if x.negative then (if x.magnitude = 0 then x else zero)
  else if one.magnitude < x.magnitude then one
  else x

/-- Whether a finite value is an integer. -/
def isIntegral (x : Binary64) : Bool :=
  let (n, d) := ratio x.magnitude
  n % d == 0

end Binary64

end Daybook.Number
