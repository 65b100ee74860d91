import Daybook.Number.Binary64

/-!
# The shortest decimal of a binary value

Among the decimals that round to a binary value, the ones with the fewest digits are its shortest;
of those the nearest is taken. A grid of `n`-digit decimals has a point that rounds to the value
only if one of the two grid points around the value does, so the two are all that is tried.
-/

namespace Daybook.Number

/-- A decimal: `digits * 10 ^ exponent`. -/
structure Decimal where
  digits : Nat
  exponent : Int
deriving DecidableEq, Repr

/-- Which of two equally near decimals is taken. -/
inductive Tie where
  | toEven
  | up
deriving DecidableEq, Repr

/-- The number of decimal digits of a natural number. -/
def digitCount (n : Nat) : Nat :=
  (Nat.toDigits 10 n).length

namespace Decimal

/-- A decimal without trailing zeros among its digits, given room for `fuel` of them. -/
def stripZeros : Nat → Decimal → Decimal
  | 0, d => d
  | fuel + 1, d =>
    if d.digits % 10 = 0 ∧ d.digits ≠ 0 then stripZeros fuel ⟨d.digits / 10, d.exponent + 1⟩ else d

/-- The position of the decimal point, counted from the front of the digits. -/
def pointPosition (d : Decimal) : Int :=
  digitCount d.digits + d.exponent

end Decimal

/-- The decimals that round to one magnitude, as numerators over `den`: those between `low` and
`high`, with the ends exactly when `closed`. -/
structure RoundingInterval where
  low : Nat
  value : Nat
  high : Nat
  den : Nat
  closed : Bool
deriving Repr

namespace RoundingInterval

/-- The interval of a finite magnitude. Below a power of two the values lie twice as close. -/
def ofMagnitude (magnitude : Nat) : RoundingInterval :=
  let s := Binary64.significand magnitude
  let e := Binary64.exponent magnitude
  let scale := twoPow e.toNat
  let below := if s = twoPow 52 ∧ -1074 < e then 1 else 2
  ⟨(4 * s - below) * scale, 4 * s * scale, (4 * s + 2) * scale, 4 * twoPow (-e).toNat,
    s % 2 == 0⟩

/-- Whether a fraction rounds to the value. -/
def contains (i : RoundingInterval) (num den : Nat) : Bool :=
  let x := num * i.den
  if i.closed then i.low * den ≤ x && x ≤ i.high * den else i.low * den < x && x < i.high * den

/-- The exponent `k` with `10 ^ (k - 1) ≤ value < 10 ^ k`. -/
def decimalMagnitude (i : RoundingInterval) : Int :=
  if i.den ≤ i.value then digitCount (i.value / i.den)
  else 1 - (digitCount ((i.den - 1) / i.value) : Int)

/-- The best decimal with `n` digits that rounds to the value, if there is one. -/
def onGrid? (tie : Tie) (i : RoundingInterval) (n : Nat) : Option Decimal :=
  let e := i.decimalMagnitude - n
  let up := tenPow e.toNat
  let down := tenPow (-e).toNat
  let below := i.value * down / (i.den * up)
  let above := below + 1
  let left := i.value * down - below * (i.den * up)
  let right := above * (i.den * up) - i.value * down
  match i.contains (below * up) down && below != 0, i.contains (above * up) down with
  | true, true =>
    if left < right || (left == right && tie == .toEven && below % 2 == 0) then some ⟨below, e⟩
    else some ⟨above, e⟩
  | true, false => some ⟨below, e⟩
  | false, true => some ⟨above, e⟩
  | false, false => none

/-- The decimal of the first grid that has one, from `n` digits on. -/
def search (tie : Tie) (i : RoundingInterval) : Nat → Nat → Decimal
  | 0, n => ⟨i.value / i.den, n⟩
  | fuel + 1, n =>
    match i.onGrid? tie n with
    | some d => d
    | none => search tie i fuel (n + 1)

end RoundingInterval

/-- The shortest decimal of a finite magnitude other than zero. Seventeen digits always suffice. -/
def shortest (tie : Tie) (magnitude : Nat) : Decimal :=
  ((RoundingInterval.ofMagnitude magnitude).search tie 17 1).stripZeros 20

end Daybook.Number
