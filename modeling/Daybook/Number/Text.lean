import Daybook.Number.Shortest

/-!
# Numbers as text

Ways to write a number: positional with all its places, with an exponent where it is very large
or very small, and with a fixed count of places.
-/

namespace Daybook.Number

/-- The decimal digits of a natural number. -/
def digitChars (n : Nat) : List Char :=
  Nat.toDigits 10 n

/-- A natural number in decimal. -/
def natText (n : Nat) : String :=
  String.ofList (digitChars n)

/-- An integer in decimal, with a sign if it is negative. -/
def intText (n : Int) : String :=
  if n < 0 then "-" ++ natText n.natAbs else natText n.natAbs

/-- A natural number in decimal, filled up with zeros to a width. -/
def padded (width n : Nat) : List Char :=
  let digits := digitChars n
  List.replicate (width - digits.length) '0' ++ digits

/-- A decimal with a point and no exponent; `whole` is written behind an integer. -/
def positional (whole : String) (d : Decimal) : String :=
  let digits := digitChars d.digits
  let point := d.pointPosition
  if 0 ≤ d.exponent then
    String.ofList (digits ++ List.replicate d.exponent.toNat '0') ++ whole
  else if 0 < point then
    String.ofList (digits.take point.toNat ++ '.' :: digits.drop point.toNat)
  else
    String.ofList ('0' :: '.' :: List.replicate (-point).toNat '0' ++ digits)

/-- A decimal with one digit before the point and a signed exponent. -/
def scientific (d : Decimal) : String :=
  let mantissa := match digitChars d.digits with
    | [] => []
    | [c] => [c]
    | c :: cs => c :: '.' :: cs
  let e := d.pointPosition - 1
  String.ofList mantissa ++ (if e < 0 then "e-" else "e+") ++ natText e.natAbs

/-- A finite value with a point and no exponent, however long that is. -/
def Binary64.plainText (x : Binary64) : String :=
  (if x.negative then "-" else "") ++
    (if x.isZero then "0" else positional "" (shortest .up x.magnitude))

/-- A finite value as JSON has it: an integer shows its float nature by `.0`, and decimal exponents
outside of -5 to 15 are written as such. -/
def Binary64.jsonText (x : Binary64) : String :=
  (if x.negative then "-" else "") ++
    (if x.isZero then "0.0"
    else
      let d := shortest .toEven x.magnitude
      let e := d.pointPosition - 1
      if -5 ≤ e && e ≤ 15 then positional ".0" d else scientific d)

/-- A finite value rounded to two places, a tie going to the even neighbour. -/
def Binary64.hundredthsText (x : Binary64) : String :=
  let (n, d) := Binary64.ratio x.magnitude
  let q := Binary64.roundRatio (100 * n) d
  (if x.negative then "-" else "") ++ natText (q / 100) ++ "." ++
    String.ofList (padded 2 (q % 100))

/-- The digits of a finite integral value. -/
def Binary64.integralText (x : Binary64) : String :=
  let (n, d) := Binary64.ratio x.magnitude
  (if x.negative then "-" else "") ++ natText (n / d)

/-- Hexadecimal digits of the 64 bits of a value. -/
def Binary64.hexBits (x : Binary64) : String :=
  let digits := Nat.toDigits 16 x.bits
  String.ofList (List.replicate (16 - digits.length) '0' ++ digits)

end Daybook.Number
