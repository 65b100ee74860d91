import Daybook.Json.Value

/-!
# Numbers in views

A view shows a number without a fraction as an integer, however it was written.
-/

namespace Daybook.Script

open Daybook.Json

/-- The magnitude from which on an integral value is no longer written out exactly. -/
def exactBelow : Nat :=
  Number.tenPow 21

/-- The text that a view shows for a number. -/
def numberText : Number → String
  | .integer value => Number.intText value
  | .float value =>
    let (n, d) := Number.Binary64.ratio value.magnitude
    if value.isIntegral && n / d < exactBelow then value.integralText else value.plainText

end Daybook.Script
