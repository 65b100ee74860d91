import Daybook.Number.Text

/-!
# JSON values

Numbers are integers of 64 bits, signed or not, or floating-point values. The members of an object
are ordered by name, each name once.
-/

namespace Daybook.Json

open Daybook.Number

/-- A number as it was read: an integer of 64 bits or a finite floating-point value. -/
inductive Number where
  | integer (value : Int)
  | float (value : Binary64)
deriving DecidableEq, Repr

/-- Whether two numbers are equal; an integer never equals a floating-point value. -/
def Number.same : Number → Number → Bool
  | .integer a, .integer b => a == b
  | .float a, .float b => a.same b
  | _, _ => false

instance : BEq Number :=
  ⟨Number.same⟩

/-- A JSON value. -/
inductive Value where
  | null
  | bool (value : Bool)
  | number (value : Number)
  | string (value : String)
  | array (items : List Value)
  | object (members : List (String × Value))
deriving Repr, Inhabited

namespace Value

mutual

/-- Whether two values are equal, numbers as `Number.same` says. -/
def same : Value → Value → Bool
  | .null, .null => true
  | .bool a, .bool b => a == b
  | .number a, .number b => a == b
  | .string a, .string b => a == b
  | .array a, .array b => sameItems a b
  | .object a, .object b => sameMembers a b
  | _, _ => false

/-- Whether two lists of values are equal item by item. -/
def sameItems : List Value → List Value → Bool
  | [], [] => true
  | a :: as, b :: bs => a.same b && sameItems as bs
  | _, _ => false

/-- Whether two lists of members are equal, names and values alike. -/
def sameMembers : List (String × Value) → List (String × Value) → Bool
  | [], [] => true
  | (n, a) :: as, (m, b) :: bs => n == m && a.same b && sameMembers as bs
  | _, _ => false

end

instance : BEq Value :=
  ⟨same⟩

end Value

end Daybook.Json
