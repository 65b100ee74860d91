import Daybook.Script.NumberText

/-!
# Variables

A view names texts and numbers for its tokens to refer to.
-/

namespace Daybook.Script

/-- What a view says under the name of a variable. -/
inductive Variable where
  | text (value : String)
  | number (value : Json.Number)
deriving BEq, Repr

/-- What a variable stands for in a token. -/
def Variable.toText : Variable → String
  | .text value => value
  | .number value => numberText value

end Daybook.Script
