/-!
# TOML values

What can stand behind the equals sign of a TOML document. Floating-point numbers, dates and times
are checked and kept as they were written.
-/

namespace Daybook.Toml

/-- A key, as the names between its dots. -/
abbrev Path : Type :=
  List String

/-- A TOML value. A table holds its values under their full paths. -/
inductive Value where
  | text (value : String)
  | integer (value : Int)
  | float (written : String)
  | boolean (value : Bool)
  | moment (written : String)
  | list (items : List Value)
  | table (entries : List (Path × Value))
deriving Repr, Inhabited

end Daybook.Toml
