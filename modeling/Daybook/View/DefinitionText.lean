import Daybook.Error
import Daybook.Json.Printer
import Daybook.Json.Reader
import Daybook.Limits
import Daybook.View.Definition

/-!
# View definitions in JSON

A record whose fields may all be missing, read with a limit on its size, and written over several
lines with every field in its place.
-/

namespace Daybook.View

open Daybook.Json Daybook.Json.Reader Daybook.Script

/-! ## Reading -/

/-- A variable: a text or a number. -/
def readVariable (allowed : Nat) : Json.Reader Variable := do
  match ← readValue allowed with
  | .string value => done (.text value)
  | .number value => done (.number value)
  | _ => refuse (.noVariant "VarValue")

/-- A pattern literal and a template. -/
def readReplacement (allowed : Nat) : Json.Reader (String × String) :=
  readPair readText readText allowed

/-- The record of a view. -/
def Definition.record : Record Definition where
  title := "struct ViewRaw"
  blank := .blank
  fields :=
    [⟨"title", fun _ d => do return { d with title := ← readOption readText }, true⟩,
    ⟨"variables", fun n d => do return { d with bindings := ← readMap readVariable n }, true⟩,
    ⟨"replacers", fun n d => do
      return { d with replacers := ← readMap (readList readReplacement) n }, true⟩,
    ⟨"shaders", fun n d => do return { d with shaders := ← readMap (fun _ => readText) n }, true⟩,
    ⟨"article", fun n d => do
      return { d with article := ← readList (readList readValue) n }, true⟩]

/-- Reads the definition of a view that is no larger than the limits allow. -/
def Definition.parse (limits : Limits) (text : String) : Except Error Definition :=
  if limits.maxViewBytes < Text.size text then .error (.limit (.viewBytes (Text.size text)))
  else (readAll (record.read .ok nestingLimit) text.toList).mapError (Error.ofFault text)

/-! ## Writing -/

/-- A variable as a JSON value. -/
def variableValue : Variable → Value
  | .text value => .string value
  | .number value => .number value

/-- Named things as a JSON object. -/
def mapValue (f : α → Value) (m : NameMap α) : Value :=
  .object (m.entries.map (fun entry => (entry.1, f entry.2)))

namespace Definition

/-- A definition as a JSON object, its fields in a fixed order. -/
def toValue (d : Definition) : Value :=
  .object [
    ("title", match d.title with
      | some title => .string title
      | none => .null),
    ("variables", mapValue variableValue d.bindings),
    ("replacers", mapValue
      (fun pairs => .array (pairs.map (fun pair => .array [.string pair.1, .string pair.2])))
      d.replacers),
    ("shaders", mapValue .string d.shaders),
    ("article", .array (d.article.map .array))]

/-- A definition written down. -/
def toText (d : Definition) : String :=
  d.toValue.pretty 0

end Definition

end Daybook.View
