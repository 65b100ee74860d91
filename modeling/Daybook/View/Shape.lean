import Daybook.Pattern.Literal
import Daybook.Text.Blank
import Daybook.View.Definition

/-!
# The shape of a definition

What is checked of a definition before anything in it is compiled: the number of lines and of tokens
on each, the names of replacers and shaders, and the length of pattern literals.
-/

namespace Daybook.View

open Daybook.Pattern

/-- Accepts lines within the limits, of which the first has the number `index`. -/
def checkLines (limits : Limits) (index : Nat) : List (List Json.Value) → Except Error Unit
  | [] => .ok ()
  | line :: lines =>
    if limits.maxTokensPerLine < line.length then
      .error (.limit (.lineTokens line.length index))
    else checkLines limits (index + 1) lines

/-- Accepts a name that is not blank. -/
def checkName (fault : ViewFault) (name : String) : Except Error Unit :=
  if Text.isBlankText name then .error (.view fault) else .ok ()

/-- Accepts a replacer by its name and the length of its literals. -/
def checkReplacer (limits : Limits) (entry : String × List (String × String)) :
    Except Error Unit := do
  checkName .blankReplacerName entry.1
  entry.2.forM (fun pair => Literal.checkLength limits pair.1)

/-- Accepts a shader by its name and the length of its literal. -/
def checkShader (limits : Limits) (entry : String × String) : Except Error Unit := do
  checkName .blankShaderName entry.1
  Literal.checkLength limits entry.2

/-- Accepts a definition whose shape is within the limits. -/
def Definition.check (limits : Limits) (d : Definition) : Except Error Unit := do
  if limits.maxLines < d.article.length then
    .error (.limit (.articleLines d.article.length))
  checkLines limits 0 d.article
  d.replacers.entries.forM (checkReplacer limits)
  d.shaders.entries.forM (checkShader limits)

end Daybook.View
