import Daybook.Link.Anchor
import Daybook.Script.Builtin
import Daybook.Script.Evaluate
import Daybook.View.DefinitionText
import Daybook.View.Shape

/-!
# Views

A view is a definition made ready to render: its patterns compiled, its tokens read, its operators
found. It makes an article of any event.
-/

namespace Daybook

open Daybook.Calendar Daybook.Markup Daybook.Pattern Daybook.Replace Daybook.Script Daybook.Shader
open Daybook.View (Definition)

/-- A view that is ready to render. -/
structure View where
  title : String
  bindings : NameMap Variable
  replacers : NameMap Replacer
  shaders : Shaders
  article : List (List Token)
  operators : OperatorTable
  policy : Policy

namespace View

/-- Compiles a definition with a table of operators. -/
def compileWith (operators : OperatorTable) (policy : Policy) (limits : Limits) (d : Definition) :
    Except Error View := do
  d.check limits
  let replacers ← d.replacers.traverse (fun _ pairs => Replacer.compile limits pairs)
  let shaders ← d.shaders.traverse (fun _ literal => Literal.parse limits literal)
  let article ← d.article.mapM (Grammar.line ⟨operators, policy, limits⟩)
  return ⟨d.shownTitle, d.bindings, replacers, shaders, article, operators, policy⟩

/-- Compiles a definition with the operators of every view. -/
def compile (policy : Policy) (limits : Limits) (d : Definition) : Except Error View :=
  compileWith .builtin policy limits d

/-- Reads and compiles a definition. -/
def parse (policy : Policy) (limits : Limits) (text : String) : Except Error View := do
  compile policy limits (← Definition.parse limits text)

/-- What the operators of a view can refer to when they render an event. -/
def context (v : View) (event : Event) : Context :=
  ⟨event, v.bindings, v.replacers, v.shaders⟩

/-- The paragraph that a line makes of an event. -/
def renderLine (v : View) (event : Event) (line : List Token) : Cached Paragraph := do
  let p ← evaluateLine v.operators (v.context event) line
  return if v.policy.linkUrls then Link.linkUrls p else p

/-- The paragraphs that lines make of an event, one after the other. -/
def renderLines (v : View) (event : Event) : List (List Token) → Cached (List Paragraph)
  | [] => pure []
  | line :: lines => do
    let p ← v.renderLine event line
    let ps ← v.renderLines event lines
    return p :: ps

/-- The article that a view makes of an event. -/
def render (v : View) (event : Event) : Cached Article :=
  .mk <$> v.renderLines event v.article

end View

end Daybook
