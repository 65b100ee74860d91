import Daybook.Script.Operator
import Daybook.Text.Blank

/-!
# The operators of every view

`replace`, `shader` and `var` make text; the others wrap their first operand into an element.
-/

namespace Daybook.Script

open Daybook.Markup

/-! ## Operands -/

/-- The text of an operand, empty if there is no such operand. -/
def operandText (operands : List Node) (index : Nat) : String :=
  (operands[index]?.map Node.textContent).getD ""

/-- The numbers below which an index must lie. -/
def indexBound : Nat :=
  Number.twoPow 64

/-- A number in decimal, with leading zeros and one plus sign if need be, below the bound for
indices. -/
def readIndex? (text : String) : Option Nat :=
  let digits := match text.toList with
    | '+' :: rest => rest
    | cs => cs
  if digits.isEmpty || !digits.all Char.isDigit then none
  else
    let value := digits.foldl (fun n c => 10 * n + (c.toNat - '0'.toNat)) 0
    if value < indexBound then some value else none

/-- An operand as an index; blanks around it do not matter. -/
def operandIndex? (operands : List Node) (index : Nat) : Option Nat :=
  readIndex? (Text.trim (operandText operands index))

/-- A text, or the empty text for none. -/
def textOrEmpty : Option String → Node
  | some text => .text text
  | none => .empty

/-! ## Handlers -/

/-- The text of the first operand after the replacer named by the second. -/
def replaceHandler : Handler := fun ctx operands =>
  let input := operandText operands 0
  pure (textOrEmpty ((ctx.replacers.get? (operandText operands 1)).map (·.apply input)))

/-- A group of a record of the first operand's text under the shader named by the second; record
and group are given by the other two. -/
def shaderHandler : Handler := fun ctx operands =>
  match operandIndex? operands 2, operandIndex? operands 3 with
  | some index, some group =>
    textOrEmpty <$> Shader.extract? ctx.shaders (operandText operands 1) (operandText operands 0)
      index group
  | _, _ => pure .empty

/-- The variable of a name, or what the event holds under it. -/
def varHandler : Handler := fun ctx operands =>
  let key := operandText operands 0
  match ctx.bindings.get? key with
  | some value => pure (.text value.toText)
  | none => pure (textOrEmpty (ctx.event.reserved? key))

/-- The attributes of a wrapper: a class unless that is empty, and for `time` its text. -/
def wrapperAttributes (tag : Tag) (operands : List Node) : List Attribute :=
  let className := operandText operands 1
  (if className.isEmpty then [] else [⟨.className, className⟩]) ++
    if tag = .time then [⟨.datetime, operandText operands 0⟩] else []

/-- The first operand in an element; an empty text is left out. -/
def wrap (tag : Tag) (operands : List Node) : Node :=
  .element tag (wrapperAttributes tag operands)
    ((operands.take 1).filter (fun node => !node.isEmptyText))

/-- Wraps the first operand, with the second for its class. -/
def wrapHandler (tag : Tag) : Handler :=
  fun _ operands => pure (wrap tag operands)

/-! ## The table -/

/-- The tags that views can ask for. -/
def wrapperTags : List Tag :=
  [.span, .strong, .em, .i, .b, .time, .abbr]

/-- The name of the operator that wraps into a tag. -/
def wrapperName (tag : Tag) : String :=
  "<" ++ tag.name ++ ">"

/-- The operators of every view. -/
def builtinOperators : List Operator :=
  [⟨"replace", 2, replaceHandler⟩, ⟨"shader", 4, shaderHandler⟩, ⟨"var", 1, varHandler⟩] ++
    wrapperTags.map (fun tag => ⟨wrapperName tag, 2, wrapHandler tag⟩)

/-- The table of the operators of every view. -/
def OperatorTable.builtin : OperatorTable :=
  .ofList builtinOperators

end Daybook.Script
